import SessionGate.Cluster.Delivery
import SessionGate.Cluster.Server
import SessionGate.Cluster.Shape.Deployment
import SessionGate.Intercept.Rehearsal

/-!
# Interceptions before an API server

- `routeAnswer` answers the calls of the store of routes by requests.
- `resolveWorkload` looks for the deployment whose logs are followed, by name and then by label.
- `followLogs` prints the log of a pod of a deployment.
- `serverSite` is the site of a scripted server.
-/
namespace SessionGate.Intercept
set_option autoImplicit false
open Cluster

/-- Lets a failed request be a failure of the cluster. -/
def requested {α : Type} : Except Cluster.RequestError α → Except Error α
  | .ok a => .ok a
  | .error e => .error (.request e)

/-! ## Routes -/

def routeResource : Resource := .of "traefik.io/v1alpha1" "IngressRoute"

def routeAnswer : (call : RouteCall) → Program http call.Answer
  | .get ns name => do
    return requested (← Client.find routeResource Cluster.anyObject? ns name)
  | .list ns => do
    return requested (← Client.list routeResource Cluster.anyObject? ns ⟨none, none⟩)
  | .patch ns name p => do
    return requested ((← Client.patch routeResource ns name p).map fun _ => ())

/-! ## Logs -/

/-- Name of an object, or the beginning of one that is made up. -/
def nameOf (object : Json) : String :=
  match (object.pointer? ["metadata", "name"]).bind Json.string? with
  | some name => name
  | none => ((object.pointer? ["metadata", "generateName"]).bind Json.string?).getD ""

def deploymentResource : Resource := .of "apps/v1" "Deployment"

/-- Selects the deployments that echo. -/
def echoSelector : String := "app=carta-echo"

/-- The preferred deployment if it exists, else the first one that echoes, else the preferred name
all the same. -/
def resolveWorkload (ns preferred : String) : Program http (Except Error String) := do
  match ← Client.find deploymentResource (fun depth => Cluster.deployment.read? depth) ns preferred with
  | .error e => return .error (.request e)
  | .ok (some _) => return .ok preferred
  | .ok none =>
    match ← Client.list deploymentResource (fun depth => Cluster.deployment.read? depth) ns
        ⟨some echoSelector, some 1⟩ with
    | .error e => return .error (.request e)
    | .ok (found :: _) =>
      let name := nameOf found
      Program.report (.debug "echo deployment found by label"
        [("name", .shown name), ("selector", .text echoSelector)])
      return .ok name
    | .ok [] =>
      Program.report (.warn "echo deployment not found, using given name"
        [("name", .shown preferred)])
      return .ok preferred

/-- Selector of the pods of a deployment, if it has labels to match. -/
def podSelector? (deployment : Json) : Option String :=
  match (deployment.pointer? ["spec", "selector", "matchLabels"]).bind Json.members? with
  | some (label :: labels) =>
    some (String.intercalate "," ((label :: labels).map fun (key, value) =>
      key ++ "=" ++ (value.string?).getD ""))
  | _ => none

def isRunning (pod : Json) : Bool :=
  (pod.pointer? ["status", "phase"]).bind Json.string? == some "Running"

/-- The first running pod of a deployment, else the first one. -/
def podOf (ns deployment : String) : Program http (Except Error String) := do
  match ← Client.get deploymentResource (fun depth => Cluster.deployment.read? depth) ns deployment with
  | .error e => return .error (.request e)
  | .ok object =>
    match podSelector? object with
    | none =>
      return .error (.manifest (deployment ++ " has no matchLabels") (some "Deployment"))
    | some selector =>
      match ← Client.list (.of "v1" "Pod") (fun depth => Cluster.pod.read? depth) ns ⟨some selector, none⟩ with
      | .error e => return .error (.request e)
      | .ok pods =>
        match (pods.find? isRunning).orElse fun _ => pods.head? with
        | some pod => return .ok (nameOf pod)
        | none =>
          return .error (.internal
            ("no pods for deployment " ++ deployment ++ " (" ++ selector ++ ")") "stream_logs")

/-- The lines of a log; each ends in a line feed, and a carriage return in front of it belongs to
the end. -/
def logLines (bytes : Utf8.Bytes) : List Utf8.Bytes :=
  let lines := bytes.splitBy (fun b _ => b != 10)
  lines.map fun line =>
    if line.getLast? = some 10 then
      let line := line.dropLast
      if line.getLast? = some 13 then line.dropLast else line
    else line

/-- Prints lines up to the first one that is no text. -/
def printLines (pod : String) : List Utf8.Bytes → Program http (Except Error Unit)
  | [] => return .ok ()
  | line :: rest => do
    match Utf8.decode? line with
    | some text =>
      Cluster.printLine text
      printLines pod rest
    | none =>
      return .error (.internal
        ("log stream for " ++ pod ++ ": stream did not contain valid UTF-8") "stream_logs")

/-- Prints the log of a pod of a deployment. -/
def followLogs (ns deployment : String) : Program http (Except Error Unit) := do
  match ← podOf ns deployment with
  | .error e => return .error e
  | .ok pod =>
    Program.report (.info "following logs" [("pod", .shown pod)])
    match ← Client.followLog ns pod with
    | .error e => return .error (.request e)
    | .ok bytes => printLines pod (logLines bytes)

/-! ## The site -/

/-- Name under which manifests are applied. -/
def managerName : String := "carta-intercept"

/-- Answers the calls of a run by requests. -/
def clusterAnswer : (call : ClusterCall) → Program http call.Answer
  | .apply manifests => Manifest.applyAll managerName manifests
  | .delete manifests => Manifest.deleteAll manifests
  | .workload ns preferred => do return .returned (← resolveWorkload ns preferred)
  | .route call => routeAnswer call

/-- The site of a scripted server. -/
def serverSite : Site Cluster.Server Cluster.Request where
  answer call m := Cluster.Server.run (clusterAnswer call) m
  stream ns deployment deadline m :=
    match deadline with
    | none =>
      let (ended, m) := Cluster.Server.run (followLogs ns deployment) m
      (some (.returned ended), m)
    | some instant =>
      let (ended, m) := Cluster.Server.runBefore instant (followLogs ns deployment) m
      (ended.map .returned, m)
  cancelsFirst := false
  endsFirst := false

end SessionGate.Intercept
