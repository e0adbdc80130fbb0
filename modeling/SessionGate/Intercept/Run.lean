import SessionGate.Intercept.Plan
import SessionGate.Intercept.RouteGuard

/-!
# Interceptions

`run` applies the manifests of a plan, puts the gateway's middleware in front of the session's route,
follows the logs until they end or the run is cancelled, and takes everything down again.

- When the manifests cannot be applied nothing is taken down, for the route has not been changed.
- From the change of the route on, `cleanUp` runs on every way out, and each of its steps runs
  whether the others fail or not.
- A crash while the logs are looked up, or while they are followed, is caught and told.
-/
namespace SessionGate.Intercept
set_option autoImplicit false
open Cluster (Error Manifest)

/-! ## What a run asks -/

/-- An operation that broke off, perhaps with a text. -/
structure Crash where
  text : Option String
deriving DecidableEq, Inhabited

/-- The text of a crash where one is needed. -/
def Crash.message (crash : Crash) : String := crash.text.getD "panic"

/-- How a crashed task is told. -/
def Crash.report (crash : Crash) : String :=
  match crash.text with
  | some text => "task panicked with message " ++ Text.quoted text
  | none => "task panicked"

inductive Attempt (α : Type) where
  | returned (value : α)
  | crashed (crash : Crash)

/-- Operations on the cluster. -/
inductive ClusterCall where
  | apply (manifests : List Manifest)
  | delete (manifests : List Manifest)
  /-- The deployment whose logs are followed. -/
  | workload (ns preferred : String)
  | route (call : RouteCall)
deriving DecidableEq, Inhabited

abbrev ClusterCall.Answer : ClusterCall → Type
  | .apply _ => Except Error Unit
  | .delete _ => Except Error Unit
  | .workload .. => Attempt (Except Error String)
  | .route call => call.Answer

/-- How a run ended. -/
inductive Outcome where
  /-- The logs ended by themselves. -/
  | completed
  /-- The run was cancelled. -/
  | interrupted
deriving DecidableEq, Inhabited

def Outcome.exitCode : Outcome → Nat
  | .completed => 0
  | .interrupted => 130

/-- What a run does. -/
inductive Act where
  | cluster (call : ClusterCall)
  /-- Lets time pass; answers whether the run was cancelled before the end of it. -/
  | wait (span : Duration)
  /-- Starts the task that follows the logs. -/
  | startLog (ns deployment : String)
  /-- Looks at every poll whether the run is cancelled or the task has ended. -/
  | awaitExit
  /-- Stops the task; answers its crash, if it crashed. -/
  | stopLog
deriving DecidableEq, Inhabited

abbrev Act.Answer : Act → Type
  | .cluster call => call.Answer
  | .wait _ => Bool
  | .startLog .. => Unit
  | .awaitExit => Outcome
  | .stopLog => Option Crash

def stage : Interface := ⟨Act, Act.Answer⟩

def applyAll (manifests : List Manifest) : Program stage (Except Error Unit) :=
  .ask (.cluster (.apply manifests)) .done

def deleteAll (manifests : List Manifest) : Program stage (Except Error Unit) :=
  .ask (.cluster (.delete manifests)) .done

def findWorkload (ns preferred : String) : Program stage (Attempt (Except Error String)) :=
  .ask (.cluster (.workload ns preferred)) .done

/-- A program over the routes as a part of a run. -/
def onRoutes {α : Type} (program : Program routeAccess α) : Program stage α :=
  program.expand (J := stage) fun call => .ask (.cluster (.route call)) .done

def waitFor (span : Duration) : Program stage Bool := .ask (.wait span) .done
def startLog (ns deployment : String) : Program stage Unit := .ask (.startLog ns deployment) .done
def awaitExit : Program stage Outcome := .ask .awaitExit .done
def stopLog : Program stage (Option Crash) := .ask .stopLog .done

/-! ## The run -/

/-- What the task that follows the logs reports at its end. -/
def logTaskEvents (deployment : String) : Attempt (Except Error Unit) → List Log.Event
  | .returned (.error e) =>
    [.warn "log stream ended with error" [("error", .shown e.message),
      ("deploy_name", .shown deployment)]]
  | _ => []

/-- Waits, follows the logs and waits for the end; answers also whether a task was started. -/
def follow (plan : Plan) : Program stage (Attempt (Outcome × Bool)) := do
  if ← waitFor plan.wait then return .returned (.interrupted, false)
  match ← findWorkload plan.namespaceName plan.echoDeploy with
  | .crashed crash => return .crashed crash
  | .returned found =>
    let deployment ←
      match found with
      | .ok name => pure name
      | .error e => do
        Program.report (.warn "could not look up echo deployment"
          [("error", .shown e.message), ("fallback", .shown plan.echoDeploy)])
        pure plan.echoDeploy
    Program.report (.info "tailing_logs"
      [("deploy_name", .shown deployment), ("namespace", .shown plan.namespaceName)])
    startLog plan.namespaceName deployment
    return .returned (← awaitExit, true)

/-- Stops the task, deletes the manifests and puts the route back. -/
def cleanUp (plan : Plan) (manifests : List Manifest) (guarded : Option Guarded) (tailing : Bool) :
    Program stage Unit := do
  if tailing then
    if let some crash ← stopLog then
      Program.report (.warn "log task failed" [("error", .shown crash.report)])
  Program.report (.info "deleting_mirror_resources" [("namespace", .shown plan.namespaceName)])
  if let .error e ← deleteAll manifests then
    Program.report (.warn "failed to delete mirror resources" [("error", .shown e.message)])
  let route := guarded.bind (·.route)
  Program.report (.info "restoring_base_route_middlewares"
    [("base_ir_name", .text (route.getD ""))])
  match route, guarded.bind (·.snapshot) with
  | some name, some snapshot =>
    if let .error e ← onRoutes (RouteGuard.restore plan.namespaceName name snapshot) then
      Program.report (.warn "failed to restore middlewares"
        [("error", .shown e.message), ("route", .shown name)])
  | _, _ => pure ()
  Program.report (.info "done" [])

/-- What is reported on the route of the session. -/
def guardedEvent (plan : Plan) (guarded : Guarded) : Log.Event :=
  match guarded.route with
  | some name =>
    .info (if guarded.changed then "forwardauth_added" else "forwardauth_present")
      [("base_ir_name", .shown name)]
  | none => .warn "no ingressroute found for session" [("session_id", .shown plan.session)]

/-- Runs a plan whose manifests are known. -/
def runManifests (plan : Plan) (manifests : List Manifest) :
    Program stage (Except Error Outcome) := do
  let whose := [("namespace", Log.Value.shown plan.namespaceName),
    ("session_id", Log.Value.shown plan.session)]
  Program.report (.info "applying_template" (whose ++ [("documents", .number manifests.length)]))
  match ← applyAll manifests with
  | .error e => return .error e
  | .ok () =>
    Program.report (.info "ensuring_forwardauth"
      (whose ++ [("middleware_name", .text forwardAuth)]))
    match ← onRoutes (RouteGuard.install plan.namespaceName plan.session) with
    | .error e =>
      Program.report (.error "failed to put forwardAuth on session route"
        [("error", .shown e.message)])
      cleanUp plan manifests none false
      return .error e
    | .ok guarded =>
      Program.report (guardedEvent plan guarded)
      match ← follow plan with
      | .returned (outcome, tailing) =>
        cleanUp plan manifests (some guarded) tailing
        return .ok outcome
      | .crashed crash =>
        Program.report (.error "wait phase panicked" [("error", .shown crash.message)])
        cleanUp plan manifests (some guarded) false
        return .error (.internal crash.message "wait_and_tail")

/-- Runs a plan. -/
def run (plan : Plan) : Program stage (Except Error Outcome) :=
  match plan.manifests with
  | .error e => .done (.error e)
  | .ok manifests => runManifests plan manifests

end SessionGate.Intercept
