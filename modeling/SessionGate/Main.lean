import SessionGate.Gateway.State
import SessionGate.Intercept.Arguments
import SessionGate.Log.Line

/-!
# The command line

- `gateway OPTIONS` reads the settings of the gateway, tells them and connects to the cluster.
- `intercept OPTIONS` reads the template of an interception, connects to the cluster and lists the
  manifests that are applied.

Either ends when all is prepared, or with the reason why it cannot be. This module reads the
environment and files and prints; everything else is decided by the library.
-/
namespace SessionGate.Main
set_option autoImplicit false
open CommandLine (Environment)

/-! ## Inputs -/

/-- Variables of the environment that matter. -/
def variableNames : List String :=
  Gateway.Config.settings.filterMap (·.fallback) ++ Cluster.serviceVariables ++
    Cluster.proxyVariables ++ [Log.Filter.variableName, "KUBECONFIG", "HOME"]

def readEnvironment : IO Environment :=
  variableNames.filterMapM fun name => do return (← IO.getEnv name).map (name, ·)

def readFile (path : String) : IO (Except FileError Utf8.Bytes) := do
  try
    return .ok (← IO.FS.readBinFile path).toList
  catch
    | .permissionDenied .. => return .error .denied
    | .inappropriateType .. => return .error .isDirectory
    | _ => return .error .notFound

/-- Contents of the files that have been read. -/
abbrev Contents := List (String × Except FileError Utf8.Bytes)

def Contents.files (contents : Contents) : Files := fun path =>
  (List.lookup path contents).getD (.error .notFound)

def readAll (paths : List String) : IO Contents :=
  paths.mapM fun path => do return (path, ← readFile path)

/-- Reads the files at some paths, of the service account and of the configuration, and those that the
last ones name. -/
def readFiles (environment : Environment) (kubeconfig : Option String) (paths : List String) :
    IO Files := do
  let configurations := kubeconfig.elim (Cluster.defaultPaths environment) ([·])
  let first ← readAll (configurations ++ Cluster.accountFiles ++ paths)
  let named := (Cluster.Kubeconfig.ofFiles? first.files configurations).elim [] (·.references)
  return (first ++ (← readAll named)).files

/-- The present, as the time of a file that is made for it. -/
def readClock : IO Int := do
  try
    let (_, path) ← IO.FS.createTempFile
    let made := (← path.metadata).modified.sec
    IO.FS.removeFile path
    return made
  catch _ => return Cluster.Host.bare.present

/-- The machine; it runs no commands for credentials. -/
def readHost : IO Cluster.Host := return { Cluster.Host.bare with present := ← readClock }

/-! ## Outputs -/

def report (logger : Log.Logger) (target : String) (events : List Log.Event) : IO Unit :=
  (events.filterMap (logger.line? [] target)).forM fun line => IO.println line.text

/-- Ends with a message. -/
def refuse (message : String) : IO UInt32 := do
  IO.eprintln message
  return 1

/-! ## Commands -/

def gateway (environment : Environment) (arguments : List String) : IO UInt32 := do
  match Gateway.Config.ofArguments environment arguments with
  | .error failure => IO.eprintln failure.message; return failure.exitCode
  | .ok config =>
    match Log.Logger.install none environment config.logLevel .json with
    | .error e => refuse e.message
    | .ok logger =>
      let files ← readFiles environment none config.caFile.toList
      let (events, state) := Gateway.State.build environment files config (← readHost)
      report logger "gateway" (config.parameters :: events)
      match state with
      | .ok _ => return 0
      | .error (.refused e) => refuse e.message
      | .error (.crashed text) => refuse text

def intercept (environment : Environment) (arguments : List String) : IO UInt32 := do
  match Intercept.Arguments.ofArguments environment arguments with
  | .error failure => IO.eprintln failure.message; return failure.exitCode
  | .ok settings =>
    match Log.Logger.install none environment settings.level .compact with
    | .error e => refuse e.message
    | .ok logger =>
      let fail (message : String) : IO UInt32 := do
        report logger "intercept" [.error "interception failed" [("error", .shown message)]]
        return 1
      let files ← readFiles environment settings.kubeconfig [settings.template]
      match settings.prepare environment files (← readHost) with
      | .error e => fail e.message
      | .ok (plan, _) =>
        match plan.manifests with
        | .error e => fail e.message
        | .ok manifests =>
          manifests.forM fun m =>
            IO.println (m.namespaceName ++ "/" ++ m.resource.plural ++ "/" ++ m.name)
          return 0

end SessionGate.Main

def main (arguments : List String) : IO UInt32 := do
  let environment ← SessionGate.Main.readEnvironment
  match arguments with
  | "gateway" :: rest => SessionGate.Main.gateway environment rest
  | _ => SessionGate.Main.intercept environment arguments
