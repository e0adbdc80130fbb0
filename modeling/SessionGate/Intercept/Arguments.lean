import SessionGate.Cluster.Connection
import SessionGate.Intercept.Plan
import SessionGate.Session.Token

/-!
# Arguments of interceptions

- `Arguments.ofArguments` reads the command line; the one subcommand is `intercept`.
- `Arguments.plan` reads the template and makes the plan of a run.
- `Arguments.prepare` makes the plan and connects to the cluster.
-/
namespace SessionGate.Intercept
set_option autoImplicit false
open CommandLine
open Number (Double)

/-- Why there is no plan or no run. -/
inductive PlanError where
  | cluster (cause : Cluster.Error)
  | crashed (text : String)
  | template (path : String) (cause : FileError)
  | validation (text : String)
deriving DecidableEq, Inhabited

def PlanError.message : PlanError → String
  | .cluster cause => cause.message
  | .crashed text => text
  | .template path cause => "failed to read template " ++ path ++ ": " ++ cause.message
  | .validation text => "validation error: " ++ text

structure Arguments where
  logLevel : Option String := none
  template : String := ""
  namespaceName : String := ""
  session : String := ""
  /-- Seconds to wait before the logs are followed. -/
  wait : Double := .ofInt 5
  echoDeploy : String := "carta-echo"
  kubeconfig : Option String := none
deriving Inhabited

namespace Arguments

/-! ## The command line -/

/-- Reads the id of a session. -/
def session? (text : String) : Except Failure String :=
  match Session.Token.parse? text with
  | some token => .ok token.text
  | none => .error .invalidForm

/-- Reads a number of seconds. -/
def seconds? (text : String) : Except Failure Double :=
  match Double.ofLiteral? text with
  | some d => .ok d
  | none => .error .invalidForm

def interceptCommand : Command Arguments where
  settings :=
    [{ name := "template", letter := some 't', required := true,
       read := fun text => do
         let path ← path? text
         return fun a => { a with template := path } },
      { name := "namespace", letter := some 'n', required := true,
        read := fun text => .ok fun a => { a with namespaceName := text } },
      { name := "session-id", letter := some 's', required := true,
        read := fun text => do
          let session ← session? text
          return fun a => { a with session } },
      { name := "wait", letter := some 'w',
        read := fun text => do
          let wait ← seconds? text
          return fun a => { a with wait } },
      { name := "echo-deploy",
        read := fun text => .ok fun a => { a with echoDeploy := text } },
      { name := "kubeconfig",
        read := fun text => do
          let path ← path? text
          return fun a => { a with kubeconfig := some path } },
      { name := "log-level",
        read := fun text => .ok fun a => { a with logLevel := some text } }]

/-- The level of the log stands in front of the subcommand or among its arguments. -/
def rootCommand : Command (Option String) where
  settings :=
    [{ name := "log-level", fallback := some "LOG_LEVEL", read := fun text => .ok fun _ => some text }]
  hasVersion := true
  subcommands := ["intercept", "help"]

/-- What help on these subcommands shows. -/
def help (names : List String) : Failure :=
  match names with
  | [] => .help
  | [name] => if rootCommand.subcommands.contains name then .help else .unknownSubcommand
  | _ => .unknownSubcommand

/-- Reads a command line. -/
def ofArguments (environment : Environment) (arguments : List String) :
    Except Failure Arguments := do
  match ← rootCommand.readArguments arguments ⟨none, [], none⟩ with
  | (root, some (name, rest)) =>
    if name = "help" then throw (help rest)
    let r ← interceptCommand.read {} environment rest
    let root ← rootCommand.readEnvironment environment (← root.settle)
    return { r.values with logLevel := r.values.logLevel.orElse fun _ => root.values }
  | (root, none) =>
    let root ← rootCommand.readEnvironment environment (← root.settle)
    if root.given.isEmpty then throw .nothingGiven else throw .missingSubcommand

/-- Level of the log, unless another one is given. -/
def level (a : Arguments) : String := a.logLevel.getD "info"

/-! ## Plans -/

/-- The time that the arguments ask to wait. -/
def span (a : Arguments) : Except PlanError Duration :=
  match Duration.ofSeconds? a.wait with
  | .ok span => .ok span
  | .error e => .error (.validation ("--wait " ++ a.wait.positional ++ ": " ++ e.message))

/-- Reads the template and makes the plan. -/
def plan (a : Arguments) (files : Files) : Except PlanError Plan := do
  match files.text a.template with
  | .error e => throw (.template a.template e)
  | .ok template =>
    let wait ← a.span
    return ⟨a.namespaceName, a.session, template, wait, a.echoDeploy⟩

/-- Makes the plan and connects to the cluster. -/
def prepare (a : Arguments) (environment : Environment) (files : Files)
    (host : Cluster.Host := .bare) : Except PlanError (Plan × Cluster.Connection) := do
  let plan ← a.plan files
  match Cluster.connect environment files { kubeconfig := a.kubeconfig } host with
  | (_, .error (.refused e)) => throw (.cluster e)
  | (_, .error (.crashed text)) => throw (.crashed text)
  | (_, .ok connection) => return (plan, connection)

end Arguments
end SessionGate.Intercept
