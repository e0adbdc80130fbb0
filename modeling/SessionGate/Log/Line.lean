import SessionGate.Json.Printer
import SessionGate.Log.Filter
import SessionGate.Text.Quoted

/-!
# Lines of a log

An event is written as one line: as a JSON object, or as a compact line for people.

- `Line.of` is the line of an event without its time; `Line.text` is what is printed of it.
- `Logger.line?` writes the events that the filter admits.
-/
namespace SessionGate.Log
set_option autoImplicit false

inductive Format where
  | json
  | compact
deriving DecidableEq, Inhabited

inductive Line where
  | object (level : Level) (target message : String) (fields : List (String × Value))
  | compact (level : Level) (rest : String)
deriving DecidableEq, Inhabited

/-! ## Values -/

namespace Value

def json : Value → Json
  | .text value | .shown value => .string value
  | .number value => .int value
  | .flag value => .bool value

/-- A text stands between quotes, so that its end is seen. -/
def plain : Value → String
  | .text value => Text.quoted value
  | .shown value => value
  | .number value => toString value
  | .flag value => if value then "true" else "false"

end Value

/-! ## Lines -/

namespace Line

/-- Line of an event inside of spans. People see the spans and their fields, a machine the target. -/
def of (format : Format) (spans : List Span) (target : String) (event : Event) : Line :=
  match format with
  | .json => .object event.level target event.name event.fields
  | .compact =>
    let around := if spans.isEmpty then "" else String.join (spans.map (·.name ++ ":")) ++ " "
    let own := event.fields.map fun (name, value) => name ++ "=" ++ value.plain
    let outer := spans.flatMap fun span =>
      span.fields.map fun (name, n) => name ++ "=" ++ toString n
    .compact event.level (around ++ " ".intercalate (event.name :: own ++ outer))

/-- The line without its time: an object, or a text as a string. -/
def body : Line → Json
  | .object level target message fields =>
    Json.ofMembers [("level", .string level.name),
      ("fields", Json.ofMembers (("message", .string message) ::
        fields.map fun (name, value) => (name, value.json))),
      ("target", .string target)]
  | .compact level rest => .string (level.name ++ " " ++ rest)

/-- What is printed of a line. -/
def text (line : Line) : String :=
  match line.body with
  | .string text => text
  | other => other.compress

end Line

/-! ## Loggers -/

structure Logger where
  filter : Filter
  format : Format := .json
deriving DecidableEq, Inhabited

namespace Logger

/-- The scope inside of spans, the outermost first. -/
def scope (logger : Logger) (spans : List Span) : Filter.Scope :=
  spans.foldl logger.filter.enter {}

/-- Line of an event inside of spans, if it is reported. -/
def line? (logger : Logger) (spans : List Span) (target : String) (event : Event) : Option Line :=
  let scope := logger.scope spans
  if logger.filter.admits scope target event then
    some (Line.of logger.format scope.spans target event)
  else none

/-- Installs a logger; only the first one of a program can be installed. -/
def install (installed : Option Logger) (environment : List (String × String)) (level : String)
    (format : Format) : Except Filter.SetupError Logger := do
  let filter ← Filter.ofSettings environment level
  if installed.isSome then .error .alreadyInstalled else .ok ⟨filter, format⟩

end Logger
end SessionGate.Log
