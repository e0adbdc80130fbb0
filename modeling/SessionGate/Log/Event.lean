/-!
# Log events

An event has a level, a name and named fields. Every part of the library that reports something
yields events; how they are filtered and written is decided elsewhere.
-/
namespace SessionGate.Log
set_option autoImplicit false

/-- Levels, the most severe first. -/
inductive Level where
  | error
  | warn
  | info
  | debug
  | trace
deriving DecidableEq, Inhabited

namespace Level

def name : Level → String
  | .error => "ERROR"
  | .warn => "WARN"
  | .info => "INFO"
  | .debug => "DEBUG"
  | .trace => "TRACE"

/-- Verbosity: the most severe level is the least verbose. -/
def verbosity : Level → Nat
  | .error => 1
  | .warn => 2
  | .info => 3
  | .debug => 4
  | .trace => 5

end Level

/-- Value of a field: a text that is quoted where people read it, the text that shows some other
value, a number or a flag. -/
inductive Value where
  | text (value : String)
  | shown (value : String)
  | number (value : Int)
  | flag (value : Bool)
deriving DecidableEq, Inhabited

structure Event where
  level : Level
  name : String
  fields : List (String × Value)
deriving DecidableEq, Inhabited

namespace Event

def error (name : String) (fields : List (String × Value)) : Event := ⟨.error, name, fields⟩
def warn (name : String) (fields : List (String × Value)) : Event := ⟨.warn, name, fields⟩
def info (name : String) (fields : List (String × Value)) : Event := ⟨.info, name, fields⟩
def debug (name : String) (fields : List (String × Value)) : Event := ⟨.debug, name, fields⟩

end Event
end SessionGate.Log
