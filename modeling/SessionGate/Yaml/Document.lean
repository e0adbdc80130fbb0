import SessionGate.Cluster.Error
import SessionGate.Json.Basic
import SessionGate.Yaml.Node
import SessionGate.Yaml.Token.Lexer

/-!
# YAML streams as JSON values

- `Node.toJson` converts a value, or says what JSON cannot hold.
- `documents` converts a stream and leaves out the documents that are null. It fails as a whole.
-/
namespace SessionGate.Yaml
set_option autoImplicit false

/-- What JSON cannot hold. -/
inductive ConversionError where
  | float (text : String)
  /-- A key that names no member, as it is shown. -/
  | key (shown : String)
  | bad
deriving DecidableEq, Inhabited

def ConversionError.message : ConversionError → String
  | .float text => "invalid float: " ++ text
  | .key shown => "unsupported YAML key: " ++ shown
  | .bad => "bad YAML value"

namespace Node

mutual

/-- A value as it is shown to a reader of a message. -/
def shown : Node → String
  | .null => "Null"
  | .bool b => "Boolean(" ++ (if b then "true" else "false") ++ ")"
  | .int i => "Integer(" ++ toString i ++ ")"
  | .real written => "Real(" ++ Text.quoted written ++ ")"
  | .text s => "String(" ++ Text.quoted s ++ ")"
  | .sequence items => "Array([" ++ String.intercalate ", " (itemsShown items) ++ "])"
  | .mapping entries => "Hash(\x7b" ++ String.intercalate ", " (entriesShown entries) ++ "\x7d)"
  | .bad => "BadValue"

def itemsShown : List Node → List String
  | [] => []
  | item :: items => shown item :: itemsShown items

def entriesShown : List (Node × Node) → List String
  | [] => []
  | (key, value) :: entries => (shown key ++ ": " ++ shown value) :: entriesShown entries

end

/-- The name of a member for a key. -/
def key? : Node → Option String
  | .text s => some s
  | .real s => some s
  | .int i => some (toString i)
  | .bool b => some (if b then "true" else "false")
  | _ => none

/-- A float that is too great for JSON is null. -/
def realToJson (text : String) : Except ConversionError Json :=
  match Number.Double.ofLiteral? text with
  | none => .error (.float text)
  | some d => .ok (if d.isFinite then .double d else .null)

mutual

def toJson : Node → Except ConversionError Json
  | .null => .ok .null
  | .bool b => .ok (.bool b)
  | .int i => .ok (.int i)
  | .real written => realToJson written
  | .text s => .ok (.string s)
  | .sequence items => (itemsToJson items).map .array
  | .mapping entries => (entriesToJson entries).map Json.ofMembers
  | .bad => .error .bad

def itemsToJson : List Node → Except ConversionError (List Json)
  | [] => .ok []
  | item :: items => do return (← toJson item) :: (← itemsToJson items)

def entriesToJson : List (Node × Node) → Except ConversionError Json.Members
  | [] => .ok []
  | (key, value) :: entries => do
    match key.key? with
    | none => throw (.key key.shown)
    | some name => return (name, ← toJson value) :: (← entriesToJson entries)

end

end Node

/-- The values of the documents of a text. -/
def load (text : String) : Except Error (List Node) := do
  Node.documents (← Tree.documents (← Token.scan text))

/-- Converts the documents, without those that are null. -/
def convert (nodes : List Node) : Except ConversionError (List Json) :=
  (Node.itemsToJson nodes).map (·.filter (!·.isNull))

/-- The documents of a text that are not null. -/
def documents (text : String) : Except Cluster.Error (List Json) :=
  match load text with
  | .error e => .error (.manifest ("invalid YAML: " ++ e.message) none)
  | .ok nodes =>
    match convert nodes with
    | .error e => .error (.manifest e.message none)
    | .ok values => .ok values

end SessionGate.Yaml
