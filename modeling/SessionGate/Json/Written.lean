import SessionGate.Json.Basic

/-!
# JSON as it is written

A tree of what a JSON text says, before anything is asked of its parts. The members of an object
stand in the order of the text, and a key can occur more than once. A number may be too great for a
float and a string may hold half of a surrogate pair: such parts are harmless where nobody looks at
them.

- `Written.value?` is the value that a text stands for.
- `Json.written` writes a value.
-/
namespace SessionGate.Json
set_option autoImplicit false

/-- A JSON text as a tree. -/
inductive Written where
  | null
  | bool (value : Bool)
  /-- Nothing stands for a number out of range. -/
  | number (value : Option Json)
  /-- Nothing stands for a string that is no text. -/
  | string (value : Option String)
  | array (items : List Written)
  | object (members : List (Option String × Written))
deriving Inhabited

/-- Deepest nesting of arrays and objects. -/
def maxDepth : Nat := 127

namespace Written

mutual

/-- The value that a text stands for; `depth` more levels of nesting are allowed. Of two members
with one key the later one stays. -/
def value? (depth : Nat) : Written → Option Json
  | .null => some .null
  | .bool b => some (.bool b)
  | .number n => n
  | .string s => s.map .string
  | .array items =>
    match depth with
    | 0 => none
    | depth + 1 => (itemValues? depth items).map .array
  | .object members =>
    match depth with
    | 0 => none
    | depth + 1 => (memberValues? depth members).map Json.ofMembers

def itemValues? (depth : Nat) : List Written → Option (List Json)
  | [] => some []
  | item :: items => do
    let value ← item.value? depth
    return value :: (← itemValues? depth items)

def memberValues? (depth : Nat) : List (Option String × Written) → Option Members
  | [] => some []
  | (key, item) :: members => do
    let key ← key
    let value ← item.value? depth
    return (key, value) :: (← memberValues? depth members)

end

end Written

mutual

/-- Writes a value. -/
def written : Json → Written
  | .null => .null
  | .bool b => .bool b
  | .int n => .number (some (.int n))
  | .double d => .number (some (.double d))
  | .string s => .string (some s)
  | .array items => .array (writtenItems items)
  | .object members => .object (writtenMembers members)

def writtenItems : List Json → List Written
  | [] => []
  | item :: items => item.written :: writtenItems items

def writtenMembers : List (String × Json) → List (Option String × Written)
  | [] => []
  | (key, value) :: members => (some key, value.written) :: writtenMembers members

end

end SessionGate.Json
