import SessionGate.Json.Written
import SessionGate.Number.Timestamp

/-!
# Shapes of API objects

A shape says which JSON texts are objects of a type. `Shape.read?` refuses a text that is not of a
shape and drops what the type does not know: unknown fields, and fields that are null.

- The fields of an object can be given more than once. Each of their values is of the shape, and the
  last one stays.
- A record is given by an array, too, and no field of it more than once.
-/
namespace SessionGate.Cluster
set_option autoImplicit false
open Json (Written)

inductive Shape where
  | any
  | text
  /-- A text that is empty where it is missing. -/
  | filledText
  /-- This very text, never null. -/
  | word (expected : String)
  | flag
  /-- An integer in a range. -/
  | integer (low high : Int)
  | instant
  /-- A point in time that must be given. -/
  | neededInstant
  | integerOrText
  | list (item : Shape)
  /-- Any keys with values of one shape. -/
  | table (item : Shape)
  /-- Known fields, each of which may be missing or null. -/
  | fields (known : List (String × Shape))
  /-- One of these words, or an object with it as the key of null. -/
  | choice (words : List String)
  /-- Known fields, which are null only where they are `optional`. -/
  | record (known : List (String × Shape))
  /-- Null, or of the shape. -/
  | optional (item : Shape)
  /-- A field of a record that must be given. -/
  | needed (item : Shape)
deriving Inhabited

namespace Shape

def int32 : Shape := .integer (-(twoPow 31)) (twoPow 31 - 1)

def int64 : Shape := .integer (-(twoPow 63)) (twoPow 63 - 1)

def texts : Shape := .list .text

def labels : Shape := .table .text

/-- Quantities by name; they are written as texts. -/
def quantities : Shape := .table .text

/-- Whether the field of an object may be null. -/
def allowsNull : Shape → Bool
  | .word _ => false
  | _ => true

/-- What stands for a missing field; nothing where it must be given. -/
def absent? : Shape → Option (Option Json)
  | .filledText => some (some (.string ""))
  | .neededInstant | .needed _ => none
  | _ => some none

/-- The values of a member, in order. -/
def valuesOf (name : String) (members : List (Option String × Written)) : List Written :=
  members.filterMap fun (key, value) => if key = some name then some value else none

mutual

/-- The value of a text of the shape, without what the shape does not know; `depth` more levels of
nesting are allowed. -/
def read? (depth : Nat) : Shape → Written → Option Json
  | .any, value => value.value? depth
  | .text, .string s | .filledText, .string s => s.map .string
  | .word expected, .string s => if s = some expected then some (.string expected) else none
  | .flag, .bool b => some (.bool b)
  | .integer low high, .number (some (.int i)) =>
    if low ≤ i ∧ i ≤ high then some (.int i) else none
  | .instant, .string s | .neededInstant, .string s =>
    (s.bind Timestamp.ofText?).map fun t => .string t.toText
  | .integerOrText, .string s => s.map .string
  | .integerOrText, .number (some (.int i)) =>
    if -(twoPow 31) ≤ i ∧ i < twoPow 31 then some (.int i) else none
  | .list item, .array items =>
    if depth = 0 then none else (items.mapM (read? (depth - 1) item)).map .array
  | .table item, .object members =>
    if depth = 0 then none
    else
      (members.mapM fun (member : Option String × Written) =>
        member.1.bind fun key => (read? (depth - 1) item member.2).map (key, ·)).map Json.ofMembers
  | .fields known, .object members =>
    if depth = 0 || members.any (·.1.isNone) then none
    else (readFields? (depth - 1) known members).map Json.ofMembers
  | .choice words, .string s => s.bind fun s => if words.contains s then some (.string s) else none
  | .choice words, .object [(some s, .null)] =>
    if depth ≠ 0 && words.contains s then some (.string s) else none
  | .record known, .object members =>
    if depth = 0 || members.any (·.1.isNone) then none
    else (readRecord? (depth - 1) known members).map Json.ofMembers
  | .record known, .array items =>
    if depth = 0 then none else (readPlaces? (depth - 1) known items).map Json.ofMembers
  | .optional _, .null => some .null
  | .optional item, value => read? depth item value
  | .needed item, value => read? depth item value
  | _, _ => none

/-- The known fields of an object. -/
def readFields? (depth : Nat) :
    List (String × Shape) → List (Option String × Written) → Option Json.Members
  | [], _ => some []
  | (name, shape) :: known, members => do
    let rest ← readFields? depth known members
    let values ← (valuesOf name members).mapM fun value =>
      match value with
      | .null => if shape.allowsNull then some none else none
      | value => (read? depth shape value).map some
    match values.getLast? with
    | some (some value) => return (name, value) :: rest
    | _ => return ((← shape.absent?).map (name, ·)).toList ++ rest

/-- The known fields of a record that is given by an object. -/
def readRecord? (depth : Nat) :
    List (String × Shape) → List (Option String × Written) → Option Json.Members
  | [], _ => some []
  | (name, shape) :: known, members => do
    let rest ← readRecord? depth known members
    match valuesOf name members with
    | [] => return ((← shape.absent?).map (name, ·)).toList ++ rest
    | [value] => return (name, ← read? depth shape value) :: rest
    | _ => none

/-- The known fields of a record that is given by an array. -/
def readPlaces? (depth : Nat) : List (String × Shape) → List Written → Option Json.Members
  | [], [] => some []
  | [], _ => none
  | (name, shape) :: known, [] => do
    let rest ← readPlaces? depth known []
    return ((← shape.absent?).map (name, ·)).toList ++ rest
  | (name, shape) :: known, value :: values => do
    let rest ← readPlaces? depth known values
    return (name, ← read? depth shape value) :: rest

end

end Shape
end SessionGate.Cluster
