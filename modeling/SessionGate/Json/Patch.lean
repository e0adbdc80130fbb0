import SessionGate.Json.Pointer

/-!
# Patches of JSON values

A patch is a list of operations, applied in order, all or none.

- `Json.Patch.ofJson?` reads the written form, an array of objects with a member `op`. An operation
  can also be an array of its name and its parts.
- `Json.Patch.toJson` writes it.
- `Json.Patch.applyTo?` applies it; `none` where an operation does not apply.
-/
namespace SessionGate.Json
set_option autoImplicit false

/-- One operation of a patch. -/
inductive PatchOperation where
  | add (path : Pointer) (value : Json)
  | remove (path : Pointer)
  | replace (path : Pointer) (value : Json)
  | move (source path : Pointer)
  | copy (source path : Pointer)
  | test (path : Pointer) (value : Json)
deriving Inhabited, DecidableEq

abbrev Patch := List PatchOperation

namespace PatchOperation

/-! ## Written form -/

/-- The parts of each operation, in the order in which an array gives them. -/
def parts : List (String × List String) :=
  [("add", ["path", "value"]), ("remove", ["path"]), ("replace", ["path", "value"]),
    ("move", ["from", "path"]), ("copy", ["from", "path"]), ("test", ["path", "value"])]

/-- The parts of an operation that is given by an array: its name and all of its parts. -/
def ofPlaces? : List Json → Option Members
  | .string op :: values => do
    let names ← parts.lookup op
    if names.length = values.length then some (("op", .string op) :: names.zip values) else none
  | _ => none

/-- Reads an operation. -/
def ofJson? (value : Json) : Option PatchOperation := do
  let members ←
    match value with
    | .array items => ofPlaces? items
    | value => value.members?
  let place (key : String) : Option Pointer :=
    ((members.get? key).bind string?).bind Pointer.ofText?
  let op ← (members.get? "op").bind string?
  let path ← place "path"
  if op = "add" then return .add path (← members.get? "value")
  else if op = "remove" then return .remove path
  else if op = "replace" then return .replace path (← members.get? "value")
  else if op = "move" then return .move (← place "from") path
  else if op = "copy" then return .copy (← place "from") path
  else if op = "test" then return .test path (← members.get? "value")
  else none

def toJson : PatchOperation → Json
  | .add path value => written "add" path [("value", value)]
  | .remove path => written "remove" path []
  | .replace path value => written "replace" path [("value", value)]
  | .move source path => written "move" path [("from", .string source.toText)]
  | .copy source path => written "copy" path [("from", .string source.toText)]
  | .test path value => written "test" path [("value", value)]
where
  written (op : String) (path : Pointer) (more : Members) : Json :=
    ofMembers (("op", .string op) :: ("path", .string path.toText) :: more)

/-! ## Application -/

/-- Adds a member, or an item before an index; `-` is the place behind the last item. -/
def insertChild? (token : String) (child value : Json) : Option Json :=
  match value with
  | .object members => some (.object (Members.set members token child))
  | .array items =>
    if token = "-" then some (.array (items ++ [child]))
    else (Pointer.index? token).bind fun i =>
      if i ≤ items.length then some (.array (items.insertIdx i child)) else none
  | _ => none

/-- Removes a member or an item that is there. -/
def eraseChild? (token : String) (value : Json) : Option Json :=
  match value with
  | .object members => (Members.get? members token).map fun _ => .object (Members.erase token members)
  | .array items =>
    (Pointer.index? token).bind fun i =>
      if i < items.length then some (.array (items.eraseIdx i)) else none
  | _ => none

def addAt? (document : Json) (path : Pointer) (value : Json) : Option Json :=
  match path.getLast? with
  | none => some value
  | some token => document.alter? (insertChild? token value) path.dropLast

def removeAt? (document : Json) (path : Pointer) : Option Json :=
  path.getLast?.bind fun token => document.alter? (eraseChild? token) path.dropLast

def replaceAt? (document : Json) (path : Pointer) (value : Json) : Option Json :=
  document.alter? (fun _ => some value) path

/-- Applies one operation. A value cannot be moved below itself. -/
def applyTo? (document : Json) : PatchOperation → Option Json
  | .add path value => addAt? document path value
  | .remove path => removeAt? document path
  | .replace path value => replaceAt? document path value
  | .move source path =>
    if source.isPrefixOf path && source != path then none
    else do
      let value ← document.pointer? source
      addAt? (← removeAt? document source) path value
  | .copy source path => do addAt? document path (← document.pointer? source)
  | .test path value => do
    let found ← document.pointer? path
    if found = value then some document else none

end PatchOperation

namespace Patch

def ofJson? (value : Json) : Option Patch :=
  value.array?.bind (·.mapM PatchOperation.ofJson?)

def toJson (patch : Patch) : Json := .array (patch.map PatchOperation.toJson)

/-- Applies the operations in order, all or none. -/
def applyTo? (patch : Patch) (document : Json) : Option Json :=
  patch.foldlM PatchOperation.applyTo? document

end Patch
end SessionGate.Json
