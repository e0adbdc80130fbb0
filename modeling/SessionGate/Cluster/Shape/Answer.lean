import SessionGate.Cluster.Shape.Metadata

/-!
# Answers of the API server

- `failure` is how an error is told, `status` how the end of an operation, `versionInfo` what the
  server says of itself.
- `anyObject?` reads an object whose type is not known, `items?` the items of a list.
-/
namespace SessionGate.Cluster
set_option autoImplicit false
open Json (Written)

def uint16 : Shape := .integer 0 (twoPow 16 - 1)

/-- An error that is told by an answer. -/
def failure : Shape :=
  .record [("status", .needed .text), ("message", .filledText), ("reason", .filledText),
    ("code", .needed uint16)]

/-- A status that tells how an operation went. -/
def status : Shape :=
  .record [("status", .optional (.choice ["Success", "Failure"])), ("code", uint16),
    ("message", .text), ("reason", .text),
    ("details", .optional (.record [("name", .text), ("group", .text), ("kind", .text),
      ("uid", .text),
      ("causes", .list (.record [("reason", .text), ("message", .text), ("field", .text)])),
      ("retryAfterSeconds", .integer 0 (twoPow 32 - 1))]))]

/-- Version of the API server. -/
def versionInfo : Shape :=
  .fields [("buildDate", .text), ("compiler", .text), ("emulationMajor", .text),
    ("emulationMinor", .text), ("gitCommit", .text), ("gitTreeState", .text),
    ("gitVersion", .text), ("goVersion", .text), ("major", .text),
    ("minCompatibilityMajor", .text), ("minCompatibilityMinor", .text), ("minor", .text),
    ("platform", .text)]

/-! ## Objects of any type -/

/-- Takes version and kind out of the members of an object, as far as they can be read in order: up
to one that comes twice or is no text. They are told only together. -/
def takeTypes (seen : Json.Members) : Json.Members → Json.Members × Json.Members
  | [] => (if seen.length = 2 then seen else [], [])
  | (key, value) :: members =>
    if key = "apiVersion" || key = "kind" then
      match value with
      | .string _ =>
        if (seen.get? key).isSome then ([], members) else takeTypes ((key, value) :: seen) members
      | _ => ([], members)
    else
      let (types, others) := takeTypes seen members
      (types, (key, value) :: others)

/-- The value of a member that is given at most once, and the values of the others; `depth` more
levels of nesting are allowed in them. -/
def splitMember? (depth : Nat) (name : String) (members : List (Option String × Written)) :
    Option (Option Written × Json.Members) := do
  let others ← Written.memberValues? depth (members.filter (·.1 ≠ some name))
  match Shape.valuesOf name members with
  | [] => return (none, others)
  | [value] => return (some value, others)
  | _ => none

/-- An object of a type that is not known: its metadata are of their shape, and everything else is
kept. -/
def anyObject? (depth : Nat) : Written → Option Json
  | .object members => do
    if depth = 0 then none
    let (metadata, others) ← splitMember? (depth - 1) "metadata" members
    let metadata ← metadata.elim (some (.object [])) (objectMeta.read? (depth - 1))
    let (types, others) := takeTypes [] others
    return Json.ofMembers (types ++ ("metadata", metadata) :: others)
  | _ => none

/-- The items of a list whose items are read in this way; null stands for no items. -/
def items? (item? : Nat → Written → Option Json) (depth : Nat) : Written → Option (List Json)
  | .object members => do
    if depth = 0 then none
    let (metadata, _) ← splitMember? (depth - 1) "metadata"
      (members.filter (·.1 ≠ some "items"))
    metadata.elim (some ()) fun metadata => discard (listMeta.read? (depth - 1) metadata)
    match Shape.valuesOf "items" members with
    | [.null] => return []
    | [.array items] => if depth = 1 then none else items.mapM (item? (depth - 2))
    | _ => none
  | _ => none

end SessionGate.Cluster
