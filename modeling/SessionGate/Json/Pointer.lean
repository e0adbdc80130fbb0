import SessionGate.Json.Basic

/-!
# Places inside a JSON value

A place is a list of tokens: a member's name, or an index into an array.

- `Json.Pointer.ofText?` reads the written form, with `~0` and `~1` for `~` and `/`.
- `Json.pointer?` looks a place up.
-/
namespace SessionGate.Json
set_option autoImplicit false

/-- A path from the root of a value. -/
abbrev Pointer := List String

namespace Pointer

/-- Undoes the escapes of one token; `none` where a tilde starts no escape. -/
def unescape? : List Char → Option (List Char)
  | [] => some []
  | '~' :: '0' :: rest => (unescape? rest).map ('~' :: ·)
  | '~' :: '1' :: rest => (unescape? rest).map ('/' :: ·)
  | c :: rest => if c = '~' then none else (unescape? rest).map (c :: ·)

def escape (token : String) : List Char :=
  token.toList.flatMap fun c =>
    if c = '~' then ['~', '0'] else if c = '/' then ['~', '1'] else [c]

/-- Splits a text at each slash. -/
def splitSlash : List Char → List (List Char)
  | [] => [[]]
  | c :: rest =>
    match splitSlash rest with
    | [] => [[c]]
    | token :: more => if c = '/' then [] :: token :: more else (c :: token) :: more

/-- The empty text is the root; any other starts with a slash. -/
def ofText? (text : String) : Option Pointer :=
  match text.toList with
  | [] => some []
  | '/' :: rest =>
    (splitSlash rest).mapM fun token => (unescape? token).map String.ofList
  | _ => none

def toText (pointer : Pointer) : String :=
  String.ofList (pointer.flatMap fun token => '/' :: escape token)

/-- An index has no sign and no leading zero. -/
def index? (token : String) : Option Nat :=
  match token.toList with
  | [] => none
  | ['0'] => some 0
  | '0' :: _ => none
  | digits =>
    if digits.all Char.isDigit then
      some (digits.foldl (fun n c => 10 * n + (c.toNat - '0'.toNat)) 0)
    else none

end Pointer

/-- One step down: the member or the item that a token names. -/
def child? (value : Json) (token : String) : Option Json :=
  match value with
  | .object members => Members.get? members token
  | .array items => (Pointer.index? token).bind (items[·]?)
  | _ => none

/-- The value at a place. -/
def pointer? (value : Json) : Pointer → Option Json
  | [] => some value
  | token :: rest => (value.child? token).bind (pointer? · rest)

/-- Replaces the child that a token names, if there is one. -/
def setChild? (value : Json) (token : String) (child : Json) : Option Json :=
  match value with
  | .object members =>
    (Members.get? members token).map fun _ => .object (Members.set members token child)
  | .array items =>
    (Pointer.index? token).bind fun i =>
      if i < items.length then some (.array (items.set i child)) else none
  | _ => none

/-- Changes the value at a place; `none` where there is no such place or the change fails. -/
def alter? (change : Json → Option Json) (value : Json) : Pointer → Option Json
  | [] => change value
  | token :: rest =>
    (value.child? token).bind fun child =>
      (alter? change child rest).bind (value.setChild? token)

end SessionGate.Json
