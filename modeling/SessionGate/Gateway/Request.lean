import SessionGate.Session.Token
import SessionGate.Text.Address
import SessionGate.Text.Utf8

/-!
# HTTP requests

- `Headers.ofFields?` checks names and values; names are compared without their case.
- `Headers.text?` gives the first value of a name if it is readable, that is visible ASCII.
-/
namespace SessionGate.Gateway
set_option autoImplicit false
open Utf8 (Bytes)

/-- Characters of names and methods. -/
def isTokenByte (b : UInt8) : Bool :=
  let c := Char.ofNat b.toNat
  c.isAlphanum || "!#$%&*+-.^_|~".toList.contains c || b == 0x27 || b == 0x60

/-- Octets of header values: no control but the tab. -/
def isValueByte (b : UInt8) : Bool := (0x20 ≤ b && b != 0x7f) || b == 0x09

/-- Octets of a value that can be read as text. -/
def isReadableByte (b : UInt8) : Bool := (0x20 ≤ b && b < 0x7f) || b == 0x09

def lowerByte (b : UInt8) : UInt8 := if 0x41 ≤ b ∧ b ≤ 0x5a then b + 0x20 else b

/-! ## Headers -/

/-- Header fields in order, their names in lower case. -/
abbrev Headers := List (Bytes × Bytes)

namespace Headers

/-- Accepts fields whose names are tokens and whose values hold no controls. -/
def ofFields? (fields : List (Bytes × Bytes)) : Option Headers :=
  if fields.all fun (name, value) =>
      !name.isEmpty && name.all isTokenByte && value.all isValueByte then
    some (fields.map fun (name, value) => (name.map lowerByte, value))
  else none

/-- The first value of a name. -/
def first? (headers : Headers) (name : String) : Option Bytes :=
  headers.lookup (Utf8.encode name)

/-- The text of a value all of whose octets are readable. -/
def readable? (value : Bytes) : Option String :=
  if value.all isReadableByte then
    some (String.ofList (value.map fun b => Char.ofNat b.toNat))
  else none

/-- The first value of a name, if it is readable. -/
def text? (headers : Headers) (name : String) : Option String :=
  (headers.first? name).bind readable?

def referer : String := "referer"

/-- Header that carries the address the client asked for. -/
def forwardedUri : String := "x-forwarded-uri"

/-- The session that the headers of a request name. -/
def session? (headers : Headers) : Option Session.Token :=
  Session.Token.inContext? (headers.text? referer) (headers.text? forwardedUri)

end Headers

/-! ## Requests -/

/-- Methods whose answers carry no body, and all others. -/
inductive Method where
  | head
  | connect
  | other
deriving DecidableEq, Inhabited

/-- A method is a token; its case counts. -/
def Method.ofText? (text : String) : Option Method :=
  let bytes := Utf8.encode text
  if bytes.isEmpty || bytes.any (!isTokenByte ·) then none
  else if text = "HEAD" then some .head
  else if text = "CONNECT" then some .connect
  else some .other

structure Request where
  method : Method
  target : Address
  headers : Headers
deriving DecidableEq, Inhabited

end SessionGate.Gateway
