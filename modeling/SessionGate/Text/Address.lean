import SessionGate.Text.Utf8

/-!
# Addresses of requests

`Address.ofBytes?` reads an address: a path, an absolute address, a host alone, or `*`. It refuses
octets that may not stand in one, and drops a fragment unread.
-/
namespace SessionGate
set_option autoImplicit false
open Utf8 (Bytes)

/-- Path and query of an address; a host alone has no path. -/
structure Address where
  path : Bytes
  query : Bytes
deriving DecidableEq, Inhabited

namespace Address

def byte (c : Char) : UInt8 := c.toNat.toUInt8

/-! ## Paths and queries -/

private def isPathByte (b : UInt8) : Bool :=
  b == 0x21 || b == 0x22 || (0x24 ≤ b && b ≤ 0x3b) || b == 0x3d || (0x40 ≤ b && b ≤ 0x5f)
    || (0x61 ≤ b && b ≤ 0x7e) || 0x7f ≤ b

private def isQueryByte (b : UInt8) : Bool :=
  b == 0x21 || (0x24 ≤ b && b ≤ 0x3b) || b == 0x3d || 0x3f ≤ b

/-- Reads path and query; an empty path is the root. -/
def ofPathAndQuery? (bytes : Bytes) : Option Address :=
  let isPath (b : UInt8) : Bool := b != byte '?' && b != byte '#'
  let path := bytes.takeWhile isPath
  let query :=
    match bytes.dropWhile isPath with
    | b :: rest => if b = byte '?' then rest.takeWhile (· != byte '#') else []
    | [] => []
  if path.all isPathByte && query.all isQueryByte then
    some ⟨if path.isEmpty then [byte '/'] else path, query⟩
  else none

/-! ## Hosts -/

/-- What has been seen of an authority. -/
private structure AuthorityScan where
  colons : Nat
  opened : Bool
  closed : Bool
  percent : Bool
  atEnd : Bool

private def isAuthorityByte (b : UInt8) : Bool :=
  (Char.ofNat b.toNat).isAlphanum || "!$&()*+,-.;=_~".toList.any (byte · == b) || b == 0x27

private def AuthorityScan.step? (scan : AuthorityScan) (b : UInt8) : Option AuthorityScan :=
  let scan := { scan with atEnd := false }
  if b = byte ':' then
    if 8 ≤ scan.colons then none else some { scan with colons := scan.colons + 1 }
  else if b = byte '[' then
    if scan.percent || scan.opened then none else some { scan with opened := true }
  else if b = byte ']' then
    if !scan.opened || scan.closed then none
    else some { scan with closed := true, colons := 0, percent := false }
  else if b = byte '@' then some { scan with colons := 0, percent := false, atEnd := true }
  else if b = byte '%' then some { scan with percent := true }
  else if isAuthorityByte b then some scan
  else none

/-- Whether these octets name a host: brackets match, one port at most, no sign of a user without a
host behind it. -/
def isAuthority (bytes : Bytes) : Bool :=
  match bytes.foldlM AuthorityScan.step? ⟨0, false, false, false, false⟩ with
  | none => false
  | some scan => scan.opened == scan.closed && scan.colons ≤ 1 && !scan.atEnd && !scan.percent

private def isSchemeByte (b : UInt8) : Bool :=
  (Char.ofNat b.toNat).isAlphanum || b == byte '+' || b == byte '-' || b == byte '.'

/-- The rest behind a scheme; schemes have at most 64 characters. `none` stands for a scheme that is
too long. -/
private def afterScheme? (bytes : Bytes) : Option (Option Bytes) :=
  let scheme := bytes.takeWhile isSchemeByte
  match bytes.dropWhile isSchemeByte with
  | a :: b :: c :: rest =>
    if a = byte ':' ∧ b = byte '/' ∧ c = byte '/' then
      if 64 < scheme.length then none else some (some rest)
    else some none
  | _ => some none

/-! ## Addresses -/

/-- Octets that an address may have. -/
def lengthLimit : Nat := 65534

def ofBytes? (bytes : Bytes) : Option Address :=
  if lengthLimit < bytes.length then none
  else
    match bytes with
    | [] => none
    | first :: _ =>
      if first = byte '/' then ofPathAndQuery? bytes
      else if bytes = [byte '*'] then some ⟨bytes, []⟩
      else
        match afterScheme? bytes with
        | none => none
        | some none => if isAuthority bytes then some ⟨[], []⟩ else none
        | some (some rest) =>
          let isHost (b : UInt8) : Bool := b != byte '/' && b != byte '?' && b != byte '#'
          let authority := rest.takeWhile isHost
          if authority.isEmpty || !isAuthority authority then none
          else ofPathAndQuery? (rest.dropWhile isHost)

def ofText? (text : String) : Option Address := ofBytes? (Utf8.encode text)

end Address
end SessionGate
