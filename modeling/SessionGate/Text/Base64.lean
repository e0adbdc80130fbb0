import SessionGate.Text.Utf8

/-!
# Base64

`Base64.decode?` reads groups of four signs. The last group may end in one or two padding signs, and
the bits that it leaves over must be zero.
-/
namespace SessionGate.Base64
set_option autoImplicit false
open Utf8 (Bytes)

/-- The value of a sign. -/
def value? (c : Char) : Option Nat :=
  if c.isUpper then some (c.toNat - 'A'.toNat)
  else if c.isLower then some (c.toNat - 'a'.toNat + 26)
  else if c.isDigit then some (c.toNat - '0'.toNat + 52)
  else if c = '+' then some 62
  else if c = '/' then some 63
  else none

def octet (n : Nat) : UInt8 := n.toUInt8

def decode? : List Char → Option Bytes
  | [] => some []
  | [a, b, '=', '='] => do
    let (a, b) := (← value? a, ← value? b)
    if b % 16 ≠ 0 then none else return [octet (a * 4 + b / 16)]
  | [a, b, c, '='] => do
    let (a, b, c) := (← value? a, ← value? b, ← value? c)
    if c % 4 ≠ 0 then none
    else return [octet (a * 4 + b / 16), octet (b % 16 * 16 + c / 4)]
  | a :: b :: c :: d :: rest => do
    let (a, b, c, d) := (← value? a, ← value? b, ← value? c, ← value? d)
    return octet (a * 4 + b / 16) :: octet (b % 16 * 16 + c / 4) :: octet (c % 4 * 64 + d)
      :: (← decode? rest)
  | _ => none

end SessionGate.Base64
