import SessionGate.Text.Utf8

/-!
# UTF-16

- `Utf16.decode?` reads the text of units of two octets. A surrogate stands only in a pair.
- `Utf16.decodeMarked?` reads the text of octets that may begin with the mark of their encoding.
-/
namespace SessionGate.Utf16
set_option autoImplicit false
open Utf8 (Bytes)

/-- Puts octets together in pairs. -/
def units? (bigEndian : Bool) : Bytes → Option (List Nat)
  | [] => some []
  | a :: b :: rest =>
    let unit := if bigEndian then a.toNat * 256 + b.toNat else b.toNat * 256 + a.toNat
    (units? bigEndian rest).map (unit :: ·)
  | [_] => none

def isHigh (unit : Nat) : Bool := 0xd800 ≤ unit && unit < 0xdc00
def isLow (unit : Nat) : Bool := 0xdc00 ≤ unit && unit < 0xe000

def chars? : List Nat → Option (List Char)
  | [] => some []
  | high :: low :: rest =>
    if isHigh high then
      if isLow low then
        (chars? rest).map (Char.ofNat (0x10000 + 1024 * (high - 0xd800) + (low - 0xdc00)) :: ·)
      else none
    else if isLow high then none
    else (chars? (low :: rest)).map (Char.ofNat high :: ·)
  | [unit] => if isHigh unit || isLow unit then none else some [Char.ofNat unit]

def decode? (bigEndian : Bool) (bytes : Bytes) : Option String :=
  ((units? bigEndian bytes).bind chars?).map String.ofList

/-- Reads octets in the encoding of the mark in front of them, and in UTF-8 without one. -/
def decodeMarked? : Bytes → Option String
  | 0xff :: 0xfe :: rest => decode? false rest
  | 0xfe :: 0xff :: rest => decode? true rest
  | 0xef :: 0xbb :: 0xbf :: rest => Utf8.decode? rest
  | bytes => Utf8.decode? bytes

end SessionGate.Utf16
