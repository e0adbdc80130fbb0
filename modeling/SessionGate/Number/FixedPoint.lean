import SessionGate.Number.Decimal

/-!
# Decimal texts with a fixed number of places

- `Double.fixed` writes a number with so many digits behind the point.
- `Double.fixedExponent` writes one digit before the point, so many behind it, and the exponent.
- `Double.general` writes so many digits in all, and takes the shorter of the two forms.

Each rounds the exact value to nearest, a tie to the even digit.
-/
namespace SessionGate.Number.Double
set_option autoImplicit false

/-- The quotient that is the size of `m * 2 ^ q`. -/
private def sizeRatio (m : Nat) (q : Int) : Nat × Nat := (m * twoPow q.toNat, twoPow (-q).toNat)

/-- Puts a point in front of the last `places` digits. -/
def pointBefore (places : Nat) (digits : List Char) : List Char :=
  let digits := List.replicate (places + 1 - digits.length) '0' ++ digits
  let split := digits.length - places
  if places = 0 then digits else digits.take split ++ '.' :: digits.drop split

/-- Digits of the size of a number with `places` behind the point. -/
def fixedSize (places : Nat) (m : Nat) (q : Int) : List Char :=
  let (num, den) := sizeRatio m q
  pointBefore places (Nat.toDigits 10 (roundHalfEven (num * tenPow places) den))

/-- The first `places + 1` digits of a number, as a natural number, and the exponent of the first. -/
def leadingDigits (places : Nat) (m : Nat) (q : Int) : Nat × Int :=
  if m = 0 then (0, 0)
  else
    let (num, den) := sizeRatio m q
    let e := (Digits.ofShortest m q).point - 1
    let shift := (places : Int) - e
    let n := roundHalfEven (num * tenPow shift.toNat) (den * tenPow (-shift).toNat)
    if tenPow (places + 1) ≤ n then (n / 10, e + 1)
    else if n < tenPow places then
      (roundHalfEven (num * tenPow (shift + 1).toNat) (den * tenPow (-shift - 1).toNat), e - 1)
    else (n, e)

/-- An exponent has a sign and at least two digits. -/
def exponentText (e : Int) : List Char :=
  let digits := Nat.toDigits 10 e.natAbs
  'e' :: (if e < 0 then '-' else '+') :: (List.replicate (2 - digits.length) '0' ++ digits)

def exponentSize (places : Nat) (m : Nat) (q : Int) : List Char :=
  let (n, e) := leadingDigits places m q
  pointBefore places (Nat.toDigits 10 n) ++ exponentText e

/-- Drops zeros at the end of a fraction, and a point that is left. -/
def dropZeros (text : List Char) : List Char :=
  if text.contains '.' then
    let kept := (text.reverse.dropWhile (· == '0')).reverse
    if kept.getLast? = some '.' then kept.dropLast else kept
  else text

def generalSize (digits : Nat) (keepZeros : Bool) (m : Nat) (q : Int) : List Char :=
  let digits := max digits 1
  let (n, e) := leadingDigits (digits - 1) m q
  let trim (text : List Char) := if keepZeros then text else dropZeros text
  if e < -4 ∨ (digits : Int) ≤ e then
    trim (pointBefore (digits - 1) (Nat.toDigits 10 n)) ++ exponentText e
  else trim (fixedSize ((digits : Int) - 1 - e).toNat m q)

/-- The sign of a number and the text of its size. -/
def sized (size : Nat → Int → List Char) (d : Double) : Bool × List Char :=
  match d.view with
  | .nan => (false, "nan".toList)
  | .infinite negative => (negative, "inf".toList)
  | .finite negative m q => (negative, size m q)

def fixed (places : Nat) (d : Double) : Bool × List Char := sized (fixedSize places) d

def fixedExponent (places : Nat) (d : Double) : Bool × List Char := sized (exponentSize places) d

def general (digits : Nat) (keepZeros : Bool) (d : Double) : Bool × List Char :=
  sized (generalSize digits keepZeros) d

end SessionGate.Number.Double
