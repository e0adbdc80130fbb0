import SessionGate.Number.Power

/-!
# Binary64 numbers

A number is its 64-bit pattern, so two numbers are equal exactly when their patterns are.

- `Double.view` reads a pattern as a sign, a mantissa and a power of two.
- `Double.ofRatio` rounds a quotient of naturals to the nearest number, a tie to the even mantissa.
- `Double.shortest` gives the fewest decimal digits that read back as the number.
-/
namespace SessionGate.Number
set_option autoImplicit false

/-- A binary64 number, as its bit pattern. -/
structure Double where
  bits : UInt64
deriving DecidableEq, Inhabited

namespace Double

/-- What a pattern stands for: `finite n m q` is `m * 2 ^ q`, negated when `n` holds. -/
inductive View where
  | nan
  | infinite (negative : Bool)
  | finite (negative : Bool) (mantissa : Nat) (exponent : Int)
deriving DecidableEq, Inhabited

/-- Bit 63 is the sign, the next eleven the exponent, the rest the fraction. -/
def view (d : Double) : View :=
  let n := d.bits.toNat
  let negative := decide (twoPow 63 ≤ n)
  let biased : Nat := n / twoPow 52 % twoPow 11
  let fraction : Nat := n % twoPow 52
  if biased = 2047 then
    if fraction = 0 then .infinite negative else .nan
  else if biased = 0 then .finite negative fraction (-1074)
  else .finite negative (twoPow 52 + fraction) ((biased : Int) - 1075)

def nan : Double := ⟨0x7ff8000000000000⟩

def isFinite (d : Double) : Bool :=
  match d.view with
  | .finite .. => true
  | _ => false

def negate (d : Double) : Double := ⟨d.bits ^^^ 0x8000000000000000⟩

def infinity (negative : Bool) : Double :=
  ⟨if negative then 0xfff0000000000000 else 0x7ff0000000000000⟩

def zero (negative : Bool) : Double :=
  ⟨if negative then 0x8000000000000000 else 0⟩

/-- Puts a mantissa below `twoPow 53` and its power of two into a pattern. -/
def pack (negative : Bool) (m : Nat) (q : Int) : Double :=
  let sign := if negative then twoPow 63 else 0
  if m < twoPow 52 then ⟨(sign + m).toUInt64⟩
  else if 971 < q then infinity negative
  else ⟨(sign + (q + 1075).toNat * twoPow 52 + (m - twoPow 52)).toUInt64⟩

/-- Nearest natural to `num / den`, a tie to the even one. -/
def roundHalfEven (num den : Nat) : Nat :=
  let floor := num / den
  let twice := 2 * (num % den)
  if twice < den then floor
  else if den < twice then floor + 1
  else if floor % 2 = 0 then floor else floor + 1

/-- Nearest number to `num / den` for a positive `den`. -/
def ofRatio (negative : Bool) (num den : Nat) : Double :=
  if num = 0 then zero negative
  else
    let guess : Int := max ((num.log2 : Int) - (den.log2 : Int) - 53) (-1074)
    let scaled (q : Int) : Nat × Nat :=
      if 0 ≤ q then (num, den * twoPow q.toNat) else (num * twoPow (-q).toNat, den)
    let (n, d) := scaled guess
    let q := if twoPow 53 ≤ n / d then guess + 1 else guess
    let (n, d) := scaled q
    let m := roundHalfEven n d
    if m = twoPow 53 then pack negative (twoPow 52) (q + 1) else pack negative m q

/-- Nearest number to `digits * 10 ^ exponent`. Exponents beyond the range of the format are cut
short, as no count of digits brings them back. -/
def ofDecimal (negative : Bool) (digits : Nat) (exponent : Int) : Double :=
  let magnitude := (Nat.toDigits 10 digits).length + exponent
  if digits = 0 then zero negative
  else if 400 < magnitude then infinity negative
  else if magnitude < -400 then zero negative
  else if 0 ≤ exponent then ofRatio negative (digits * tenPow exponent.toNat) 1
  else ofRatio negative digits (tenPow (-exponent).toNat)

def ofInt (i : Int) : Double := ofRatio (decide (i < 0)) i.natAbs 1

/-- Compares `a * 10 ^ p` with `num / den`. -/
private def compareDecimal (a : Nat) (p : Int) (num den : Nat) : Ordering :=
  if 0 ≤ p then compare (a * tenPow p.toNat * den) num
  else compare (a * den) (num * tenPow (-p).toNat)

/-- Power of ten of the leading digit of the positive quotient `num / den`. -/
private def leadingPower (num den : Nat) : Int :=
  let guess := ((num.log2 : Int) - (den.log2 : Int)) * 30103 / 100000
  if compareDecimal 1 (guess + 1) num den != .gt then guess + 1
  else if compareDecimal 1 guess num den == .gt then guess - 1
  else guess

/-- The two neighbours of `num / den` on the grid of multiples of `10 ^ p`. -/
private def below (p : Int) (num den : Nat) : Nat :=
  if 0 ≤ p then num / (den * tenPow p.toNat) else num * tenPow (-p).toNat / den

/-- Digits and power of ten of the shortest decimal that rounds to `m * 2 ^ q`: the first grid with
a point in the interval of reals that round to it, and the nearer of two such points. -/
def shortest (m : Nat) (q : Int) : Nat × Int :=
  let up := twoPow q.toNat
  let den := 4 * twoPow (-q).toNat
  let num := 4 * m * up
  let low := num - (if m = twoPow 52 ∧ -1074 < q then 1 else 2) * up
  let high := num + 2 * up
  let even := m % 2 == 0
  let inside (a : Nat) (p : Int) : Bool :=
    let l := compareDecimal a p low den
    let h := compareDecimal a p high den
    (l == .gt || (l == .eq && even)) && (h == .lt || (h == .eq && even))
  let lead := leadingPower num den
  let rec search : Nat → Nat × Int
    | 0 =>
      let p := lead - 16
      (below p num den, p)
    | left + 1 =>
      let p := lead - ((17 - (left + 1) : Nat) : Int)
      let a := below p num den
      match inside a p, inside (a + 1) p with
      | false, false => search left
      | true, false => (a, p)
      | false, true => (a + 1, p)
      | true, true =>
        -- twice the value against the sum of both neighbours
        if compareDecimal (2 * a + 1) p (2 * num) den == .lt then (a + 1, p) else (a, p)
  search 17

end Double
end SessionGate.Number
