import SessionGate.Number.Double

/-!
# Arithmetic of binary64 numbers

Each operation computes in exact numbers and rounds once, to nearest. A result beyond the numbers is
infinite, and one that has no meaning is no number.

- `Double.add`, `Double.mul` and `Double.div` are the operations with a rounding.
- `Double.remainder` and `Double.quotient` divide to a whole number.
- `Double.powerWhole` multiplies by repeated squares.
-/
namespace SessionGate.Number.Double
set_option autoImplicit false

/-- A finite number over a power of two that is at most its own: `negative`, mantissa. -/
private def scaled (negative : Bool) (m : Nat) (shift : Nat) : Int :=
  (if negative then -1 else 1) * (m * twoPow shift : Nat)

/-- The number `n * 2 ^ q`; `negative` is the sign of a zero. -/
private def ofScaled (negative : Bool) (n q : Int) : Double :=
  if n = 0 then zero negative
  else if 0 ≤ q then ofRatio (decide (n < 0)) (n.natAbs * twoPow q.toNat) 1
  else ofRatio (decide (n < 0)) n.natAbs (twoPow (-q).toNat)

def add (a b : Double) : Double :=
  match a.view, b.view with
  | .finite n m q, .finite n' m' q' =>
    let low := min q q'
    ofScaled (n && n') (scaled n m (q - low).toNat + scaled n' m' (q' - low).toNat) low
  | .infinite n, .finite .. => infinity n
  | .finite .., .infinite n => infinity n
  | .infinite n, .infinite n' => if n = n' then infinity n else nan
  | _, _ => nan

def mul (a b : Double) : Double :=
  match a.view, b.view with
  | .finite n m q, .finite n' m' q' =>
    let e := q + q'
    if 0 ≤ e then ofRatio (n != n') (m * m' * twoPow e.toNat) 1
    else ofRatio (n != n') (m * m') (twoPow (-e).toNat)
  | .infinite n, .finite n' m _ => if m = 0 then nan else infinity (n != n')
  | .finite n m _, .infinite n' => if m = 0 then nan else infinity (n != n')
  | .infinite n, .infinite n' => infinity (n != n')
  | _, _ => nan

def div (a b : Double) : Double :=
  match a.view, b.view with
  | .finite n m q, .finite n' m' q' =>
    let e := q - q'
    if m' = 0 then if m = 0 then nan else infinity (n != n')
    else if 0 ≤ e then ofRatio (n != n') (m * twoPow e.toNat) m'
    else ofRatio (n != n') m (m' * twoPow (-e).toNat)
  | .infinite n, .finite n' _ _ => infinity (n != n')
  | .finite n _ _, .infinite n' => zero (n != n')
  | _, _ => nan

/-- The number without its fraction. -/
def truncate (d : Double) : Double :=
  match d.view with
  | .finite negative m q =>
    if 0 ≤ q then d else ofScaled negative (scaled negative (m / twoPow (-q).toNat) 0) 0
  | _ => d

/-- Remainder with the sign of the first number; it is exact. -/
def remainder (a b : Double) : Double :=
  match a.view, b.view with
  | .finite n m q, .finite _ m' q' =>
    let low := min q q'
    if m' = 0 then nan
    else ofScaled n (scaled n ((m * twoPow (q - low).toNat) % (m' * twoPow (q' - low).toNat)) 0) low
  | .finite .., .infinite _ => a
  | _, _ => nan

def isNegative (d : Double) : Bool :=
  match d.view with
  | .finite negative m _ => negative && m != 0
  | .infinite negative => negative
  | .nan => false

def magnitude (d : Double) : Double := if d.isNegative then d.negate else d

/-- Whole quotient that leaves a remainder which is not negative. -/
def quotient (a b : Double) : Double :=
  let q := (a.div b).truncate
  if (a.remainder b).isNegative then q.add (ofInt (if b.isNegative then 1 else -1)) else q

/-- Nearest whole number, a half away from zero. -/
def round (d : Double) : Double :=
  match d.view with
  | .finite negative m q =>
    if 0 ≤ q then d
    else
      let den := twoPow (-q).toNat
      ofScaled negative (scaled negative ((2 * m + den) / (2 * den)) 0) 0
  | _ => d

/-- Multiplies by repeated squares, with a rounding at each product. -/
def powerSquares (a r : Double) : (fuel k : Nat) → Double
  | 0, _ => r
  | fuel + 1, k =>
    let r := if k % 2 = 1 then r.mul a else r
    if k / 2 = 0 then r else powerSquares (a.mul a) r fuel (k / 2)

/-- Power with a whole exponent by repeated squares; one below zero divides at the end. -/
def powerWhole (a : Double) (k : Int) : Double :=
  let r := powerSquares a (ofInt 1) 64 k.natAbs
  if k < 0 then (ofInt 1).div r else r

end SessionGate.Number.Double
