import SessionGate.Number.Arithmetic

/-!
# Powers of binary64 numbers

`Double.power` gives the number nearest to a power with any exponent.

- A whole exponent that is not too great is computed in exact numbers.
- Any other power is the exponential of a multiple of a logarithm, both in binary fractions of
  `fractionBits` places: the series of the area tangent gives the logarithm, the one of the
  exponential the result.
-/
namespace SessionGate.Number.Double
set_option autoImplicit false

/-- Places of the fractions that logarithms and exponentials are computed in. -/
def fractionBits : Nat := 256

/-- One in these fractions. -/
def fractionOne : Int := twoPow fractionBits

/-- Sum of the odd powers of a fraction, each over its exponent: `power` is the current one and
`square` the square of the fraction. -/
def areaTangentSum (square : Int) : (terms : Nat) → (exponent : Nat) → (power : Int) → Int
  | 0, _, _ => 0
  | terms + 1, exponent, power =>
    power / exponent + areaTangentSum square terms (exponent + 2) (power * square / fractionOne)

/-- Logarithm of the quotient `num / den` between one and two. -/
def logarithmNear (num den : Nat) : Int :=
  let t : Int := ((num : Int) - den) * fractionOne / (num + den)
  2 * areaTangentSum (t * t / fractionOne) 90 1 t

def logarithmOfTwo : Int := logarithmNear 2 1

/-- Logarithm of `m * 2 ^ q` for a positive mantissa. -/
def logarithm (m : Nat) (q : Int) : Int :=
  logarithmNear m (twoPow m.log2) + (q + m.log2) * logarithmOfTwo

/-- Sum of the exponential series behind the term `term` with the number `n`. -/
def exponentialSum (x : Int) : (terms : Nat) → (n : Nat) → (term : Int) → Int
  | 0, _, _ => 0
  | terms + 1, n, term =>
    term + exponentialSum x terms (n + 1) (term * x / fractionOne / (n + 1 : Nat))

/-- Drops the last places, where the errors of the series are. -/
def withoutNoise (x : Int) : Int := (x + twoPow 39) / twoPow 40 * twoPow 40

/-- The number nearest to the exponential of a fraction. -/
def ofLogarithm (negative : Bool) (y : Int) : Double :=
  let n := (2 * y + logarithmOfTwo) / (2 * logarithmOfTwo)
  if 1100 < n then infinity negative
  else if n < -1200 then zero negative
  else
    let e := (withoutNoise (exponentialSum (y - n * logarithmOfTwo) 80 0 fractionOne)).toNat
    ofRatio negative (e * twoPow n.toNat) (twoPow fractionBits * twoPow (-n).toNat)

/-- The whole number that a finite number is, if it is one. -/
def toInt? (d : Double) : Option Int :=
  match d.view with
  | .finite negative m q =>
    let den := twoPow (-q).toNat
    if m % den = 0 then
      let n : Int := (m / den * twoPow q.toNat : Nat)
      some (if negative then -n else n)
    else none
  | _ => none

/-- Greatest exponent that is computed in exact numbers. -/
def exactExponentLimit : Nat := 2048

/-- The number nearest to `m * 2 ^ q` to the power of `k`. -/
def powerExact (negative : Bool) (m : Nat) (q k : Int) : Double :=
  let n := k.natAbs
  let num := Nat.pow m n * twoPow (q * n).toNat
  let den := twoPow (-q * n).toNat
  if k < 0 then ofRatio negative den num else ofRatio negative num den

/-- Power of a number that is neither zero nor infinite, to a finite exponent that is not zero. -/
def powerFinite (a b : Double) (negative : Bool) (m : Nat) (q : Int) : Double :=
  match b.toInt?, b.view with
  | some k, .finite n' m' q' =>
    let negative := negative && k % 2 != 0
    if k.natAbs ≤ exactExponentLimit then powerExact negative m q k
    else if a.magnitude = ofInt 1 then if negative then ofInt (-1) else ofInt 1
    else ofLogarithm negative (scaledBy n' m' q' (logarithm m q))
  | none, .finite n' m' q' =>
    if negative then nan else ofLogarithm false (scaledBy n' m' q' (logarithm m q))
  | _, _ => nan
where
  /-- The product of a fraction with a finite number. -/
  scaledBy (negative : Bool) (m : Nat) (q x : Int) : Int :=
    let y := if 0 ≤ q then x * m * twoPow q.toNat else x * m / twoPow (-q).toNat
    if negative then -y else y

/-- Whether the size of a finite number is below one. -/
def isSmall (m : Nat) (q : Int) : Bool := m * twoPow q.toNat < twoPow (-q).toNat

/-- The power of two numbers. -/
def power (a b : Double) : Double :=
  let odd := match b.toInt? with
    | some k => k % 2 != 0
    | none => false
  match a.view, b.view with
  | _, .finite _ 0 _ => ofInt 1
  | .finite na m q, vb =>
    if a = ofInt 1 then ofInt 1
    else
      match vb with
      | .nan => nan
      | .infinite nb =>
        if a = ofInt (-1) then ofInt 1
        else if isSmall m q = nb then infinity false
        else zero false
      | .finite nb _ _ =>
        if m = 0 then if nb then infinity (na && odd) else zero (na && odd)
        else powerFinite a b na m q
  | .infinite na, .finite nb _ _ => if nb then zero (na && odd) else infinity (na && odd)
  | .infinite _, .infinite nb => if nb then zero false else infinity false
  | _, _ => nan

end SessionGate.Number.Double
