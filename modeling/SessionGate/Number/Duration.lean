import SessionGate.Number.Double

/-!
# Spans of time

- `Duration.display` writes a span in the greatest of its units that is not zero.
- `Duration.ofSeconds?` rounds a float count of seconds to nanoseconds.
-/
namespace SessionGate
set_option autoImplicit false

/-- A span of time in nanoseconds. -/
structure Duration where
  nanos : Nat
deriving DecidableEq, Inhabited

namespace Duration
open Number (Double)

def nanosPerSecond : Nat := 1000000000

def ofSecs (secs : Nat) : Duration := ⟨secs * nanosPerSecond⟩

def ofMillis (millis : Nat) : Duration := ⟨millis * 1000000⟩

def ofParts (secs nanos : Nat) : Duration := ⟨secs * nanosPerSecond + nanos⟩

/-- Milliseconds, a started one counted in full. -/
def ceilMillis (d : Duration) : Nat := (d.nanos + 999999) / 1000000

/-- Whole seconds. -/
def secs (d : Duration) : Nat := d.nanos / nanosPerSecond

/-- Nanoseconds beyond the whole seconds. -/
def subsecNanos (d : Duration) : Nat := d.nanos % nanosPerSecond

/-- Writes a count of units with as many decimal places as it has. -/
private def decimal (whole rest places : Nat) : String :=
  let digits := Nat.toDigits 10 rest
  let padded := List.replicate (places - digits.length) '0' ++ digits
  let fraction := (padded.reverse.dropWhile (· == '0')).reverse
  if fraction.isEmpty then toString whole
  else toString whole ++ "." ++ String.ofList fraction

/-- Writes a span in seconds, milliseconds, microseconds or nanoseconds. -/
def display (d : Duration) : String :=
  let n := d.nanos
  if nanosPerSecond ≤ n then decimal (n / nanosPerSecond) (n % nanosPerSecond) 9 ++ "s"
  else if 1000000 ≤ n then decimal (n / 1000000) (n % 1000000) 6 ++ "ms"
  else if 1000 ≤ n then decimal (n / 1000) (n % 1000) 3 ++ "µs"
  else toString n ++ "ns"

/-- Why a count of seconds is no span. -/
inductive RangeError where
  | negative
  | tooBig
deriving DecidableEq, Inhabited

def RangeError.message : RangeError → String
  | .negative => "cannot convert float seconds to Duration: value is negative"
  | .tooBig => "cannot convert float seconds to Duration: value is either too big or NaN"

/-- Rounds a count of seconds to the nearest nanosecond, a tie to the even one. A span holds fewer
than `2 ^ 64` seconds. -/
def ofSeconds? (d : Double) : Except RangeError Duration :=
  match d.view with
  | .nan => .error .tooBig
  | .infinite true => .error .negative
  | .infinite false => .error .tooBig
  | .finite negative m q =>
    if negative && m != 0 then .error .negative
    else
      let nanos :=
        if 0 ≤ q then m * twoPow q.toNat * nanosPerSecond
        else Double.roundHalfEven (m * nanosPerSecond) (twoPow (-q).toNat)
      if nanos / nanosPerSecond < twoPow 64 then .ok ⟨nanos⟩ else .error .tooBig

end Duration
end SessionGate
