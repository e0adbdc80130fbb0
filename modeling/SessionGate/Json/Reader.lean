import SessionGate.Json.Written
import SessionGate.Number.Arithmetic
import SessionGate.Number.Decimal

/-!
# Reading JSON text

- `Json.Written.ofText?` reads a text with nothing but blanks around it, `Json.ofText?` its value.
- An integer outside the signed and unsigned 64-bit range is read as a float, and so is `-0`.
- `Reader.scaled?` gives the float of a significand and a power of ten: one division or product of
  two rounded numbers, so its last digit is not always that of the nearest number.
-/
namespace SessionGate.Json
namespace Reader
set_option autoImplicit false
open SessionGate.Number (Double ofDigits)

/-! ## Blanks, words and strings -/

def isBlank (c : Char) : Bool := c == ' ' || c == '\t' || c == '\n' || c == '\r'

def skipBlanks (text : List Char) : List Char := text.dropWhile isBlank

/-- The rest behind a fixed word. -/
def word? : (expected text : List Char) → Option (List Char)
  | [], text => some text
  | _ :: _, [] => none
  | e :: es, c :: cs => if e = c then word? es cs else none

def hexDigit? (c : Char) : Option Nat :=
  if '0' ≤ c ∧ c ≤ '9' then some (c.toNat - '0'.toNat)
  else if 'a' ≤ c ∧ c ≤ 'f' then some (c.toNat - 'a'.toNat + 10)
  else if 'A' ≤ c ∧ c ≤ 'F' then some (c.toNat - 'A'.toNat + 10)
  else none

def hexUnit? (a b c d : Char) : Option Nat := do
  return 4096 * (← hexDigit? a) + 256 * (← hexDigit? b) + 16 * (← hexDigit? c) + (← hexDigit? d)

def simpleEscape? (c : Char) : Option Char :=
  if c = '"' ∨ c = '\\' ∨ c = '/' then some c
  else if c = 'b' then some '\x08'
  else if c = 'f' then some '\x0c'
  else if c = 'n' then some '\n'
  else if c = 'r' then some '\r'
  else if c = 't' then some '\t'
  else none

/-- Reads up to the closing quote; `read` holds what stands before, in reverse. A surrogate stands
only in a pair: there is no text with half of one. -/
def stringBody? (read : Option (List Char)) : List Char → Option (Option String × List Char)
  | [] => none
  | '"' :: rest => some (read.map fun read => String.ofList read.reverse, rest)
  | '\\' :: 'u' :: a :: b :: c :: d :: '\\' :: 'u' :: e :: f :: g :: h :: rest => do
    let high ← hexUnit? a b c d
    if 0xD800 ≤ high ∧ high < 0xDC00 then
      let low ← hexUnit? e f g h
      if 0xDC00 ≤ low ∧ low < 0xE000 then
        let c := Char.ofNat (0x10000 + 1024 * (high - 0xD800) + (low - 0xDC00))
        stringBody? (read.map (c :: ·)) rest
      else stringBody? none rest
    else if 0xDC00 ≤ high ∧ high < 0xE000 then
      stringBody? none ('\\' :: 'u' :: e :: f :: g :: h :: rest)
    else
      stringBody? (read.map (Char.ofNat high :: ·)) ('\\' :: 'u' :: e :: f :: g :: h :: rest)
  | '\\' :: 'u' :: a :: b :: c :: d :: rest => do
    let unit ← hexUnit? a b c d
    if 0xD800 ≤ unit ∧ unit < 0xE000 then stringBody? none rest
    else stringBody? (read.map (Char.ofNat unit :: ·)) rest
  | '\\' :: c :: rest => do
    let c ← simpleEscape? c
    stringBody? (read.map (c :: ·)) rest
  | c :: rest => if c.toNat < 0x20 then none else stringBody? (read.map (c :: ·)) rest

/-! ## Numbers -/

/-- Greatest significand kept exactly. -/
def maxSignificand : Nat := twoPow 64 - 1

private def powerOfTen (k : Nat) : Double := .ofDecimal false 1 k

/-- Scales a number below the range of powers of ten in steps of `tenPow 308`. -/
private def scaleDown : Nat → Double → Nat → Double
  | 0, f, _ => f
  | steps + 1, f, k =>
    if k ≤ 308 then f.div (powerOfTen k)
    else if f = .zero false then f
    else scaleDown steps (f.div (powerOfTen 308)) (k - 308)

/-- The float of `significand * 10 ^ exponent`; `none` beyond the range of floats. -/
def scaled? (significand : Nat) (exponent : Int) : Option Double :=
  let f := Double.ofInt significand
  if 0 ≤ exponent then
    let k := exponent.toNat
    if k ≤ 308 then
      let scaled := f.mul (powerOfTen k)
      if scaled.isFinite then some scaled else none
    else if f = .zero false then some f else none
  else some (scaleDown 4 f (-exponent).toNat)

/-- Adds digits to a significand while it stays in range: the significand, how many digits went in,
and the digits left over. -/
def gather (significand count : Nat) : List Char → Nat × Nat × List Char
  | [] => (significand, count, [])
  | c :: rest =>
    let next := 10 * significand + (c.toNat - '0'.toNat)
    if next ≤ maxSignificand then gather next (count + 1) rest
    else (significand, count, c :: rest)

/-- Reads the exponent behind `e`: its sign and its digits. -/
def exponentPart? (text : List Char) : Option ((Bool × Nat) × List Char) :=
  let (negative, digits) := Number.splitSign text
  let run := digits.takeWhile Char.isDigit
  if run.isEmpty then none else some ((negative, ofDigits run), digits.dropWhile Char.isDigit)

/-- Greatest exponent that is added up rather than taken as out of range. -/
def maxExponent : Nat := twoPow 31 - 1

def finishFloat? (negative : Bool) (significand : Nat) (exponent : Int) : Option Json :=
  (scaled? significand exponent).map fun d => .double (if negative then d.negate else d)

/-- Reads what may follow the digits of the significand: an exponent. -/
def withExponent? (negative : Bool) (significand : Nat) (exponent : Int) (isFloat : Bool)
    (text : List Char) : Option (Option Json × List Char) :=
  match text with
  | c :: rest =>
    if c = 'e' ∨ c = 'E' then do
      let ((down, n), rest) ← exponentPart? rest
      if maxExponent < n then
        return (if significand = 0 ∨ down then some (.double (.zero negative)) else none, rest)
      else
        let shift : Int := if down then exponent - n else exponent + n
        return (finishFloat? negative significand shift, rest)
    else close
  | [] => close
where
  close : Option (Option Json × List Char) :=
    if isFloat then some (finishFloat? negative significand exponent, text)
    else if !negative then some (some (.int significand), text)
    else if significand = 0 ∨ twoPow 63 < significand then
      some (some (.double (Double.ofInt significand).negate), text)
    else some (some (.int (-(significand : Int))), text)

/-- Reads a number without its sign. -/
def number? (negative : Bool) (text : List Char) : Option (Option Json × List Char) :=
  let whole := text.takeWhile Char.isDigit
  let rest := text.dropWhile Char.isDigit
  match whole with
  | [] => none
  | '0' :: _ :: _ => none
  | _ =>
    let (significand, _, spare) := gather 0 0 whole
    match rest with
    | '.' :: tail =>
      let fraction := tail.takeWhile Char.isDigit
      let rest := tail.dropWhile Char.isDigit
      if fraction.isEmpty then none
      else if spare.isEmpty then
        let (significand, count, _) := gather significand 0 fraction
        withExponent? negative significand (-(count : Int)) true rest
      else withExponent? negative significand spare.length true rest
    | _ => withExponent? negative significand spare.length (!spare.isEmpty) rest

/-! ## Values -/

mutual

/-- Reads a value; `fuel` bounds the steps. -/
def value? : (fuel : Nat) → List Char → Option (Written × List Char)
  | 0, _ => none
  | fuel + 1, text =>
    match skipBlanks text with
    | [] => none
    | '"' :: rest => (stringBody? (some []) rest).map fun (s, rest) => (.string s, rest)
    | '[' :: rest =>
      match skipBlanks rest with
      | ']' :: rest => some (.array [], rest)
      | _ => (items? fuel rest).map fun (items, rest) => (.array items, rest)
    | '\x7b' :: rest =>
      match skipBlanks rest with
      | '\x7d' :: rest => some (.object [], rest)
      | _ => (members? fuel rest).map fun (members, rest) => (.object members, rest)
    | '-' :: rest => (number? true rest).map fun (n, rest) => (.number n, rest)
    | 't' :: rest => (word? "rue".toList rest).map (.bool true, ·)
    | 'f' :: rest => (word? "alse".toList rest).map (.bool false, ·)
    | 'n' :: rest => (word? "ull".toList rest).map (.null, ·)
    | rest => (number? false rest).map fun (n, rest) => (.number n, rest)

/-- Reads items up to the closing bracket. -/
def items? : (fuel : Nat) → List Char → Option (List Written × List Char)
  | 0, _ => none
  | fuel + 1, text => do
    let (item, rest) ← value? fuel text
    match skipBlanks rest with
    | ',' :: rest =>
      let (items, rest) ← items? fuel rest
      return (item :: items, rest)
    | ']' :: rest => return ([item], rest)
    | _ => none

/-- Reads members up to the closing brace. -/
def members? : (fuel : Nat) → List Char → Option (List (Option String × Written) × List Char)
  | 0, _ => none
  | fuel + 1, text =>
    match skipBlanks text with
    | '"' :: rest => do
      let (key, rest) ← stringBody? (some []) rest
      let rest ← word? [':'] (skipBlanks rest)
      let (value, rest) ← value? fuel rest
      match skipBlanks rest with
      | ',' :: rest =>
        let (members, rest) ← members? fuel rest
        return ((key, value) :: members, rest)
      | '\x7d' :: rest => return ([(key, value)], rest)
      | _ => none
    | _ => none

end

end Reader

/-- Reads a text with nothing but blanks around it. Each step of the reader takes a character, so
its fuel never runs out. -/
def Written.ofText? (text : String) : Option Written :=
  let chars := text.toList
  match Reader.value? (2 * chars.length + 2) chars with
  | some (value, rest) => if (Reader.skipBlanks rest).isEmpty then some value else none
  | none => none

/-- Reads a value with nothing but blanks around it; it is not nested deeper than allowed. -/
def ofText? (text : String) : Option Json := (Written.ofText? text).bind (Written.value? maxDepth)

end SessionGate.Json
