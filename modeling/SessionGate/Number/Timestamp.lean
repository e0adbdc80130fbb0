import SessionGate.Number.Decimal
import SessionGate.Text.Case

/-!
# Points in time

A point in time is written as a date, a time of day and an offset. `Timestamp.ofText?` reads one up to
its seconds and `Timestamp.toText` writes it in the zone without an offset.
-/
namespace SessionGate
set_option autoImplicit false

/-- Seconds since the start of the year 1970. A leap second is told apart from the second before
it. -/
structure Timestamp where
  seconds : Int
  leap : Bool
deriving DecidableEq, Inhabited

namespace Timestamp

/-! ## The calendar -/

def isLeap (year : Int) : Bool := year % 4 == 0 && (year % 100 != 0 || year % 400 == 0)

def monthDays (year : Int) (month : Nat) : Nat :=
  if month = 2 then if isLeap year then 29 else 28
  else if month = 4 ∨ month = 6 ∨ month = 9 ∨ month = 11 then 30
  else 31

/-- Days from the first of March of the year zero to a date; years start in March, so that a leap day
ends one. -/
def daysOfDate (year : Int) (month day : Nat) : Int :=
  let year := if month ≤ 2 then year - 1 else year
  let month : Int := if month ≤ 2 then month + 9 else month - 3
  365 * year + year / 4 - year / 100 + year / 400 + (153 * month + 2) / 5 + (day - 1)

/-- Days from the first of March of the year zero to the start of the year 1970. -/
def epochDays : Int := 719468

/-- The date of a day. -/
def dateOfDays (days : Int) : Int × Nat × Nat :=
  let era := days / 146097
  let day := days % 146097
  let year := (day - day / 1460 + day / 36524 - day / 146096) / 365
  let rest := day - (365 * year + year / 4 - year / 100)
  let month := (5 * rest + 2) / 153
  let date := rest - (153 * month + 2) / 5 + 1
  let year := year + era * 400 + (if month < 10 then 0 else 1)
  (year, (if month < 10 then month + 3 else month - 9).toNat, date.toNat)

/-! ## Text -/

/-- Reads a whole number of at least one digit and at most so many. -/
def number? (most : Nat) (text : List Char) : Option (Nat × List Char) :=
  let digits := (text.take most).takeWhile Char.isDigit
  if digits.isEmpty then none else some (Number.ofDigits digits, text.drop digits.length)

/-- Reads a part of a date or of a time behind blanks. -/
def part? (text : List Char) : Option (Nat × List Char) := number? 2 (Text.trimStart text)

/-- Reads a year behind blanks. A year with a sign has any number of digits. -/
def year? (text : List Char) : Option (Int × List Char) :=
  match Text.trimStart text with
  | '-' :: rest => (number? rest.length rest).map fun (year, rest) => (-(year : Int), rest)
  | '+' :: rest => (number? rest.length rest).map fun (year, rest) => ((year : Int), rest)
  | rest => (number? 4 rest).map fun (year, rest) => ((year : Int), rest)

/-- Passes over blanks and this sign. -/
def behind? (sign : Char) (text : List Char) : Option (List Char) :=
  match Text.trimStart text with
  | c :: rest => if c = sign then some rest else none
  | [] => none

/-- Passes over a fraction of a second. -/
def afterFraction? : List Char → Option (List Char)
  | '.' :: rest =>
    match rest.takeWhile Char.isDigit with
    | [] => none
    | _ => some (rest.dropWhile Char.isDigit)
  | text => some text

/-- Reads two digits. -/
def pair? : List Char → Option (Nat × List Char)
  | a :: b :: rest =>
    if a.isDigit && b.isDigit then some (Number.ofDigits [a, b], rest) else none
  | _ => none

/-- Reads an offset in seconds: the letter of the zone without an offset, its name, or a signed
number of hours and minutes. -/
def offset? : List Char → Option (Int × List Char)
  | 'Z' :: rest | 'z' :: rest => some (0, rest)
  | sign :: rest =>
    if (sign :: rest).take 3 |>.map Char.toLower |> (· == ['u', 't', 'c']) then
      some (0, rest.drop 2)
    else do
      let (hours, rest) ← pair? rest
      let (minutes, rest) ← pair? (rest.dropWhile fun c => c = ':' || Text.isWhitespace c)
      let seconds : Int := hours * 3600 + minutes * 60
      if 59 < minutes then none
      else if sign = '+' then some (seconds, rest)
      else if sign = '-' || sign = '\u2212' then some (-seconds, rest)
      else none
  | [] => none

/-- First and last year that a point in time can lie in. -/
def firstYear : Int := -262143

def lastYear : Int := 262142

def isYear (year : Int) : Bool := firstYear ≤ year && year ≤ lastYear

/-- Reads a date, a time of day and an offset, with blanks between their parts. A second of 60 is a
leap second. -/
def ofText? (text : String) : Option Timestamp := do
  let (year, rest) ← year? text.toList
  let (month, rest) ← part? (← behind? '-' rest)
  let (day, rest) ← part? (← behind? '-' rest)
  let rest ←
    match rest with
    | 'T' :: rest | 't' :: rest | ' ' :: rest => some rest
    | _ => none
  let (hour, rest) ← part? rest
  let (minute, rest) ← part? (← behind? ':' rest)
  let (second, rest) ← part? (← behind? ':' rest)
  let (offset, rest) ← offset? (Text.trimStart (← afterFraction? rest))
  if !isYear year || month = 0 || 12 < month || day = 0 || monthDays year month < day then none
  else if 23 < hour || 59 < minute || 60 < second || !rest.all Text.isWhitespace then none
  else if offset ≤ -86400 || 86400 ≤ offset then none
  else
    let days := daysOfDate year month day - epochDays
    let seconds := days * 86400 + hour * 3600 + minute * 60 + min second 59 - offset
    if isYear (dateOfDays (seconds / 86400 + epochDays)).1 then some ⟨seconds, second = 60⟩ else none

def padded (count n : Nat) : List Char :=
  let digits := Nat.toDigits 10 n
  List.replicate (count - digits.length) '0' ++ digits

/-- A year of four digits; one before the year zero, or of more digits, has a sign. -/
def yearText (year : Int) : List Char :=
  let digits := padded 4 year.natAbs
  if year < 0 then '-' :: digits else if 9999 < year then '+' :: digits else digits

def toText (t : Timestamp) : String :=
  let (year, month, day) := dateOfDays (t.seconds / 86400 + epochDays)
  let second := (t.seconds % 86400).toNat
  String.ofList (yearText year ++ '-' :: padded 2 month ++ '-' :: padded 2 day ++ 'T' ::
    padded 2 (second / 3600) ++ ':' :: padded 2 (second / 60 % 60) ++ ':' ::
    padded 2 (second % 60 + t.leap.toNat) ++ ['Z'])

end Timestamp
end SessionGate
