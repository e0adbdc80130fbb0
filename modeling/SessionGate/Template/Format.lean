import SessionGate.Number.FixedPoint
import SessionGate.Template.Given

/-!
# Texts with directives

A text with directives that start with a percent sign is filled in with values, one each, in order or
by name. A directive has flags, a width, a precision and a letter for the form.

- `FormatDirective.read` reads a directive.
- `formatText` fills a text in; there must be as many values as directives.
-/
namespace SessionGate.Template
set_option autoImplicit false
open Number (Double)

structure FormatDirective where
  key : Option String := none
  flags : List Char := []
  width : Nat := 0
  precision : Option Nat := none
  letter : Char := 's'
deriving Inhabited

namespace FormatDirective

def hasFlag (d : FormatDirective) (flag : Char) : Bool := d.flags.contains flag

def isFlag (c : Char) : Bool := ['-', '+', ' ', '#', '0'].contains c

/-- Widest field. -/
def widthLimit : Nat := 1000000

/-- Reads digits, of which there may be none. -/
def digits (text : List Char) : Except Error (Nat × List Char) :=
  let n := Number.ofDigits (text.takeWhile Char.isDigit)
  if widthLimit < n then .error .argument else .ok (n, text.dropWhile Char.isDigit)

/-- Reads a directive behind its percent sign. -/
def read (text : List Char) : Except Error (FormatDirective × List Char) := do
  let (key, text) ←
    match text with
    | '(' :: rest =>
      match rest.dropWhile (· != ')') with
      | ')' :: more => pure (some (String.ofList (rest.takeWhile (· != ')'))), more)
      | _ => throw .argument
    | _ => pure (none, text)
  let flags := text.takeWhile isFlag
  let (width, text) ← digits (text.dropWhile isFlag)
  let (precision, text) ←
    match text with
    | '.' :: rest => do
      let (n, rest) ← digits rest
      pure (some n, rest)
    | _ => pure (none, text)
  match text.dropWhile fun c => ['l', 'h', 'L'].contains c with
  | letter :: rest => return ({ key, flags, width, precision, letter }, rest)
  | [] => throw .argument

/-- Fills a field up to its width, on the right for the flag `-`, else on the left. -/
def pad (d : FormatDirective) (text : List Char) : List Char :=
  let blanks := List.replicate (d.width - text.length) ' '
  if d.hasFlag '-' then text ++ blanks else blanks ++ text

/-- Puts sign and marks in front of a number; zeros may fill the field behind them. -/
def padNumber (d : FormatDirective) (negative : Bool) (mark text : List Char) (zeros : Bool) :
    List Char :=
  let sign :=
    if negative then ['-'] else if d.hasFlag '+' then ['+'] else if d.hasFlag ' ' then [' '] else []
  let front := sign ++ mark
  if zeros && d.hasFlag '0' && !d.hasFlag '-' then
    front ++ List.replicate (d.width - front.length - text.length) '0' ++ text
  else d.pad (front ++ text)

/-- The whole number of a value, without the fraction of a float. -/
def wholeOf (fraction : Bool) (v : Value) : Except Error Int :=
  match v with
  | .float d =>
    match d.truncate.toInt? with
    | some i => if fraction then .ok i else .error .argument
    | none => .error .argument
  | v =>
    match v.whole? with
    | some i => .ok i
    | none => .error .argument

def number (v : Value) : Except Error Double :=
  match v.double? true with
  | some d => .ok d
  | none => .error .argument

/-- A whole number in a base, with at least as many digits as the precision. -/
def integer (d : FormatDirective) (i : Int) (base : Nat) (mark : String) (upper : Bool) :
    List Char :=
  let text := Nat.toDigits base i.natAbs
  let text := List.replicate (d.precision.getD 0 - text.length) '0' ++ text
  let mark := if d.hasFlag '#' then mark.toList else []
  let raise (cs : List Char) := if upper then cs.map Char.toUpper else cs
  d.padNumber (i < 0) (raise mark) (raise text) true

/-- A float by one of the forms with a precision. -/
def float (d : FormatDirective) (x : Double) (form : Nat → Double → Bool × List Char)
    (upper : Bool) : List Char :=
  let (negative, text) := form (d.precision.getD 6) x
  d.padNumber negative [] (if upper then text.map Char.toUpper else text) x.isFinite

def fill (d : FormatDirective) (v : Value) : Except Error (List Char) := do
  let cut (s : String) : List Char :=
    match d.precision with
    | some n => s.toList.take n
    | none => s.toList
  match d.letter with
  | 's' => return d.pad (cut v.display)
  | 'r' | 'a' => return d.pad (cut v.repr)
  | 'c' =>
    match v with
    | .text s _ => if s.length = 1 then return d.pad s.toList else throw .argument
    | _ => return d.pad [Char.ofNat (← wholeOf false v).toNat]
  | 'd' | 'i' | 'u' => return d.integer (← wholeOf true v) 10 "" false
  | 'x' => return d.integer (← wholeOf false v) 16 "0x" false
  | 'X' => return d.integer (← wholeOf false v) 16 "0x" true
  | 'o' => return d.integer (← wholeOf false v) 8 "0o" false
  | 'f' => return d.float (← number v) Double.fixed false
  | 'F' => return d.float (← number v) Double.fixed true
  | 'e' => return d.float (← number v) Double.fixedExponent false
  | 'E' => return d.float (← number v) Double.fixedExponent true
  | 'g' => return d.float (← number v) (Double.general · (d.hasFlag '#')) false
  | 'G' => return d.float (← number v) (Double.general · (d.hasFlag '#')) true
  | _ => throw .argument

end FormatDirective

/-- Fills in a text; `values` are those that are left. -/
def formatParts (given : Given) : (fuel : Nat) → (values : List Value) → List Char →
    Except Error (List Char)
  | 0, _, _ => .error .depth
  | fuel + 1, values, text =>
    match text with
    | [] => if values.isEmpty then .ok [] else .error .argument
    | '%' :: rest => do
      let (d, rest) ← FormatDirective.read rest
      if d.letter = '%' then return '%' :: (← formatParts given fuel values rest)
      match d.key, values with
      | some key, _ =>
        let v ← (given.option key).asValue
        return (← d.fill v) ++ (← formatParts given fuel values rest)
      | none, v :: values => return (← d.fill v) ++ (← formatParts given fuel values rest)
      | none, [] => throw .argument
    | c :: rest => (formatParts given fuel values rest).map (c :: ·)

/-- Fills in a text with the arguments that are passed. -/
def formatText (text : String) (given : Given) : Except Error String :=
  (formatParts given (text.length + 1) given.values text.toList).map String.ofList

end SessionGate.Template
