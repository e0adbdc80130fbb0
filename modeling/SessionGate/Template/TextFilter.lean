import SessionGate.Number.Decimal
import SessionGate.Template.Given
import SessionGate.Text.Split

/-!
# Filters on texts and numbers

- `capitalize`, `title`, `escapeHtml` and `indent` change a text.
- `toInteger` and `toFloat` read a value as a number.
-/
namespace SessionGate.Template
set_option autoImplicit false
open Number (Double)

/-! ## Texts -/

def capitalize (text : String) : String :=
  match text.toList with
  | [] => ""
  | c :: rest => String.ofList (Text.upperChar c) ++ Text.lower (String.ofList rest)

/-- Whether a character parts words of a title: a blank or a mark of ASCII. -/
def partsWords (c : Char) : Bool :=
  Text.isWhitespace c || (0x21 ≤ c.toNat && c.toNat < 0x7f && !c.isAlphanum)

/-- Upper-case first letters, the rest in lower case; `start` tells whether a word begins. -/
def titleFrom (start : Bool) : List Char → List Char
  | [] => []
  | c :: rest =>
    if partsWords c then c :: titleFrom true rest
    else (if start then Text.upperChar c else Text.lowerChar c) ++ titleFrom false rest

def title (text : String) : String := String.ofList (titleFrom true text.toList)

def escapeChar (c : Char) : List Char :=
  if c = '<' then "&lt;".toList
  else if c = '>' then "&gt;".toList
  else if c = '&' then "&amp;".toList
  else if c = '"' then "&quot;".toList
  else if c = '\x27' then "&#x27;".toList
  else if c = '/' then "&#x2f;".toList
  else [c]

/-- Replaces the characters that have a meaning in markup. -/
def escapeHtml (text : String) : String := String.ofList (text.toList.flatMap escapeChar)

/-- Text of a value in markup; a safe text and a value without marks stay as they are. -/
def Value.markup : Value → String
  | .text s true => s
  | .text s false => escapeHtml s
  | v => if v.rank < 4 then v.display else escapeHtml v.display

/-- Drops one line end at the end. -/
def withoutLineEnd (text : List Char) : List Char :=
  let text := if text.getLast? = some '\n' then text.dropLast else text
  if text.getLast? = some '\r' then text.dropLast else text

/-- Puts spaces in front of the lines behind the first one; empty lines only if `blank` holds. -/
def indent (text : String) (width : Nat) (first blank : Bool) : String :=
  let spaces := List.replicate width ' '
  let lines := Text.splitAll ['\n'] none (withoutLineEnd text.toList)
  let padded := lines.zipIdx.map fun (line, i) =>
    if (i == 0 && !first) || (line.isEmpty && !blank) then line else spaces ++ line
  String.ofList (withoutLineEnd (padded.flatMap fun line => line ++ ['\n']))

/-- Drops characters of a set on both sides. -/
def trimSet (set text : List Char) : List Char :=
  ((text.dropWhile set.contains).reverse.dropWhile set.contains).reverse

/-- The parts of a text between separators, or its words. -/
def splitText (text : String) (separator : Option String) (most : Option Int) : Value :=
  let cuts := (most.filter (0 ≤ ·)).map Int.toNat
  let parts :=
    match separator, cuts with
    | some s, _ => Text.splitAll s.toList cuts text.toList
    | none, none => Text.words text.toList
    | none, some _ => Text.splitBlanks cuts text.toList
  .list .unsized (parts.map Value.ofChars)

/-! ## Numbers -/

/-- The integer of 128 bits nearest to a float without its fraction. -/
def saturated (d : Double) : Int :=
  match d.view with
  | .nan => 0
  | .infinite negative => if negative then -(twoPow 127 : Int) else twoPow 127 - 1
  | .finite .. => max (-(twoPow 127 : Int)) (min (twoPow 127 - 1) (d.truncate.toInt?.getD 0))

/-- Reads a signed whole number of 128 bits. -/
def wholeText? (text : String) : Option Int :=
  let (negative, digits) := Number.splitSign text.toList
  let n : Int := Number.ofDigits digits
  let i := if negative then -n else n
  if digits.isEmpty || digits.any (!·.isDigit) || !Value.fits i then none else some i

def toInteger (v : Value) : Except Error Value :=
  match v with
  | .int _ => .ok v
  | .bool b => .ok (.int (if b then 1 else 0))
  | .undefined | .absent | .none => .ok (.int 0)
  | .float d => .ok (.int (saturated d))
  | .text s _ =>
    match wholeText? s with
    | some i => .ok (.int i)
    | none =>
      match Double.ofLiteral? s with
      | some d => .ok (.int (saturated d))
      | none => .error .argument
  | _ => .error .argument

def toFloat (v : Value) : Except Error Value :=
  match v with
  | .undefined | .absent | .none => .ok (.float (.zero false))
  | .text s _ =>
    match Double.ofLiteral? s with
    | some d => .ok (.float d)
    | none => .error .argument
  | v =>
    match v.double? true with
    | some d => .ok (.float d)
    | none => .error .argument

/-- The size of a number. -/
def absolute : Value → Except Error Value
  | .int i => if Value.fits i then Value.ofInt i.natAbs else .ok (.int i)
  | .float d => .ok (.float (if d.bits < 0x8000000000000000 then d else d.negate))
  | _ => .error .argument

/-- Rounds a float to so many places behind the point. -/
def roundTo (v : Value) (places : Int) : Except Error Value :=
  match v with
  | .int _ => .ok v
  | .float d =>
    let unit := (Double.ofInt 10).powerWhole places
    .ok (.float ((unit.mul d).round.div unit))
  | _ => .error .argument

end SessionGate.Template
