import SessionGate.Number.Decimal
import SessionGate.Text.Case

/-!
# Pieces of a template

A template is a run of pieces: literal text, an expression between `$` and braces, a block between
`\x7b%` and `%\x7d`. Comments are no pieces.

- `Piece.scan` cuts a template into pieces and the code in it into tokens.
- A minus sign inside a delimiter drops the blanks of the text beside it.
-/
namespace SessionGate.Template
set_option autoImplicit false

/-- Why a template cannot be rendered. -/
inductive Error where
  | unterminated
  | character
  | number
  | escape
  | unexpected
  | unknownBlock (name : String)
  | unknownFilter (name : String)
  | unknownTest (name : String)
  | unknownFunction
  | missingTemplate
  | undefined
  | argument
  | operation
  | depth
deriving DecidableEq, Inhabited

def Error.message : Error → String
  | .unterminated => "unexpected end of a tag, comment or string"
  | .character => "unexpected character"
  | .number => "malformed number"
  | .escape => "unknown escape in a string"
  | .unexpected => "unexpected token"
  | .unknownBlock name => "unknown block " ++ name
  | .unknownFilter name => "unknown filter " ++ name
  | .unknownTest name => "unknown test " ++ name
  | .unknownFunction => "no function"
  | .missingTemplate => "template not found"
  | .undefined => "undefined value"
  | .argument => "unfit argument"
  | .operation => "unfit operands"
  | .depth => "nested too deep"

/-- A token of code. Signs are kept as they are written. -/
inductive Token where
  | name (text : String)
  | sign (text : String)
  | text (value : String)
  | int (value : Nat)
  | float (value : Number.Double)
deriving DecidableEq, Inhabited

inductive Piece where
  | text (content : List Char)
  | output (code : List Token)
  | block (code : List Token)
deriving DecidableEq, Inhabited

/-! ## Code -/

def isAsciiBlank (c : Char) : Bool :=
  c == ' ' || c == '\t' || c == '\n' || c == '\r' || c == '\x0c'

def isNameStart (c : Char) : Bool := c.isAlpha || c == '_'

def isNameChar (c : Char) : Bool := c.isAlphanum || c == '_'

/-- Signs of two characters. -/
def longSigns : List (List Char) :=
  [['/', '/'], ['*', '*'], ['=', '='], ['!', '='], ['>', '='], ['<', '=']]

/-- Signs of one character. -/
def shortSigns : List Char :=
  ['+', '-', '*', '/', '%', '.', ',', ':', '~', '|', '=', '>', '<', '(', ')', '[', ']', '\x7b',
    '\x7d']

private def hexValue? (c : Char) : Option Nat :=
  if '0' ≤ c ∧ c ≤ '9' then some (c.toNat - '0'.toNat)
  else if 'a' ≤ c ∧ c ≤ 'f' then some (c.toNat - 'a'.toNat + 10)
  else if 'A' ≤ c ∧ c ≤ 'F' then some (c.toNat - 'A'.toNat + 10)
  else none

/-! ## Strings -/

/-- The text between quotes as it is written, and the rest behind the closing quote; a backslash
takes the next character with it. `read` is in reverse. -/
def quotedSpan (quote : Char) (read : List Char) : List Char → Except Error (List Char × List Char)
  | [] => .error .unterminated
  | ['\\'] => .error .unterminated
  | '\\' :: c :: rest => quotedSpan quote (c :: '\\' :: read) rest
  | c :: rest => if c = quote then .ok (read.reverse, rest) else quotedSpan quote (c :: read) rest

/-- Escapes of one character. -/
def simpleEscapes : List (Char × Char) :=
  [('"', '"'), ('\\', '\\'), ('/', '/'), ('\x27', '\x27'), ('b', '\x08'), ('f', '\x0c'),
    ('n', '\n'), ('r', '\r'), ('t', '\t')]

/-- Reads hexadecimal digits; a plus sign may stand in front. -/
def hexNumber (text : List Char) : Except Error Nat :=
  let digits :=
    match text with
    | '+' :: rest => rest
    | _ => text
  match digits.mapM hexValue? with
  | some (v :: values) => .ok ((v :: values).foldl (fun n v => 16 * n + v) 0)
  | _ => .error .escape

def isOctal (c : Char) : Bool := '0' ≤ c && c ≤ '7'

def isSurrogate (n : Nat) : Bool := 0xD800 ≤ n && n < 0xE000

/-- The character of two surrogates, the high one first. -/
def surrogatePair (high low : Nat) : Except Error Char :=
  if high < 0xDC00 ∧ 0xDC00 ≤ low then
    .ok (Char.ofNat (0x10000 + (high - 0xD800) * 0x400 + (low - 0xDC00)))
  else .error .escape

/-- What an escape stands for: characters, or a surrogate that waits for its second half. -/
inductive Escape where
  | chars (text : List Char)
  | half (surrogate : Nat)

/-- Reads an escape behind its backslash; `high` is a surrogate that waits. An escape that is not
known stands for itself. -/
def escape (high : Option Nat) (c : Char) (rest : List Char) : Except Error (Escape × List Char) :=
  match high, c with
  | _, 'u' => do
    let n ← hexNumber (rest.take 4)
    if rest.length < 4 then throw .escape
    match high with
    | none => return (if isSurrogate n then .half n else .chars [Char.ofNat n], rest.drop 4)
    | some h =>
      if isSurrogate n then return (.chars [← surrogatePair h n], rest.drop 4)
      else throw .escape
  | some _, _ => .error .escape
  | none, 'x' => do
    if rest.length < 2 then throw .escape
    return (.chars [Char.ofNat (← hexNumber (rest.take 2))], rest.drop 2)
  | none, _ =>
    match simpleEscapes.lookup c with
    | some x => .ok (.chars [x], rest)
    | none =>
      if isOctal c then
        let digits := c :: (rest.take 2).takeWhile isOctal
        let n := digits.foldl (fun n c => 8 * n + Number.ofDigits [c]) 0
        if n < 256 then .ok (.chars [Char.ofNat n], rest.drop (digits.length - 1))
        else .error .escape
      else .ok (.chars ['\\', c], rest)

/-- Replaces the escapes of a string; `read` is in reverse. -/
def unescape : (fuel : Nat) → (high : Option Nat) → (read : List Char) → List Char →
    Except Error (List Char)
  | 0, _, _, _ => .error .escape
  | fuel + 1, high, read, text =>
    match high, text with
    | none, [] => .ok read.reverse
    | _, '\\' :: c :: rest =>
      match escape high c rest with
      | .ok (.chars cs, rest) => unescape fuel none (cs.reverse ++ read) rest
      | .ok (.half n, rest) => unescape fuel (some n) read rest
      | .error e => .error e
    | none, c :: rest => unescape fuel none (c :: read) rest
    | some _, _ => .error .escape

/-- Reads a string behind its opening quote. -/
def stringBody (quote : Char) (text : List Char) : Except Error (String × List Char) := do
  let (written, rest) ← quotedSpan quote [] text
  return (String.ofList (← unescape (written.length + 1) none [] written), rest)

/-! ## Numbers and signs -/

/-- Part of a number that is being read. -/
inductive NumberPart where
  | integer
  | radix (base : Nat)
  | fraction
  | exponent
  | exponentDigits
deriving DecidableEq

def NumberPart.next? (part : NumberPart) (c : Char) : Option NumberPart :=
  match part with
  | .integer =>
    if c = '.' then some .fraction
    else if c = 'e' ∨ c = 'E' then some .exponent
    else if c.isDigit ∨ c = '_' then some .integer
    else none
  | .fraction =>
    if c = 'e' ∨ c = 'E' then some .exponent
    else if c.isDigit ∨ c = '_' then some .fraction
    else none
  | .exponent =>
    if c = '+' ∨ c = '-' ∨ c.isDigit then some .exponentDigits
    else if c = '_' then some .exponent
    else none
  | .exponentDigits => if c.isDigit ∨ c = '_' then some .exponentDigits else none
  | .radix base =>
    if c.isDigit ∨ c = '_' ∨ (base = 16 ∧ (hexValue? c).isSome) then some (.radix base) else none

/-- The longest run that goes on with a number. -/
def numberRun (part : NumberPart) : List Char → List Char × NumberPart × List Char
  | [] => ([], part, [])
  | c :: rest =>
    match part.next? c with
    | some part =>
      let (run, part, rest) := numberRun part rest
      (c :: run, part, rest)
    | none => ([], part, c :: rest)

/-- A whole number of at most 128 bits. -/
def whole (base : Nat) (digits : List Char) : Except Error Token :=
  match digits.mapM fun c => (hexValue? c).filter (· < base) with
  | some (v :: values) =>
    let n := (v :: values).foldl (fun n v => base * n + v) 0
    if n < twoPow 128 then .ok (.int n) else .error .number
  | _ => .error .number

/-- Reads a number; underscores may stand between its digits. -/
def number (text : List Char) : Except Error (Token × List Char) :=
  let (part, text) : NumberPart × List Char :=
    match text with
    | '0' :: 'b' :: rest | '0' :: 'B' :: rest => (.radix 2, rest)
    | '0' :: 'o' :: rest | '0' :: 'O' :: rest => (.radix 8, rest)
    | '0' :: 'x' :: rest | '0' :: 'X' :: rest => (.radix 16, rest)
    | _ => (.integer, text)
  let (run, part, rest) := numberRun part text
  let digits := run.filter (· != '_')
  if run.getLast? = some '_' then .error .number
  else
    match part with
    | .integer => (whole 10 digits).map fun t => (t, rest)
    | .radix base => (whole base digits).map fun t => (t, rest)
    | _ =>
      match Number.Double.ofLiteral? (String.ofList digits) with
      | some d => .ok (.float d, rest)
      | none => .error .number

/-- Whether the blanks behind a delimiter are dropped. -/
inductive Trim where
  | keep
  | drop
deriving DecidableEq, Inhabited

/-- Sign that a delimiter may carry: minus drops blanks, plus keeps them. -/
def trimSign : List Char → Trim × List Char
  | '-' :: rest => (.drop, rest)
  | '+' :: rest => (.keep, rest)
  | rest => (.keep, rest)

/-- The rest behind a closing delimiter. -/
def closing? (close text : List Char) : Option (Trim × List Char) :=
  if close.isPrefixOf text then some (.keep, text.drop close.length)
  else
    match text with
    | '-' :: rest =>
      if close.isPrefixOf rest then some (.drop, rest.drop close.length) else none
    | '+' :: rest =>
      if close.isPrefixOf rest then some (.keep, rest.drop close.length) else none
    | _ => none

/-- How many brackets a sign opens. -/
def bracketStep (c : Char) : Int :=
  if c = '(' ∨ c = '[' ∨ c = '\x7b' then 1
  else if c = ')' ∨ c = ']' ∨ c = '\x7d' then -1
  else 0

/-- Reads one token. -/
def token (c : Char) (rest : List Char) : Except Error (Token × List Char) :=
  match longSigns.find? (·.isPrefixOf (c :: rest)) with
  | some sign => .ok (.sign (String.ofList sign), rest.tail)
  | none =>
    if shortSigns.contains c then .ok (.sign (String.ofList [c]), rest)
    else if c = '\x27' ∨ c = '"' then
      (stringBody c rest).map fun (s, rest) => (.text s, rest)
    else if c.isDigit then number (c :: rest)
    else if isNameStart c then
      .ok (.name (String.ofList (c :: rest.takeWhile isNameChar)), rest.dropWhile isNameChar)
    else .error .character

/-- Reads code up to its closing delimiter, which does not count inside brackets. -/
def code (close : List Char) :
    (fuel : Nat) → (nested : Int) → List Char → Except Error (List Token × Trim × List Char)
  | 0, _, _ => .error .unterminated
  | fuel + 1, nested, text =>
    match text with
    | [] => .error .unterminated
    | c :: rest =>
      match if nested = 0 then closing? close text else none with
      | some (trim, rest) => .ok ([], trim, rest)
      | none =>
        if isAsciiBlank c then code close fuel nested rest
        else do
          let (t, rest) ← token c rest
          let step := match t with
            | .sign s => (s.toList.map bracketStep).sum
            | _ => 0
          let (tokens, trim, rest) ← code close fuel (nested + step) rest
          return (t :: tokens, trim, rest)

/-! ## Pieces -/

/-- What a delimiter opens. -/
inductive Opening where
  | output
  | block
  | comment
deriving DecidableEq, Inhabited

/-- The text in front of the first opening delimiter, and what it opens. -/
def splitOpening : List Char → List Char × Option (Opening × List Char)
  | [] => ([], none)
  | '$' :: '\x7b' :: rest => ([], some (.output, rest))
  | '\x7b' :: '%' :: rest => ([], some (.block, rest))
  | '\x7b' :: '#' :: rest => ([], some (.comment, rest))
  | c :: rest =>
    let (text, found) := splitOpening rest
    (c :: text, found)

def outputClose : List Char := ['\x7d']
def blockClose : List Char := ['%', '\x7d']
def commentClose : List Char := ['#', '\x7d']

/-- The rest behind a comment; a sign in front of its end counts. -/
def comment (last : Char) : List Char → Except Error (Trim × List Char)
  | [] => .error .unterminated
  | '#' :: '\x7d' :: rest => .ok (if last = '-' then .drop else .keep, rest)
  | c :: rest => comment c rest

/-- The rest behind a block that consists of one word. -/
def wordBlock? (word text : List Char) : Option (Trim × List Char) :=
  let text := text.dropWhile isAsciiBlank
  if word.isPrefixOf text then
    closing? blockClose ((text.drop word.length).dropWhile isAsciiBlank)
  else none

/-- The text up to the end of a raw block: the text, the sign in front of its end, the one behind. -/
def rawBody : List Char → Option (List Char × Trim × Trim × List Char)
  | [] => none
  | c :: rest =>
    let here : Option (Trim × Trim × List Char) :=
      match c, rest with
      | '\x7b', '%' :: rest =>
        let (before, text) := trimSign rest
        (wordBlock? "endraw".toList text).map fun (behind, rest) => (before, behind, rest)
      | _, _ => none
    match here with
    | some (before, behind, rest) => some ([], before, behind, rest)
    | none => (rawBody rest).map fun (text, more) => (c :: text, more)

def Trim.start (trim : Trim) (text : List Char) : List Char :=
  if trim = .drop then Text.trimStart text else text

def Trim.finish (trim : Trim) (text : List Char) : List Char :=
  if trim = .drop then Text.trimEnd text else text

/-- A piece of text, unless it is empty. -/
def textPiece (text : List Char) : List Piece := if text.isEmpty then [] else [.text text]

/-- Cuts a template into pieces; `trim` says whether the blanks at its start are dropped. -/
def pieces : (fuel : Nat) → Trim → List Char → Except Error (List Piece)
  | 0, _, _ => .error .unterminated
  | fuel + 1, trim, template =>
    match splitOpening (trim.start template) with
    | (text, none) => .ok (textPiece text)
    | (text, some (opening, rest)) => do
      let (sign, rest) := trimSign rest
      let text := textPiece (sign.finish text)
      match opening with
      | .comment =>
        let (trim, rest) ← comment (rest.headD ' ') rest
        return text ++ (← pieces fuel trim rest)
      | .output =>
        let (tokens, trim, rest) ← code outputClose (rest.length + 1) 0 rest
        return text ++ .output tokens :: (← pieces fuel trim rest)
      | .block =>
        match wordBlock? "raw".toList rest with
        | some (first, body) =>
          match rawBody body with
          | none => throw .unterminated
          | some (raw, last, trim, rest) =>
            let raw := textPiece (last.finish (first.start raw))
            return text ++ raw ++ (← pieces fuel trim rest)
        | none =>
          let (tokens, trim, rest) ← code blockClose (rest.length + 1) 0 rest
          return text ++ .block tokens :: (← pieces fuel trim rest)

/-- The pieces of a template. Each delimiter takes a character, so the fuel never runs out. -/
def Piece.scan (template : List Char) : Except Error (List Piece) :=
  pieces (template.length + 1) .keep template

end SessionGate.Template
