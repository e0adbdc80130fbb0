import SessionGate.Log.Pattern
import SessionGate.Text.AlphanumericTable
import SessionGate.Text.Case

/-!
# Reading patterns

- `Pattern.escaped?` reads what follows a backslash, `Members.ofText?` a class behind its opening
  bracket and `Pattern.ofText?` a whole pattern.
- A setting makes a pattern `spaced`: blanks in it are passed over then, and so is all from a `#` to
  the end of its line.
- A pattern is cut out of a directive, so that no brace that closes occurs in it: one that opens
  has no end.
-/
namespace SessionGate.Log
set_option autoImplicit false

/-- Drops blanks and comments; `inComment` says that the text begins inside a comment. -/
def dropSpacing (inComment : Bool) : List Char → List Char
  | [] => []
  | c :: rest =>
    if inComment then dropSpacing (c != '\n') rest
    else if Text.isWhitespace c then dropSpacing false rest
    else if c = '#' then dropSpacing true rest
    else c :: rest

/-- Drops blanks and comments from a spaced text. -/
def skipSpacing (spaced : Bool) (text : List Char) : List Char :=
  if spaced then dropSpacing false text else text

/-- The sign behind blanks. Of a comment the first sign is seen. -/
def nextSign? (spaced : Bool) (text : List Char) : Option Char :=
  if spaced then
    match text.dropWhile Text.isWhitespace with
    | '#' :: rest => (rest.dropWhile Text.isWhitespace).head?
    | rest => rest.head?
  else text.head?

/-! ## What a backslash stands before -/

namespace Pattern

def hexDigit? (c : Char) : Option Nat :=
  if c.isDigit then some (c.toNat - '0'.toNat)
  else if 'a' ≤ c && c ≤ 'f' then some (c.toNat - 'a'.toNat + 10)
  else if 'A' ≤ c && c ≤ 'F' then some (c.toNat - 'A'.toNat + 10)
  else none

/-- Reads a number of so many hexadecimal digits. -/
def hexNumber? (spaced : Bool) (value : Nat) : Nat → List Char → Option (Nat × List Char)
  | 0, text => some (value, text)
  | digits + 1, c :: rest => do
    hexNumber? spaced (16 * value + (← hexDigit? c)) digits (skipSpacing spaced rest)
  | _ + 1, [] => none

/-- Letters in front of the number of a character, with the count of its digits. -/
def hexWidths : List (Char × Nat) := [('x', 2), ('u', 4), ('U', 8)]

/-- Letters that stand for a control character. -/
def controls : List (Char × Char) :=
  [('a', '\x07'), ('f', '\x0c'), ('t', '\t'), ('n', '\n'), ('r', '\r'), ('v', '\x0b')]

/-- Letters of the categories: other, letter, mark, number, punctuation, symbol, separator. -/
def categories : List Char := ['c', 'l', 'm', 'n', 'p', 's', 'z']

/-- Reads what follows a backslash. A sign of ASCII stands for itself, an angle for an edge of a
word. -/
def escaped? (spaced : Bool) : List Char → Option (Pattern × List Char)
  | [] => none
  | c :: rest =>
    match hexWidths.lookup c, controls.lookup c with
    | some width, _ => do
      let (value, rest) ← hexNumber? spaced 0 width (skipSpacing spaced rest)
      if value.isValidChar then return (.character (Char.ofNat value) (c = 'x'), rest) else none
    | none, some control => some (.character control false, rest)
    | none, none =>
      if c = 'p' || c = 'P' then
        match skipSpacing spaced rest with
        | letter :: rest =>
          if categories.contains letter.toLower then some (.category, skipSpacing spaced rest)
          else none
        | [] => none
      else if ['d', 's', 'w'].contains c then some (.named false, rest)
      else if ['D', 'S', 'W'].contains c then some (.named true, rest)
      else if c = 'A' || c = 'z' then some (.lineEdge, rest)
      else if c = 'b' then if rest.head? = some '\x7b' then none else some (.wordEdge, rest)
      else if ['B', '<', '>'].contains c then some (.wordEdge, rest)
      else if c.toNat < 0x80 && !c.isAlphanum then some (.character c false, rest)
      else none

end Pattern

/-! ## Classes -/

namespace Members

def classNames : List String :=
  ["alnum", "alpha", "ascii", "blank", "cntrl", "digit", "graph", "lower", "print", "punct",
    "space", "upper", "word", "xdigit"]

/-- Reads members that are called by their name, behind the opening bracket. -/
def named? : List Char → Option (Members × List Char)
  | ':' :: text =>
    let negated := text.head? = some '^'
    let text := if negated then text.tail else text
    match text.dropWhile (· ≠ ':') with
    | ':' :: ']' :: rest =>
      if classNames.contains (String.ofList (text.takeWhile (· ≠ ':'))) then
        some (.named negated, rest)
      else none
    | _ => none
  | _ => none

/-- Reads one sign between brackets. -/
def sign? (spaced : Bool) : List Char → Option (Members × List Char)
  | [] => none
  | '\\' :: text => do
    match ← Pattern.escaped? spaced text with
    | (.character c _, rest) => return (.character c, rest)
    | (.named negated, rest) => return (.named negated, rest)
    | (.category, rest) => return (.category, rest)
    | _ => none
  | c :: rest => some (.character c, rest)

/-- Reads one sign, or a range from one sign to another. A hyphen in front of a bracket or of
another hyphen makes no range. -/
def item? (spaced : Bool) (text : List Char) : Option (Members × List Char) := do
  let (first, rest) ← sign? spaced text
  match skipSpacing spaced rest with
  | '-' :: rest =>
    let next := nextSign? spaced rest
    if next = some ']' || next = some '-' then return (first, '-' :: rest)
    match first, ← sign? spaced (skipSpacing spaced rest) with
    | .character first, (.character last, rest) =>
      if first ≤ last then return (.range first last, rest) else none
    | _, _ => none
  | rest => return (first, rest)

/-- A class whose end has not been read. -/
structure Open where
  negated : Bool
  /-- No sign but hyphens has been read. -/
  leading : Bool
  left : Option Members
  /-- The latest member first. -/
  items : List Members
deriving Inhabited

namespace Open

/-- Opens a class behind its bracket. -/
def begin (spaced : Bool) (text : List Char) : Open × List Char :=
  match skipSpacing spaced text with
  | '^' :: rest => (⟨true, true, none, []⟩, rest)
  | text => (⟨false, true, none, []⟩, text)

def put (cls : Open) (item : Members) : Open := { cls with items := item :: cls.items }

def members (cls : Open) : Members :=
  let items := Members.ofItems cls.items.reverse
  match cls.left with
  | some left => .combined left items
  | none => items

/-- Puts what has been read to the left of a sign that combines. -/
def combine (cls : Open) : Open := { cls with left := some cls.members, items := [] }

end Open

/-- Reads the rest of a class, with the classes around it; `fuel` bounds the signs. -/
def readFrom? (spaced : Bool) (fuel : Nat) (around : List Open) (cls : Open) (text : List Char) :
    Option (Open × List Char) :=
  match fuel with
  | 0 => none
  | fuel + 1 =>
    match skipSpacing spaced text with
    | [] => none
    | c :: rest =>
      if cls.leading && c = '-' then
        readFrom? spaced fuel around (cls.put (.character c)) rest
      else if cls.leading && c = ']' && cls.items.isEmpty then
        readFrom? spaced fuel around { cls.put (.character c) with leading := false } rest
      else
        let cls := { cls with leading := false }
        match c, rest with
        | '[', rest =>
          match named? rest with
          | some (item, rest) => readFrom? spaced fuel around (cls.put item) rest
          | none =>
            let (inner, rest) := Open.begin spaced rest
            readFrom? spaced fuel (cls :: around) inner rest
        | ']', rest =>
          match around with
          | [] => some (cls, rest)
          | outer :: around =>
            readFrom? spaced fuel around (outer.put (.bracketed cls.negated cls.members)) rest
        | '&', '&' :: rest | '-', '-' :: rest | '~', '~' :: rest =>
          readFrom? spaced fuel around cls.combine rest
        | c, rest =>
          match item? spaced (c :: rest) with
          | some (item, rest) => readFrom? spaced fuel around (cls.put item) rest
          | none => none

/-- Reads a class behind its opening bracket. -/
def ofText? (spaced : Bool) (text : List Char) : Option (Pattern × List Char) := do
  let (cls, rest) := Open.begin spaced text
  let (cls, rest) ← readFrom? spaced (rest.length + 1) [] cls rest
  return (.bracketed cls.negated cls.members, rest)

end Members

/-! ## Groups -/

namespace Pattern

/-- What an opening parenthesis stands before. -/
inductive Head where
  | setting (flags : List Char)
  | group (name : Option String) (flags : List Char)

/-- Letters of the settings, and the hyphen that switches off those behind it. -/
def settingLetters : List Char := ['i', 'm', 's', 'U', 'u', 'R', 'x', '-']

def isNameStart (c : Char) : Bool :=
  c = '_' || (Text.inRanges Text.alphanumeric c && !Text.inRanges Text.plainNumber c)

def isNameSign (c : Char) : Bool :=
  ['_', '.', '[', ']'].contains c || Text.inRanges Text.alphanumeric c

/-- Reads the name of a group up to the angle that closes. -/
def name? (text : List Char) : Option (Head × List Char) :=
  match text.takeWhile (· ≠ '>'), text.dropWhile (· ≠ '>') with
  | first :: name, _ :: rest =>
    if isNameStart first && name.all isNameSign then
      some (.group (some (String.ofList (first :: name))) [], rest)
    else none
  | _, _ => none

/-- Reads settings, each given once. They end in a parenthesis, or in a colon in front of the group
that they are for. -/
def settings? (text : List Char) : Option (Head × List Char) :=
  let ends (c : Char) : Bool := c = ':' || c = ')'
  let flags := text.takeWhile (!ends ·)
  if !flags.all settingLetters.contains || !flags.Nodup || flags.getLast? = some '-' then none
  else
    match text.dropWhile (!ends ·) with
    | ':' :: rest => some (.group none flags, rest)
    | _ :: rest => if flags.isEmpty then none else some (.setting flags, rest)
    | [] => none

/-- Reads what follows an opening parenthesis. -/
def head? (spaced : Bool) (text : List Char) : Option (Head × List Char) :=
  match skipSpacing spaced text with
  | '?' :: 'P' :: '<' :: rest | '?' :: '<' :: rest => name? rest
  | '?' :: rest => settings? rest
  | rest => some (.group none [], rest)

/-- A group whose end has not been read, or the pattern as a whole. -/
structure Open where
  name : Option String := none
  flags : List Char := []
  /-- The pattern around the group is spaced. -/
  spacedOutside : Bool := false
  /-- The branches that have ended, the latest first. -/
  branches : List Pattern := []
  /-- The parts of the branch that is read, the latest first. -/
  items : List Pattern := []
deriving Inhabited

namespace Open

def put (group : Open) (item : Pattern) : Open := { group with items := item :: group.items }

/-- Ends a branch. -/
def branch (group : Open) : Open :=
  { group with branches := Pattern.ofItems group.items.reverse :: group.branches, items := [] }

def pattern (group : Open) : Pattern :=
  if group.branches.isEmpty then Pattern.ofItems group.items.reverse
  else .choice group.branch.branches.reverse

/-- Repeats the latest part. -/
def repeated? (group : Open) : Option Open :=
  match group.items with
  | [] | .setting _ :: _ => none
  | item :: items => some { group with items := .repeated item :: items }

end Open

/-- Reads the rest of a pattern, with the groups around it; `fuel` bounds the signs. -/
def readFrom? (fuel : Nat) (spaced : Bool) (around : List Open) (group : Open) (text : List Char) :
    Option Pattern :=
  match fuel with
  | 0 => none
  | fuel + 1 =>
    let goOn := readFrom? fuel spaced around
    match skipSpacing spaced text with
    | [] => if around.isEmpty then some group.pattern else none
    | '(' :: rest => do
      match ← head? spaced rest with
      | (.setting flags, rest) =>
        readFrom? fuel ((settingValue? flags 'x').getD spaced) around (group.put (.setting flags))
          rest
      | (.group name flags, rest) =>
        readFrom? fuel ((settingValue? flags 'x').getD spaced) (group :: around)
          { name := name, flags := flags, spacedOutside := spaced } rest
    | ')' :: rest =>
      match around with
      | [] => none
      | outer :: around =>
        readFrom? fuel group.spacedOutside around
          (outer.put (.group group.name group.flags group.pattern)) rest
    | '|' :: rest => goOn group.branch rest
    | '[' :: rest => do
      let (item, rest) ← Members.ofText? spaced rest
      goOn (group.put item) rest
    | '\\' :: rest => do
      let (item, rest) ← escaped? spaced rest
      goOn (group.put item) rest
    | '\x7b' :: _ => none
    | '.' :: rest => goOn (group.put .anyCharacter) rest
    | '^' :: rest | '$' :: rest => goOn (group.put .lineEdge) rest
    | c :: rest =>
      if c = '*' || c = '+' || c = '?' then do
        let rest := if rest.head? = some '?' then rest.tail else rest
        goOn (← group.repeated?) rest
      else goOn (group.put (.character c false)) rest

/-- Reads a pattern. -/
def ofText? (text : String) : Option Pattern :=
  (readFrom? (text.length + 1) false [] {} text.toList).filter isSound

end Pattern
end SessionGate.Log
