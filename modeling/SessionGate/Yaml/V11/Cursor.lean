import SessionGate.Yaml.Token

/-!
# A place in a text of YAML 1.1

A cursor holds the characters ahead and where they stand. In this version of the language a line also
ends in a next-line character, a line separator or a paragraph separator.
-/
namespace SessionGate.Yaml.V11
set_option autoImplicit false

/-! ## Classes of characters -/

/-- Characters that a text may consist of. -/
def isAllowed (c : Char) : Bool :=
  let n := c.toNat
  n == 0x09 || n == 0x0a || n == 0x0d || (0x20 ≤ n && n ≤ 0x7e) || n == 0x85
    || (0xa0 ≤ n && n ≤ 0xd7ff) || (0xe000 ≤ n && n ≤ 0xfffd) || 0x10000 ≤ n

def isBreak (c : Char) : Bool :=
  c == '\n' || c == '\r' || c == '\u0085' || c == '\u2028' || c == '\u2029'

def isBlank (c : Char) : Bool := c == ' ' || c == '\t'

/-- The null character marks the end of the stream. -/
def isEnd (c : Char) : Bool := c == '\x00'
def isBreakOrEnd (c : Char) : Bool := isBreak c || isEnd c
def isGap (c : Char) : Bool := isBlank c || isBreakOrEnd c
def isWord (c : Char) : Bool := c.isAlphanum || c == '_' || c == '-'

/-- Characters of the address in a tag; those of a flow collection only where `flow` lets them. -/
def isUriChar (flow : Bool) (c : Char) : Bool :=
  isWord c || ";/?:@&=+$.%!~*()".toList.contains c || c == '\x27'
    || (flow && (c == ',' || c == '[' || c == ']'))

/-! ## Cursors -/

structure Cursor where
  ahead : List Char
  index : Nat
  line : Nat
  column : Nat
deriving Inhabited

namespace Cursor

def start (text : List Char) : Cursor := ⟨text, 0, 0, 0⟩

/-- The next character; the end of the text reads as its end mark. -/
def peek (c : Cursor) : Char := c.ahead.headD '\x00'

def peekAt (c : Cursor) (n : Nat) : Char := (c.ahead[n]?).getD '\x00'

/-- Passes over characters that are no breaks. -/
def skip (c : Cursor) (n : Nat := 1) : Cursor :=
  { c with ahead := c.ahead.drop n, index := c.index + n, column := c.column + n }

/-- Passes over a break; answers the text that it stands for. -/
def takeBreak (c : Cursor) : List Char × Cursor :=
  match c.ahead with
  | '\r' :: '\n' :: rest => (['\n'], ⟨rest, c.index + 2, c.line + 1, 0⟩)
  | x :: rest =>
    if isBreak x then
      (if x == '\u2028' || x == '\u2029' then [x] else ['\n'], ⟨rest, c.index + 1, c.line + 1, 0⟩)
    else ([], c)
  | [] => ([], c)

def skipBreak (c : Cursor) : Cursor := c.takeBreak.2

/-- Passes over the characters that satisfy a test. -/
def takeWhile (c : Cursor) (test : Char → Bool) : List Char × Cursor :=
  let run := c.ahead.takeWhile test
  (run, c.skip run.length)

/-- Passes over blanks and a comment up to the end of a line, which must follow. -/
def toLineEnd? (c : Cursor) : Option Cursor :=
  let c := (c.takeWhile isBlank).2
  let c := if c.peek = '#' then (c.takeWhile (!isBreak ·)).2 else c
  if isBreakOrEnd c.peek then some c.skipBreak else none

/-- Whether three of this character and then a gap are ahead. -/
def isMark (c : Cursor) (x : Char) : Bool :=
  c.peek == x && c.peekAt 1 == x && c.peekAt 2 == x && isGap (c.peekAt 3)

/-- Whether a mark of a document is ahead at the start of a line. -/
def isDocumentMark (c : Cursor) : Bool := c.column == 0 && (c.isMark '-' || c.isMark '.')

end Cursor
end SessionGate.Yaml.V11
