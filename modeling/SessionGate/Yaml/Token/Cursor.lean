import SessionGate.Yaml.Token

/-!
# A place in YAML text

A cursor holds the characters ahead, where they stand, and whether only blanks stand before them on
their line. `Cursor.toEndOfLine` passes over blanks and a comment.
-/
namespace SessionGate.Yaml
set_option autoImplicit false

structure Cursor where
  ahead : List Char
  index : Nat
  line : Nat
  column : Nat
  /-- Nothing but blanks stands before the cursor on its line. -/
  atMargin : Bool
deriving Inhabited

namespace Cursor

def start (text : List Char) : Cursor := ⟨text, 0, 1, 0, true⟩

/-- The next character; the end of the text reads as its end mark. -/
def peek (c : Cursor) : Char := c.ahead.headD '\x00'

def peekAt (c : Cursor) (n : Nat) : Char := (c.ahead[n]?).getD '\x00'

def isAtEnd (c : Cursor) : Bool := isEnd c.peek

/-- Passes over a blank. -/
def skipBlank (c : Cursor) : Cursor :=
  { c with ahead := c.ahead.tail, index := c.index + 1, column := c.column + 1 }

/-- Passes over characters that are not blank. -/
def skip (c : Cursor) (n : Nat := 1) : Cursor :=
  { c with ahead := c.ahead.drop n, index := c.index + n, column := c.column + n, atMargin := false }

/-- Passes over a line break, a pair of carriage return and line feed being one. -/
def skipBreak (c : Cursor) : Cursor :=
  match c.ahead with
  | '\r' :: '\n' :: rest => ⟨rest, c.index + 2, c.line + 1, 0, true⟩
  | x :: rest => if isBreak x then ⟨rest, c.index + 1, c.line + 1, 0, true⟩ else c
  | [] => c

/-- Passes over the characters that satisfy a test, none of them blank. -/
def skipWhile (c : Cursor) (test : Char → Bool) : List Char × Cursor :=
  let run := c.ahead.takeWhile fun x => test x && !isEnd x
  (run, if run.isEmpty then c else c.skip run.length)

/-- Passes over spaces and tabs. -/
def skipBlanks (c : Cursor) : Cursor :=
  let n := (c.ahead.takeWhile isBlank).length
  { c with ahead := c.ahead.drop n, index := c.index + n, column := c.column + n }

/-- Passes over the rest of a line. -/
def skipLine (c : Cursor) : Cursor := (c.skipWhile (!isBreakOrEnd ·)).2

/-- What stood between a token and the end of its line. -/
structure Gap where
  tabs : Bool
  spaces : Bool
deriving Inhabited

/-- Passes over blanks and a comment, which must have a blank before it. Without `tabs`, a tab ends
the blanks. -/
def toEndOfLine (c : Cursor) (tabs : Bool := true) : Except Error (Gap × Cursor) :=
  let blanks := c.ahead.takeWhile fun x => x == ' ' || (tabs && x == '\t')
  let gap : Gap := ⟨blanks.contains '\t', blanks.contains ' '⟩
  let n := blanks.length
  let c := { c with ahead := c.ahead.drop n, index := c.index + n, column := c.column + n }
  if c.peek = '#' then
    if blanks.isEmpty then .error .comment else .ok (gap, c.skipLine)
  else .ok (gap, c)

/-- Whether three of this character and then a gap are ahead. -/
def isMark (c : Cursor) (x : Char) : Bool :=
  c.peek == x && c.peekAt 1 == x && c.peekAt 2 == x && isGap (c.peekAt 3)

/-- Whether a mark of a document is ahead at the start of a line. -/
def isDocumentMark (c : Cursor) : Bool := c.isMark '-' || c.isMark '.'

end Cursor
end SessionGate.Yaml
