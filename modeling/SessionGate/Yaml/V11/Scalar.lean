import SessionGate.Yaml.Token.Scalar
import SessionGate.Yaml.V11.Cursor

/-!
# Scalars of YAML 1.1

- `Cursor.quoted` reads a quoted scalar, folding its breaks and resolving its escapes.
- `Cursor.block` reads a literal or folded scalar by its indentation.
- `Cursor.plain` reads a plain scalar up to an indicator, a comment or a lower indentation.
-/
namespace SessionGate.Yaml.V11.Cursor
set_option autoImplicit false

/-! ## Folding -/

/-- Blanks and breaks inside a scalar. -/
structure Gap where
  /-- Blanks in front of the first break. -/
  blanks : List Char := []
  /-- Whether a break stood at all. -/
  broken : Bool := false
  /-- The first break, unless it was escaped. -/
  first : List Char := []
  /-- The further breaks. -/
  more : List Char := []
deriving Inhabited

/-- What a gap stands for: a lone break that can be folded is a space, and blanks around breaks are
dropped. -/
def Gap.text (gap : Gap) : List Char :=
  if !gap.broken then gap.blanks
  else if gap.first = ['\n'] then if gap.more.isEmpty then [' '] else gap.more
  else gap.first ++ gap.more

/-- Reads blanks and breaks. Behind a break no tab may stand in front of the column `indent`. -/
def gapFrom (indent : Nat) : (fuel : Nat) → Gap → Cursor → Except Error (Gap × Cursor)
  | 0, gap, c => .ok (gap, c)
  | fuel + 1, gap, c =>
    let x := c.peek
    if isBlank x then
      if !gap.broken then gapFrom indent fuel { gap with blanks := gap.blanks ++ [x] } c.skip
      else if x = '\t' && c.column < indent then .error .tab
      else gapFrom indent fuel gap c.skip
    else if isBreak x then
      let (text, c) := c.takeBreak
      if gap.broken then gapFrom indent fuel { gap with more := gap.more ++ text } c
      else gapFrom indent fuel { broken := true, first := text } c
    else .ok (gap, c)

/-! ## Quoted scalars -/

/-- Reads an escape from its backslash on. -/
def escape (c : Cursor) : Except Error (Char × Cursor) :=
  let letter := c.peekAt 1
  match Yaml.Cursor.escapes.lookup letter with
  | some x => .ok (x, c.skip 2)
  | none =>
    let n := if letter = 'x' then 2 else if letter = 'u' then 4 else if letter = 'U' then 8 else 0
    let digits := (c.ahead.drop 2).take n
    if n = 0 || digits.length < n then .error .escape
    else
      match Yaml.Cursor.codePoint? digits with
      | some x => .ok (x, c.skip (2 + n))
      | none => .error .escape

/-- Reads characters up to a gap or the closing quote; `text` is in reverse. Says whether an escaped
break ended them. -/
def quotedRun (single : Bool) :
    (fuel : Nat) → (text : List Char) → Cursor → Except Error (List Char × Bool × Cursor)
  | 0, text, c => .ok (text, false, c)
  | fuel + 1, text, c =>
    let x := c.peek
    if isGap x then .ok (text, false, c)
    else if single then
      if x ≠ '\x27' then quotedRun single fuel (x :: text) c.skip
      else if c.peekAt 1 = '\x27' then quotedRun single fuel ('\x27' :: text) (c.skip 2)
      else .ok (text, false, c)
    else if x = '"' then .ok (text, false, c)
    else if x ≠ '\\' then quotedRun single fuel (x :: text) c.skip
    else if isBreak (c.peekAt 1) then .ok (text, true, c.skip.skipBreak)
    else do
      let (y, c) ← c.escape
      quotedRun single fuel (y :: text) c

/-- Reads the lines of a quoted scalar up to its closing quote; `text` is in reverse. -/
def quotedLines (single : Bool) :
    (fuel : Nat) → (text : List Char) → Cursor → Except Error (List Char × Cursor)
  | 0, _, _ => .error .quotedScalar
  | fuel + 1, text, c => do
    if c.isDocumentMark || isEnd c.peek then throw .quotedScalar
    let (text, escaped, c) ← quotedRun single (c.ahead.length + 1) text c
    if !escaped && c.peek = (if single then '\x27' else '"') then return (text, c.skip)
    let (gap, c) ← gapFrom 0 (c.ahead.length + 1) { broken := escaped } c
    quotedLines single fuel (gap.text.reverse ++ text) c

/-- Reads a quoted scalar from its opening quote on. -/
def quoted (single : Bool) (c : Cursor) : Except Error (Token × Cursor) := do
  let (text, c) ← quotedLines single (c.ahead.length + 1) [] c.skip
  return (.scalar .other (String.ofList text.reverse), c)

/-! ## Block scalars -/

/-- What happens to the breaks at the end of a block scalar. -/
inductive Chomping where
  | strip
  | clip
  | keep
deriving DecidableEq, Inhabited

def chomping? (c : Cursor) : Option Chomping :=
  if c.peek = '+' then some .keep else if c.peek = '-' then some .strip else none

/-- Reads the digit of an indentation, if there is one; it is not zero. -/
def increment (c : Cursor) : Except Error (Option Nat × Cursor) :=
  if c.peek = '0' then .error .blockScalar
  else if c.peek.isDigit then .ok (some (c.peek.toNat - '0'.toNat), c.skip)
  else .ok (none, c)

/-- Reads the head of a block scalar: chomping and indentation in either order. -/
def blockHead (c : Cursor) : Except Error (Chomping × Option Nat × Cursor) := do
  match c.chomping? with
  | some chomping =>
    let (digit, c) ← increment c.skip
    return (chomping, digit, c)
  | none =>
    let (digit, c) ← increment c
    match digit, c.chomping? with
    | some _, some chomping => return (chomping, digit, c.skip)
    | _, _ => return (.clip, digit, c)

/-- Reads the breaks in front of a line of a block scalar. Without an `indent`, the deepest of the
blank lines tells it. -/
def blockBreaks (indent : Option Nat) :
    (fuel deepest : Nat) → (breaks : List Char) → Cursor → Except Error (Nat × List Char × Cursor)
  | 0, deepest, breaks, c => .ok (deepest, breaks, c)
  | fuel + 1, deepest, breaks, c =>
    let spaces := (c.ahead.takeWhile (· == ' ')).length
    let c := c.skip (indent.elim spaces fun indent => min spaces (indent - c.column))
    let deepest := max deepest c.column
    if indent.all (c.column < ·) && c.peek = '\t' then .error .blockScalar
    else if isBreak c.peek then
      let (text, c) := c.takeBreak
      blockBreaks indent fuel deepest (breaks ++ text) c
    else .ok (deepest, breaks, c)

/-- Reads the lines of a block scalar; `text` is in reverse. `first` is the break behind the last
line, `more` are those behind it, and `blank` says that the last line began with a blank. -/
def blockLines (literal : Bool) (indent : Nat) :
    (fuel : Nat) → (text first more : List Char) → (blank : Bool) → Cursor →
      Except Error (List Char × List Char × List Char × Cursor)
  | 0, _, _, _, _, _ => .error .blockScalar
  | fuel + 1, text, first, more, blank, c => do
    if c.column ≠ indent || isEnd c.peek then return (text, first, more, c)
    let startsBlank := isBlank c.peek
    let joined :=
      if !literal && first = ['\n'] && !blank && !startsBlank then
        if more.isEmpty then [' '] else more
      else first ++ more
    let (line, c) := c.takeWhile (!isBreak ·)
    let (first, c) := c.takeBreak
    let (_, more, c) ← blockBreaks (some indent) (c.ahead.length + 1) 0 [] c
    blockLines literal indent fuel (line.reverse ++ (joined.reverse ++ text)) first more startsBlank c

/-- Reads a block scalar from its indicator on, inside a collection at the column `parent`. -/
def block (literal : Bool) (parent : Int) (c : Cursor) : Except Error (Token × Cursor) := do
  let (chomping, digit, c) ← blockHead c.skip
  let some c := c.toLineEnd? | throw .blockScalar
  let given := digit.map fun n => n + parent.toNat
  let (deepest, more, c) ← blockBreaks given (c.ahead.length + 1) 0 [] c
  let indent := given.getD (max deepest (max (parent + 1).toNat 1))
  let (text, first, more, c) ← blockLines literal indent (c.ahead.length + 1) [] [] more false c
  let tail :=
    match chomping with
    | .strip => []
    | .clip => first
    | .keep => first ++ more
  return (.scalar .other (String.ofList (text.reverse ++ tail)), c)

/-! ## Plain scalars -/

/-- Reads characters up to a gap or an indicator; `text` is in reverse. In a flow collection a colon
may not stand in front of an indicator. -/
def plainRun (flow : Bool) :
    (fuel : Nat) → (text : List Char) → Cursor → Except Error (List Char × Cursor)
  | 0, text, c => .ok (text, c)
  | fuel + 1, text, c =>
    let x := c.peek
    if isGap x then .ok (text, c)
    else if flow && x = ':' && (isFlow (c.peekAt 1) || c.peekAt 1 = '?') then .error .plainScalar
    else if (x = ':' && isGap (c.peekAt 1)) || (flow && isFlow x) then .ok (text, c)
    else plainRun flow fuel (x :: text) c.skip

/-- Reads the lines of a plain scalar; `text` is in reverse and `gap` stands behind it. Says whether a
break ended the scalar. -/
def plainLines (flow : Bool) (indent : Nat) :
    (fuel : Nat) → (text : List Char) → Gap → Cursor → Except Error (List Char × Bool × Cursor)
  | 0, text, gap, c => .ok (text, gap.broken, c)
  | fuel + 1, text, gap, c => do
    if c.isDocumentMark || c.peek = '#' then return (text, gap.broken, c)
    let (run, c) ← plainRun flow (c.ahead.length + 1) [] c
    let (text, gap) :=
      if run.isEmpty then (text, gap) else (run ++ (gap.text.reverse ++ text), {})
    if !isBlank c.peek && !isBreak c.peek then return (text, gap.broken, c)
    let (gap, c) ← gapFrom indent (c.ahead.length + 1) gap c
    if !flow && c.column < indent then return (text, gap.broken, c)
    plainLines flow indent fuel text gap c

/-- Reads a plain scalar inside a collection at the column `parent`. Says whether a break ended it. -/
def plain (flow : Bool) (parent : Int) (c : Cursor) : Except Error (Token × Bool × Cursor) := do
  let (text, broken, c) ← plainLines flow (parent + 1).toNat (c.ahead.length + 1) [] {} c
  return (.scalar .plain (String.ofList text.reverse), broken, c)

end SessionGate.Yaml.V11.Cursor
