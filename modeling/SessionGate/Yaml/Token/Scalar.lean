import SessionGate.Yaml.Token.Cursor

/-!
# Scanning scalars

- `Cursor.quoted` reads a quoted scalar, folding its line breaks and resolving its escapes.
- `Cursor.block` reads a literal or folded scalar by its indentation.
- `Cursor.plain` reads a plain scalar up to an indicator, a comment or a lower indentation.
-/
namespace SessionGate.Yaml.Cursor
set_option autoImplicit false

/-! ## Escapes -/

private def hexValue? (c : Char) : Option Nat :=
  if '0' ≤ c ∧ c ≤ '9' then some (c.toNat - '0'.toNat)
  else if 'a' ≤ c ∧ c ≤ 'f' then some (c.toNat - 'a'.toNat + 10)
  else if 'A' ≤ c ∧ c ≤ 'F' then some (c.toNat - 'A'.toNat + 10)
  else none

/-- The character of a code point in hexadecimal digits. -/
def codePoint? (digits : List Char) : Option Char :=
  match digits.mapM hexValue? with
  | none => none
  | some values =>
    let n := values.foldl (fun n v => 16 * n + v) 0
    if n < 0xD800 ∨ (0xE000 ≤ n ∧ n < 0x110000) then some (Char.ofNat n) else none

/-- The character that a letter behind a backslash stands for. -/
def escapes : List (Char × Char) :=
  [('0', '\x00'), ('a', '\x07'), ('b', '\x08'), ('t', '\t'), ('\t', '\t'), ('n', '\n'),
    ('v', '\x0b'), ('f', '\x0c'), ('r', '\r'), ('e', '\x1b'), (' ', ' '), ('"', '"'), ('/', '/'),
    ('\\', '\\'), ('N', '\u0085'), ('_', '\u00a0'), ('L', '\u2028'), ('P', '\u2029')]

/-- Reads an escape from its backslash on. -/
def escape (c : Cursor) : Except Error (Char × Cursor) :=
  let letter := c.peekAt 1
  match escapes.lookup letter with
  | some x => .ok (x, c.skip 2)
  | none =>
    let n := if letter = 'x' then 2 else if letter = 'u' then 4 else if letter = 'U' then 8 else 0
    let digits := (c.ahead.drop 2).take n
    if n = 0 ∨ digits.length < n then .error .escape
    else
      match codePoint? digits with
      | some x => .ok (x, c.skip (2 + n))
      | none => .error .escape

/-! ## Quoted scalars -/

/-- Reads characters up to a gap or the closing quote; `text` is in reverse. Says whether an escaped
line break ended them. -/
def quotedRun (single : Bool) :
    (fuel : Nat) → (text : List Char) → Cursor → Except Error (List Char × Bool × Cursor)
  | 0, text, c => .ok (text, false, c)
  | fuel + 1, text, c =>
    let x := c.peek
    if isGap x then .ok (text, false, c)
    else if single then
      if x = '\x27' then
        if c.peekAt 1 = '\x27' then quotedRun single fuel ('\x27' :: text) (c.skip 2)
        else .ok (text, false, c)
      else quotedRun single fuel (x :: text) c.skip
    else if x = '"' then .ok (text, false, c)
    else if x = '\\' then
      if isBreak (c.peekAt 1) then .ok (text, true, c.skip.skipBreak)
      else do
        let (y, c) ← c.escape
        quotedRun single fuel (y :: text) c
    else quotedRun single fuel (x :: text) c.skip

/-- Blanks and line breaks inside a scalar. -/
structure Fold where
  /-- Blanks before the first break, in reverse. -/
  blanks : List Char
  /-- Whether a break stood at all. -/
  broken : Bool
  /-- Whether the first break counts as a space. -/
  first : Bool
  /-- Count of the breaks behind the first one. -/
  more : Nat
deriving Inhabited

/-- What the blanks and breaks stand for, in reverse: one break is a space, each further one a line
feed, and blanks around breaks are dropped. -/
def Fold.text (fold : Fold) : List Char :=
  if fold.broken then
    if fold.first && fold.more == 0 then [' '] else List.replicate fold.more '\n'
  else fold.blanks

/-- Reads blanks and breaks of a quoted scalar. -/
def quotedGap (indent : Int) : (fuel : Nat) → Fold → Cursor → Except Error (Fold × Cursor)
  | 0, fold, c => .ok (fold, c)
  | fuel + 1, fold, c =>
    let x := c.peek
    if isBlank x then
      if fold.broken then
        if x = '\t' ∧ (c.column : Int) < indent then .error .tab
        else quotedGap indent fuel fold c.skipBlank
      else quotedGap indent fuel { fold with blanks := x :: fold.blanks } c.skipBlank
    else if isBreak x then
      if fold.broken then quotedGap indent fuel { fold with more := fold.more + 1 } c.skipBreak
      else quotedGap indent fuel ⟨[], true, true, 0⟩ c.skipBreak
    else .ok (fold, c)

/-- Reads the lines of a quoted scalar up to its closing quote. -/
def quotedLines (single : Bool) (indent : Int) :
    (fuel : Nat) → (text : List Char) → Cursor → Except Error (List Char × Cursor)
  | 0, _, _ => .error .quotedScalar
  | fuel + 1, text, c => do
    if c.column = 0 ∧ c.isDocumentMark then throw .quotedScalar
    if c.isAtEnd then throw .quotedScalar
    if (c.column : Int) < indent then throw .indentation
    let (text, escaped, c) ← quotedRun single (c.ahead.length + 1) text c
    if c.peek = (if single then '\x27' else '"') then return (text, c)
    let (fold, c) ← quotedGap indent (c.ahead.length + 1) ⟨[], escaped, false, 0⟩ c
    quotedLines single indent fuel (fold.text ++ text) c

/-- Reads a quoted scalar from its opening quote on. Behind it stands the end of the line, or an
indicator that can follow a key or an item. -/
def quoted (c : Cursor) (single : Bool) (indent : Int) (inFlow : Bool) :
    Except Error (String × Cursor) := do
  let line := c.line
  let (text, c) ← quotedLines single indent (c.ahead.length + 1) [] c.skip
  let (_, c) ← c.skip.toEndOfLine
  let x := c.peek
  let follows :=
    isBreakOrEnd x || (inFlow && (x == ',' || x == ']' || x == '\x7d' || x == ':'))
      || (!inFlow && x == ':' && line == c.line)
  if follows then return (String.ofList text.reverse, c) else throw .quotedScalar

/-! ## Block scalars -/

/-- What becomes of the line breaks at the end. -/
inductive Chomping where
  | strip
  | clip
  | keep
deriving DecidableEq

/-- Reads the indicators behind `|` or `>`: a sign and a digit, in either order. -/
def blockHeader (c : Cursor) : Except Error (Chomping × Nat × Cursor) :=
  let chomping? (x : Char) : Option Chomping :=
    if x = '+' then some .keep else if x = '-' then some .strip else none
  let digit? (c : Cursor) : Except Error (Nat × Cursor) :=
    let x := c.peek
    if x = '0' then .error .blockScalar
    else if x.isDigit then .ok (x.toNat - '0'.toNat, c.skip)
    else .ok (0, c)
  match chomping? c.peek with
  | some chomping => do
    let (n, c) ← digit? c.skip
    return (chomping, n, c)
  | none => do
    let (n, c) ← digit? c
    match if n = 0 then none else chomping? c.peek with
    | some chomping => return (chomping, n, c.skip)
    | none => return (.clip, n, c)

/-- Passes over empty lines in front of the text: the greatest column of their blanks and of the
first line, and the count of breaks. -/
def firstLineIndent : (fuel : Nat) → (greatest breaks : Nat) → Cursor → Nat × Nat × Cursor
  | 0, greatest, breaks, c => (greatest, breaks, c)
  | fuel + 1, greatest, breaks, c =>
    let n := (c.ahead.takeWhile (· == ' ')).length
    let c := { c with ahead := c.ahead.drop n, index := c.index + n, column := c.column + n }
    let greatest := max greatest c.column
    if isBreak c.peek then firstLineIndent fuel greatest (breaks + 1) c.skipBreak
    else (greatest, breaks, c)

/-- Passes over the indentation of the next line and the empty lines before it. -/
def lineIndent (indent : Nat) : (fuel : Nat) → (breaks : Nat) → Cursor → Nat × Cursor
  | 0, breaks, c => (breaks, c)
  | fuel + 1, breaks, c =>
    let n := ((c.ahead.take (indent - c.column)).takeWhile (· == ' ')).length
    let c := { c with ahead := c.ahead.drop n, index := c.index + n, column := c.column + n }
    if isBreak c.peek then lineIndent indent fuel (breaks + 1) c.skipBreak
    else (breaks, c)

/-- What stands between two lines of a block scalar. -/
structure BlockGap where
  /-- Whether a break has been read that is not yet written. -/
  pending : Bool
  /-- Count of the breaks behind it. -/
  more : Nat
  /-- Whether the line before started with a blank. -/
  blank : Bool
deriving Inhabited

/-- Reads lines of equal indentation; `text` is in reverse. A folded scalar joins two lines by a
space unless one of them starts with a blank. -/
def blockLines (literal : Bool) (indent : Nat) :
    (fuel : Nat) → (text : List Char) → BlockGap → Cursor → List Char × BlockGap × Cursor
  | 0, text, gap, c => (text, gap, c)
  | fuel + 1, text, gap, c =>
    if c.column != indent || c.isAtEnd || (indent == 0 && c.isMark '.') then (text, gap, c)
    else
      let blank := isBlank c.peek
      let between :=
        if !literal && gap.pending && !gap.blank && !blank then
          if gap.more = 0 then [' '] else List.replicate gap.more '\n'
        else List.replicate (gap.more + if gap.pending then 1 else 0) '\n'
      let line := c.ahead.takeWhile (!isBreakOrEnd ·)
      let c := { c with
        ahead := c.ahead.drop line.length, index := c.index + line.length,
        column := c.column + line.length }
      let text := line.reverse ++ between ++ text
      if c.isAtEnd then (text, ⟨false, 0, blank⟩, c)
      else
        let (more, c) := lineIndent indent (c.ahead.length + 1) 0 c.skipBreak
        blockLines literal indent fuel text ⟨true, more, blank⟩ c

/-- Reads a block scalar from its indicator on; `parent` is the indentation around it. -/
def block (c : Cursor) (literal : Bool) (parent : Int) : Except Error (String × Cursor) := do
  let line := c.line
  let (chomping, increment, c) ← c.skip.blockHeader
  let (_, c) ← c.toEndOfLine
  if !isBreakOrEnd c.peek then throw .blockScalar
  let c := c.skipBreak
  if c.peek = '\t' then throw .tab
  let fuel := c.ahead.length + 1
  let (indent, breaks, c) :=
    if increment = 0 then
      let (greatest, breaks, c) := firstLineIndent fuel 0 0 c
      let indent := max greatest (parent + 1).toNat
      (if 0 < parent then max indent 1 else indent, breaks, c)
    else
      let indent := if 0 ≤ parent then parent.toNat + increment else increment
      let (breaks, c) := lineIndent indent fuel 0 c
      (indent, breaks, c)
  if c.isAtEnd then
    let text :=
      if chomping = .strip ∨ c.line = line then ""
      else if chomping = .keep ∧ 0 < breaks then String.ofList (List.replicate breaks '\n')
      else "\n"
    return (text, c)
  if c.column < indent ∧ parent < (c.column : Int) then throw .indentation
  let (text, gap, c) := blockLines literal indent fuel [] ⟨false, breaks, false⟩ c
  let last :=
    if chomping = .strip then []
    else
      let written := if gap.pending then ['\n'] else []
      if c.isAtEnd ∧ max indent 1 ≤ c.column then '\n' :: written else written
  let kept := if chomping = .keep then List.replicate gap.more '\n' else []
  return (String.ofList (kept ++ last ++ text).reverse, c)

/-! ## Plain scalars -/

/-- Whether the next character goes on with a plain scalar. -/
def continuesPlain (c : Cursor) (inFlow : Bool) : Bool :=
  let x := c.peek
  if isGap x then false
  else if x = ':' then
    let y := c.peekAt 1
    !(isGap y || (inFlow && isFlow y))
  else !(inFlow && isFlow x)

/-- Reads a run of characters without a gap; `text` is in reverse. -/
def plainRun (inFlow : Bool) : (fuel : Nat) → (text : List Char) → Cursor → List Char × Cursor
  | 0, text, c => (text, c)
  | fuel + 1, text, c =>
    if c.continuesPlain inFlow then plainRun inFlow fuel (c.peek :: text) c.skip else (text, c)

/-- Reads blanks and breaks of a plain scalar. A tab in front of its indentation is allowed on an
empty line only. -/
def plainGap (indent : Int) : (fuel : Nat) → Fold → Cursor → Except Error (Fold × Cursor)
  | 0, fold, c => .ok (fold, c)
  | fuel + 1, fold, c => do
    let x := c.peek
    if isBlank x then
      if !c.atMargin then
        plainGap indent fuel { fold with blanks := x :: fold.blanks } c.skipBlank
      else if (c.column : Int) < indent ∧ x = '\t' then
        let (_, c) ← c.toEndOfLine
        if isBreakOrEnd c.peek then plainGap indent fuel fold c else throw .tab
      else plainGap indent fuel fold c.skipBlank
    else if isBreak x then
      if c.atMargin then plainGap indent fuel { fold with more := fold.more + 1 } c.skipBreak
      else plainGap indent fuel ⟨[], true, true, fold.more⟩ c.skipBreak
    else return (fold, c)

/-- Reads the lines of a plain scalar. -/
def plainLines (inFlow : Bool) (indent : Int) :
    (fuel : Nat) → (text : List Char) → Fold → Cursor → Except Error (List Char × Cursor)
  | 0, text, _, c => .ok (text, c)
  | fuel + 1, text, fold, c => do
    if (c.column = 0 ∧ c.isDocumentMark) ∨ c.peek = '#' then return (text, c)
    if inFlow ∧ c.peek = '-' ∧ isFlow (c.peekAt 1) then throw .plainScalar
    let (text, fold, c) :=
      if c.continuesPlain inFlow then
        let (text, c) := plainRun inFlow (c.ahead.length + 1) (fold.text ++ text) c
        (text, ⟨[], false, false, 0⟩, c)
      else (text, fold, c)
    if !(isBlank c.peek || isBreak c.peek) then return (text, c)
    let (fold, c) ← plainGap indent (c.ahead.length + 1) fold c
    if !inFlow ∧ (c.column : Int) < indent then return (text, c)
    plainLines inFlow indent fuel text fold c

/-- Reads a plain scalar; `indent` is the least column of its further lines. -/
def plain (c : Cursor) (inFlow : Bool) (indent : Int) : Except Error (String × Cursor) := do
  if inFlow ∧ (c.column : Int) < indent then throw .indentation
  let (text, c) ← plainLines inFlow indent (c.ahead.length + 1) [] ⟨[], false, false, 0⟩ c
  if text.isEmpty then throw .plainScalar
  return (String.ofList text.reverse, c)

end SessionGate.Yaml.Cursor
