import SessionGate.Yaml.Token.Scalar

/-!
# Scanning tokens

`Token.scan` turns a text into the tokens of a stream.

- Indentation opens and closes block collections, as long as no flow collection is open.
- A token that may turn out to be a key is remembered; when a colon follows, the mark of the key and,
  where it starts one, of its mapping go in front of it.
-/
namespace SessionGate.Yaml
set_option autoImplicit false

/-- A token that may be a key. -/
structure SimpleKey where
  possible : Bool
  /-- A key must come here, or the text is malformed. -/
  required : Bool
  /-- Number of tokens in front of it. -/
  number : Nat
  index : Nat
  line : Nat
  column : Nat
deriving Inhabited

def SimpleKey.none : SimpleKey := ⟨false, false, 0, 0, 0, 0⟩

/-- An indentation that was left for a deeper one. -/
structure Indent where
  column : Int
  /-- Whether a collection ends where the deeper one does. -/
  closes : Bool
deriving Inhabited

structure Lexer where
  cursor : Cursor
  /-- Tokens so far, the last one first. -/
  scanned : List Token
  count : Nat
  /-- Whether the last token is an anchor or tag at the start of a line. -/
  propertyAtMargin : Bool
  /-- Possible keys of the open flow collections, the innermost first. -/
  keys : List SimpleKey
  keyAllowed : Bool
  indent : Int
  indents : List Indent
  flowLevel : Nat
  /-- Where a value may follow its key without a blank. -/
  adjacentAt : Nat
  /-- Whether a flow mapping was opened after the last pair without braces. -/
  braced : Bool
  /-- Whether a pair without braces is open. -/
  paired : Bool
deriving Inhabited

namespace Lexer

def start (text : String) : Lexer :=
  ⟨.start text.toList, [], 0, false, [.none], true, -1, [], 0, 0, false, false⟩

/-! ## Tokens and keys -/

def push (s : Lexer) (token : Token) : Lexer :=
  { s with scanned := token :: s.scanned, count := s.count + 1, propertyAtMargin := false }

/-- Puts a token behind the first `number` ones. -/
def insert (s : Lexer) (number : Nat) (token : Token) : Lexer :=
  { s with scanned := s.scanned.insertIdx (s.count - number) token, count := s.count + 1 }

def allowKey (s : Lexer) : Lexer := { s with keyAllowed := true }
def forbidKey (s : Lexer) : Lexer := { s with keyAllowed := false }
def move (s : Lexer) (cursor : Cursor) : Lexer := { s with cursor := cursor }
def inBlock (s : Lexer) : Bool := s.flowLevel == 0

/-- Remembers that the next token may be a key. -/
def saveKey (s : Lexer) : Lexer :=
  if s.keyAllowed then
    let c := s.cursor
    let required := s.inBlock && s.indent == c.column && (s.indents.head?.any (·.closes))
    { s with keys := ⟨true, required, s.count, c.index, c.line, c.column⟩ :: s.keys.tail }
  else s

/-- Gives up the last possible key. -/
def dropKey (s : Lexer) : Except Error Lexer :=
  match s.keys with
  | key :: rest =>
    if key.possible && key.required then .error .simpleKey
    else .ok { s with keys := { key with possible := false } :: rest }
  | [] => .ok s

/-- Outside flow collections a key stands on one line and within 1024 characters. -/
def dropStaleKeys (s : Lexer) : Except Error Lexer := do
  let keys ← s.keys.mapM fun key =>
    if key.possible && s.inBlock
        && (key.line < s.cursor.line || key.index + 1024 < s.cursor.index) then
      if key.required then .error Error.simpleKey else .ok { key with possible := false }
    else .ok key
  return { s with keys }

/-! ## Indentation -/

/-- Leaves an indentation that opened no collection. -/
private def leaveOpen (s : Lexer) : Lexer :=
  match s.indents with
  | i :: rest => if i.closes then s else { s with indent := i.column, indents := rest }
  | [] => s

/-- Opens a block collection at a column, if it is deeper than the present one. Its mark goes behind
the first `number` tokens. -/
def roll (s : Lexer) (column : Nat) (number : Nat) (token : Token) : Lexer :=
  if !s.inBlock then s
  else
    let s := if s.indent ≤ column then s.leaveOpen else s
    if s.indent < column then
      { s with indent := column, indents := ⟨s.indent, true⟩ :: s.indents }.insert number token
    else s

/-- Closes the block collections deeper than a column. -/
def unrollFrom (column : Int) : List Indent → Lexer → Lexer
  | [], s => s
  | i :: rest, s =>
    if column < s.indent then
      let s := { s with indent := i.column, indents := rest }
      unrollFrom column rest (if i.closes then s.push .blockEnd else s)
    else s

def unroll (s : Lexer) (column : Int) : Lexer :=
  if s.inBlock then unrollFrom column s.indents s else s

/-- Asks for one more column of what follows. -/
def rollOne (s : Lexer) : Lexer :=
  if s.inBlock && (s.indents.head?.any (·.closes)) then
    { s with indent := s.indent + 1, indents := ⟨s.indent, false⟩ :: s.indents }
  else s

/-- Leaves the indentations that opened no collection. -/
def unrollOpen (s : Lexer) : Lexer :=
  match s.indents.dropWhile (!·.closes), (s.indents.takeWhile (!·.closes)).getLast? with
  | rest, some last => { s with indent := last.column, indents := rest }
  | _, none => s

/-! ## Blanks between tokens -/

/-- Passes over blanks, breaks and comments. A break lets a key follow. -/
def toToken : (fuel : Nat) → Lexer → Except Error Lexer
  | 0, s => .ok s
  | fuel + 1, s => do
    let c := s.cursor
    let x := c.peek
    if x = '\t' ∧ !s.indents.isEmpty ∧ c.atMargin ∧ (c.column : Int) < s.indent then
      let (_, c) ← c.toEndOfLine
      if isBreakOrEnd c.peek then toToken fuel (s.move c) else throw .tab
    else if isBlank x then toToken fuel (s.move c.skipBlank)
    else if isBreak x then
      let s := s.move c.skipBreak
      toToken fuel (if s.inBlock then s.allowKey else s)
    else if x = '#' then toToken fuel (s.move c.skipLine)
    else return s

/-- Passes over spaces, breaks and comments, of which there must be some. -/
def toKeyText : (fuel : Nat) → (found : Bool) → Lexer → Except Error Lexer
  | 0, _, s => .ok s
  | fuel + 1, found, s =>
    let x := s.cursor.peek
    if x = ' ' then toKeyText fuel true (s.move s.cursor.skipBlank)
    else if isBreak x then
      let s := s.move s.cursor.skipBreak
      toKeyText fuel true (if s.inBlock then s.allowKey else s)
    else if x = '#' then toKeyText fuel found (s.move s.cursor.skipLine)
    else if found then .ok s
    else .error .simpleKey

/-- Passes over the rest of a line behind a token. -/
def toLineEnd (s : Lexer) : Except Error Lexer := do
  let (_, c) ← s.cursor.toEndOfLine
  return s.move c

/-! ## Directives, tags and anchors -/

/-- Reads an escape of a URI: octets that make one number, the first of which tells how many there
are. -/
def uriEscape (c : Cursor) : Except Error (Char × Cursor) :=
  let octet? (c : Cursor) : Option Nat :=
    match c.ahead with
    | '%' :: a :: b :: _ => (Cursor.codePoint? [a, b]).map Char.toNat
    | _ => none
  let rec more : Nat → Nat → Cursor → Except Error (Char × Cursor)
    | 0, value, c =>
      if value < 0xD800 ∨ (0xE000 ≤ value ∧ value < 0x110000) then .ok (Char.ofNat value, c)
      else .error .tag
    | n + 1, value, c =>
      match octet? c with
      | some b => if 0x80 ≤ b ∧ b < 0xC0 then more n (256 * value + b) (c.skip 3) else .error .tag
      | none => .error .tag
  match octet? c with
  | none => .error .tag
  | some b =>
    let c := c.skip 3
    if b < 0x80 then more 0 b c
    else if b < 0xC0 then .error .tag
    else if b < 0xE0 then more 1 b c
    else if b < 0xF0 then more 2 b c
    else if b < 0xF8 then more 3 b c
    else .error .tag

/-- Reads the characters of a URI that satisfy a test, their escapes resolved; `text` is in
reverse. -/
def uriText (test : Char → Bool) :
    (fuel : Nat) → (text : List Char) → Cursor → Except Error (List Char × Cursor)
  | 0, text, c => .ok (text.reverse, c)
  | fuel + 1, text, c =>
    let x := c.peek
    if isEnd x || !test x then .ok (text.reverse, c)
    else if x = '%' then do
      let (y, c) ← uriEscape c
      uriText test fuel (y :: text) c
    else uriText test fuel (x :: text) c.skip

/-- Reads a handle: `!`, or a word between two of them. In a directive only `!` may lack the second
one. -/
def tagHandle (directive : Bool) (c : Cursor) : Except Error (List Char × Cursor) :=
  if c.peek != '!' then .error .tag
  else
    let (word, c) := c.skip.skipWhile isWord
    if c.peek = '!' then .ok ('!' :: (word ++ ['!']), c.skip)
    else if directive && !word.isEmpty then .error .tag
    else .ok ('!' :: word, c)

/-- Reads the rest of a tag in angle brackets. -/
def verbatimTag (c : Cursor) : Except Error (Token × Cursor) := do
  let (suffix, c) ← uriText isUriChar (c.ahead.length + 1) [] (c.skip 2)
  if c.peek = '>' then return (.tag "" (String.ofList suffix), c.skip) else throw .tag

/-- Reads a handle and a suffix. -/
def shorthandTag (c : Cursor) : Except Error (Token × Cursor) := do
  let (handle, c) ← tagHandle false c
  let (suffix, c) ← uriText isTagChar (c.ahead.length + 1) [] c
  if 2 ≤ handle.length ∧ handle.getLast? = some '!' then
    if suffix.isEmpty then throw .tag
    return (.tag (String.ofList handle) (String.ofList suffix), c)
  else
    let suffix := handle.tail ++ suffix
    if suffix.isEmpty then return (.tag "" "!", c)
    return (.tag "!" (String.ofList suffix), c)

def tag (c : Cursor) (inFlow : Bool) : Except Error (Token × Cursor) := do
  let (token, c) ← if c.peekAt 1 = '<' then verbatimTag c else shorthandTag c
  if isGap c.peek || (inFlow && isFlow c.peek) then return (token, c) else throw .tag

def anchor (c : Cursor) : Except Error (String × Cursor) :=
  let (name, c) := c.skip.skipWhile isAnchorChar
  if name.isEmpty then .error .anchor else .ok (String.ofList name, c)

/-- Reads a number of at most nine digits. -/
def versionNumber (c : Cursor) : Except Error Cursor :=
  let (digits, c) := c.skipWhile Char.isDigit
  if digits.isEmpty || 9 < digits.length then .error .directive else .ok c

def tagDirective (c : Cursor) : Except Error (Token × Cursor) := do
  let (handle, c) ← tagHandle true c.skipBlanks
  let c := c.skipBlanks
  let x := c.peek
  let (first, c) ←
    if x = '!' then pure (['!'], c.skip)
    else if !isTagChar x then throw .tag
    else if x = '%' then do
      let (y, c) ← uriEscape c
      pure ([y], c)
    else pure ([x], c.skip)
  let (start, c) ← uriText isUriChar (c.ahead.length + 1) first.reverse c
  if isGap c.peek then return (.tagDirective (String.ofList handle) (String.ofList start), c)
  else throw .directive

/-- Reads a directive with its line; one of an unknown name is passed over. -/
def directive (c : Cursor) : Except Error (Token × Cursor) := do
  let (name, c) := c.skip.skipWhile isWord
  if name.isEmpty || !isGap c.peek then throw .directive
  let (token, c) ←
    if name = "YAML".toList then do
      let c ← versionNumber c.skipBlanks
      if c.peek != '.' then throw .directive
      pure (Token.versionDirective, ← versionNumber c.skip)
    else if name = "TAG".toList then tagDirective c
    else pure (Token.tagDirective "" "", c.skipLine)
  let (_, c) ← c.toEndOfLine
  if isBreakOrEnd c.peek then return (token, c.skipBreak) else throw .directive

/-! ## Single tokens -/

/-- Tokens that end whatever is open. -/
def atRoot (s : Lexer) : Except Error Lexer := do
  return (← (s.unroll (-1)).dropKey).forbidKey

def streamEnd (s : Lexer) : Except Error Lexer := do
  if s.keys.any fun key => key.required && key.possible then throw .simpleKey
  let keys := s.keys.map fun (key : SimpleKey) => { key with possible := false }
  return (← atRoot { s with keys }).push .streamEnd

def directiveLine (s : Lexer) : Except Error Lexer := do
  let s ← s.atRoot
  let (token, c) ← directive s.cursor
  return (s.move c).push token

def documentMark (s : Lexer) (token : Token) : Except Error Lexer := do
  let s ← s.atRoot
  return (s.move (s.cursor.skip 3)).push token

def documentEnd (s : Lexer) : Except Error Lexer := do
  let s ← (← s.documentMark .documentEnd).toLineEnd
  if isBreakOrEnd s.cursor.peek then return s else throw .documentMark

/-- Closes a pair without braces. -/
def endPair (s : Lexer) : Lexer :=
  if s.paired then { s with braced := false, paired := false }.push .flowMappingEnd else s

/-- Deepest nesting of flow collections. -/
def maxFlowLevel : Nat := 255

def flowStart (s : Lexer) (token : Token) : Except Error Lexer := do
  let s := s.saveKey.rollOne
  if maxFlowLevel ≤ s.flowLevel then throw .depth
  let s := { s with flowLevel := s.flowLevel + 1, keys := .none :: s.keys }.allowKey
  let s := if token = .flowMappingStart then { s with braced := true } else s
  return (← (s.move s.cursor.skip).toLineEnd).push token

def flowEnd (s : Lexer) (token : Token) : Except Error Lexer := do
  let s ← s.dropKey
  let s :=
    if s.inBlock then s else { s with flowLevel := s.flowLevel - 1, keys := s.keys.tail }
  let s := s.forbidKey.endPair
  let s ← (s.move s.cursor.skip).toLineEnd
  let s := if s.inBlock then s else { s with adjacentAt := s.cursor.index }
  return s.push token

def flowEntry (s : Lexer) : Except Error Lexer := do
  let s := (← s.dropKey).allowKey.endPair
  return (← (s.move s.cursor.skip).toLineEnd).push .flowEntry

def blockEntry (s : Lexer) : Except Error Lexer := do
  if !s.inBlock || !s.keyAllowed then throw .context
  if s.propertyAtMargin && s.cursor.column == 0 && -1 < s.indent then throw .indentation
  let column := s.cursor.column
  let s := (s.move s.cursor.skip).roll column s.count .blockSequenceStart
  let (gap, c) ← s.cursor.toEndOfLine
  if gap.tabs && c.peek == '-' && isGap (c.peekAt 1) then throw .tab
  let (_, c) ← c.toEndOfLine false
  let s := s.move c
  let s := if isBreak c.peek || isFlow c.peek then s.rollOne else s
  return (← s.dropKey).allowKey.push .blockEntry

def key (s : Lexer) : Except Error Lexer := do
  let s ←
    if s.inBlock then
      if s.keyAllowed then pure (s.roll s.cursor.column s.count .blockMappingStart)
      else throw .context
    else pure { s with braced := true }
  let s ← s.dropKey
  let s := if s.inBlock then s.allowKey else s.forbidKey
  let s ← toKeyText (s.cursor.ahead.length + 1) false (s.move s.cursor.skip)
  if s.cursor.peek = '\t' then throw .tab
  return s.push .key

/-- A colon behind a token that may be a key makes it one. -/
def simpleValue (s : Lexer) (key : SimpleKey) (line : Nat) (pair : Bool) : Except Error Lexer := do
  let s := s.insert key.number .key
  if pair && key.line < line then throw .context
  let s := if pair then s.insert key.number .flowMappingStart else s
  let s := (s.roll key.column key.number .blockMappingStart).rollOne
  return { s with keys := { key with possible := false } :: s.keys.tail }.forbidKey

/-- A colon behind no such token gives the value of a key marked before, or of an empty one. -/
def complexValue (s : Lexer) (column : Nat) (pair : Bool) : Except Error Lexer := do
  let s := if pair then s.push .flowMappingStart else s
  if s.inBlock then
    if s.keyAllowed then return (s.roll column s.count .blockMappingStart).rollOne.allowKey
    else throw .context
  else return s.forbidKey

def value (s : Lexer) : Except Error Lexer := do
  let start := s.cursor
  let pair := !s.inBlock && !s.braced
  let s := { s with paired := pair }
  let c := s.cursor.skip
  let (gap, c) ← if c.peek = '\t' then c.toEndOfLine else pure (⟨false, true⟩, c)
  if !gap.spaces && (c.peek == '-' || isWord c.peek) then throw .tab
  let s := s.move c
  let key := s.keys.headD .none
  let s ←
    if key.possible then s.simpleValue key start.line pair else s.complexValue start.column pair
  return s.push .value

def property (s : Lexer) (margin : Bool) (token : Token) (c : Cursor) : Lexer :=
  { (s.move c).push token with propertyAtMargin := margin }

def aliasToken (s : Lexer) : Except Error Lexer := do
  let s := s.saveKey.forbidKey
  let (name, c) ← anchor s.cursor
  return (s.move c).push (.alias name)

def anchorToken (s : Lexer) : Except Error Lexer := do
  let s := s.saveKey.forbidKey
  let (name, c) ← anchor s.cursor
  return s.property (s.cursor.column == 0) (.anchor name) c

def tagToken (s : Lexer) : Except Error Lexer := do
  let s := s.saveKey.forbidKey
  let (token, c) ← tag s.cursor (!s.inBlock)
  return s.property (s.cursor.column == 0) token c

def blockScalar (s : Lexer) (literal : Bool) : Except Error Lexer := do
  let s := s.saveKey.allowKey.unrollOpen
  let (text, c) ← s.cursor.block literal s.indent
  return (s.move c).push (.scalar .other text)

def quotedScalar (s : Lexer) (single : Bool) : Except Error Lexer := do
  let s := s.saveKey.forbidKey
  let (text, c) ← s.cursor.quoted single s.indent (!s.inBlock)
  let s ← toToken (c.ahead.length + 1) (s.move c)
  return { s with adjacentAt := s.cursor.index }.push (.scalar .other text)

def plainScalar (s : Lexer) : Except Error Lexer := do
  let s := s.saveKey.forbidKey.unrollOpen
  let (text, c) ← s.cursor.plain (!s.inBlock) (s.indent + 1)
  let s := s.move c
  return (if c.atMargin then s.allowKey else s).push (.scalar .plain text)

/-- Scans a token by its first characters. -/
def content (s : Lexer) : Except Error Lexer :=
  let x := s.cursor.peek
  let y := s.cursor.peekAt 1
  if x = '[' then s.flowStart .flowSequenceStart
  else if x = '\x7b' then s.flowStart .flowMappingStart
  else if x = ']' then s.flowEnd .flowSequenceEnd
  else if x = '\x7d' then s.flowEnd .flowMappingEnd
  else if x = ',' then s.flowEntry
  else if x = '-' ∧ isGap y then s.blockEntry
  else if x = '?' ∧ isGap y then s.key
  else if x = ':' ∧ (isGap y || (!s.inBlock && (isFlow y || s.cursor.index == s.adjacentAt))) then
    s.value
  else if x = '*' then s.aliasToken
  else if x = '&' then s.anchorToken
  else if x = '!' then s.tagToken
  else if x = '|' ∧ s.inBlock then s.blockScalar true
  else if x = '>' ∧ s.inBlock then s.blockScalar false
  else if x = '\x27' then s.quotedScalar true
  else if x = '"' then s.quotedScalar false
  else if x = '%' ∨ x = '@' ∨ x = '\x60' then .error .character
  else s.plainScalar

/-- Scans the next token, and the ends of collections in front of it. The result says whether the
stream has ended. -/
def step (s : Lexer) : Except Error (Bool × Lexer) := do
  let s ← (← toToken (s.cursor.ahead.length + 1) s).dropStaleKeys
  let s := s.unroll s.cursor.column
  let c := s.cursor
  if c.isAtEnd then return (true, ← s.streamEnd)
  else if c.column = 0 ∧ c.peek = '%' then return (false, ← s.directiveLine)
  else if c.column = 0 ∧ c.isMark '-' then return (false, ← s.documentMark .documentStart)
  else if c.column = 0 ∧ c.isMark '.' then return (false, ← s.documentEnd)
  else if (c.column : Int) < s.indent then throw .indentation
  else return (false, ← s.content)

def run : (fuel : Nat) → Lexer → Except Error (List Token)
  | 0, _ => .error .misplaced
  | fuel + 1, s => do
    let (ended, s) ← s.step
    if ended then return s.scanned.reverse else run fuel s

end Lexer

/-- The tokens of a text. Each step takes a character, so its fuel never runs out. -/
def Token.scan (text : String) : Except Error (List Token) :=
  Lexer.run (text.length + 2) (.start text)

end SessionGate.Yaml
