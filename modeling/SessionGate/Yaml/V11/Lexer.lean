import SessionGate.Text.Utf8
import SessionGate.Yaml.V11.Scalar

/-!
# Tokens of YAML 1.1

`scan` turns a text into the tokens of a stream.

- Indentation opens and closes block collections, as long as no flow collection is open.
- A token that may turn out to be a key is remembered; when a colon follows, the mark of the key and,
  where it starts one, of its mapping go in front of it.
-/
namespace SessionGate.Yaml.V11
set_option autoImplicit false

/-! ## Tags and directives -/

namespace Cursor

/-- Reads an escape of an address: the octets of one character. -/
def uriEscape (c : Cursor) : Except Error (Utf8.Bytes × Cursor) :=
  let octet? (c : Cursor) : Option Nat :=
    match c.ahead with
    | '%' :: a :: b :: _ => (Yaml.Cursor.codePoint? [a, b]).map Char.toNat
    | _ => none
  let rec more : Nat → Utf8.Bytes → Cursor → Except Error (Utf8.Bytes × Cursor)
    | 0, octets, c => .ok (octets, c)
    | n + 1, octets, c =>
      match octet? c with
      | some b =>
        if 0x80 ≤ b && b < 0xc0 then more n (octets ++ [b.toUInt8]) (c.skip 3) else .error .tag
      | none => .error .tag
  match octet? c with
  | none => .error .tag
  | some b =>
    if b < 0x80 then more 0 [b.toUInt8] (c.skip 3)
    else if b < 0xc0 then .error .tag
    else if b < 0xe0 then more 1 [b.toUInt8] (c.skip 3)
    else if b < 0xf0 then more 2 [b.toUInt8] (c.skip 3)
    else if b < 0xf8 then more 3 [b.toUInt8] (c.skip 3)
    else .error .tag

/-- Reads the octets of an address; `flow` lets it have signs of flow collections. -/
def uriOctets (flow : Bool) :
    (fuel : Nat) → Utf8.Bytes → Cursor → Except Error (Utf8.Bytes × Cursor)
  | 0, octets, c => .ok (octets, c)
  | fuel + 1, octets, c =>
    let x := c.peek
    if !isUriChar flow x then .ok (octets, c)
    else if x = '%' then do
      let (more, c) ← c.uriEscape
      uriOctets flow fuel (octets ++ more) c
    else uriOctets flow fuel (octets ++ Utf8.encodeChar x) c.skip

/-- Reads an address. -/
def uri (flow : Bool) (c : Cursor) : Except Error (String × Cursor) := do
  let (octets, c) ← uriOctets flow (c.ahead.length + 1) [] c
  match Utf8.decode? octets with
  | some text => return (text, c)
  | none => throw .tag

/-- Reads a handle: `!`, or a word between two of them, the second of which can be missing. -/
def tagHandle (c : Cursor) : Except Error (String × Cursor) :=
  if c.peek ≠ '!' then .error .tag
  else
    let (word, c) := c.skip.takeWhile isWord
    if c.peek = '!' then .ok (String.ofList ('!' :: (word ++ ['!'])), c.skip)
    else .ok (String.ofList ('!' :: word), c)

/-- Whether a handle is a word between two exclamation marks, or two of them. -/
def isNamedHandle (handle : String) : Bool :=
  2 ≤ handle.length && handle.toList.getLast? = some '!'

/-- Reads a tag: an address in angle brackets, or a handle and an address. -/
def tag (c : Cursor) : Except Error (Token × Cursor) :=
  if c.peekAt 1 = '<' then do
    let (suffix, c) ← uri true (c.skip 2)
    if suffix.isEmpty || c.peek ≠ '>' then throw .tag
    return (.tag "" suffix, c.skip)
  else do
    let (handle, c) ← c.tagHandle
    let (suffix, c) ← uri false c
    if isNamedHandle handle then
      if suffix.isEmpty then throw .tag
      return (.tag handle suffix, c)
    else
      let suffix := String.ofList handle.toList.tail ++ suffix
      return (if suffix.isEmpty then .tag "" "!" else .tag "!" suffix, c)

/-- Reads a number of a version. -/
def versionNumber (c : Cursor) : Except Error (Nat × Cursor) :=
  let (digits, c) := c.takeWhile Char.isDigit
  if digits.isEmpty || 9 < digits.length then .error .directive
  else .ok (digits.foldl (fun n d => 10 * n + (d.toNat - '0'.toNat)) 0, c)

/-- Reads the version of a directive, which is the first one of the language or the next. -/
def version (c : Cursor) : Except Error (Token × Cursor) := do
  let (major, c) ← versionNumber (c.takeWhile isBlank).2
  if c.peek ≠ '.' then throw .directive
  let (minor, c) ← c.skip.versionNumber
  if major = 1 && (minor = 1 || minor = 2) then return (.versionDirective, c)
  else throw .directive

/-- Reads a handle and what it stands for. -/
def tagDirective (c : Cursor) : Except Error (Token × Cursor) := do
  let (handle, c) ← tagHandle (c.takeWhile isBlank).2
  if (handle ≠ "!" && !isNamedHandle handle) || !isBlank c.peek then throw .directive
  let (start, c) ← uri true (c.takeWhile isBlank).2
  if start.isEmpty || !isGap c.peek then throw .directive
  return (.tagDirective handle start, c)

/-- Reads a directive from its percent sign on. -/
def directive (c : Cursor) : Except Error (Token × Cursor) := do
  let (name, c) := c.skip.takeWhile isWord
  if !isGap c.peek then throw .directive
  let (token, c) ←
    match String.ofList name with
    | "YAML" => version c
    | "TAG" => tagDirective c
    | _ => throw .directive
  let some c := c.toLineEnd? | throw .directive
  return (token, c)

/-- Reads the name of an anchor from its sign on. -/
def anchorName (c : Cursor) : Except Error (String × Cursor) :=
  let (name, c) := c.skip.takeWhile isWord
  if name.isEmpty || !(isGap c.peek || "?:,]\x7d%@\x60".toList.contains c.peek) then .error .anchor
  else .ok (String.ofList name, c)

end Cursor

/-! ## The state of scanning -/

/-- A token that may be a key. -/
structure Key where
  possible : Bool
  /-- A key must come here, or the text is malformed. -/
  required : Bool
  /-- Number of tokens in front of it. -/
  number : Nat
  index : Nat
  line : Nat
  column : Nat
deriving Inhabited

def Key.none : Key := ⟨false, false, 0, 0, 0, 0⟩

structure Lexer where
  cursor : Cursor
  /-- Tokens so far, the last one first. -/
  scanned : List Token
  count : Nat
  /-- Possible keys of the open flow collections, the innermost first. -/
  keys : List Key
  keyAllowed : Bool
  indent : Int
  /-- Indentations that were left for deeper ones. -/
  indents : List Int
  flowLevel : Nat
deriving Inhabited

namespace Lexer

def start (text : List Char) : Lexer := ⟨.start text, [], 0, [.none], true, -1, [], 0⟩

/-! ## Tokens and keys -/

def push (s : Lexer) (token : Token) : Lexer :=
  { s with scanned := token :: s.scanned, count := s.count + 1 }

/-- Puts a token behind the first `number` ones. -/
def insert (s : Lexer) (number : Nat) (token : Token) : Lexer :=
  { s with scanned := s.scanned.insertIdx (s.count - number) token, count := s.count + 1 }

def allow (s : Lexer) (key : Bool) : Lexer := { s with keyAllowed := key }
def move (s : Lexer) (cursor : Cursor) : Lexer := { s with cursor := cursor }
def inBlock (s : Lexer) : Bool := s.flowLevel == 0

/-- Pushes a token that has been read up to a cursor. -/
def took (s : Lexer) (read : Token × Cursor) : Lexer := (s.move read.2).push read.1

/-- Gives up the last possible key. -/
def dropKey (s : Lexer) : Except Error Lexer :=
  match s.keys with
  | key :: rest =>
    if key.possible && key.required then .error .simpleKey
    else .ok { s with keys := { key with possible := false } :: rest }
  | [] => .ok s

/-- Remembers that the next token may be a key. -/
def saveKey (s : Lexer) : Except Error Lexer :=
  if s.keyAllowed then do
    let c := s.cursor
    let s ← s.dropKey
    let required := s.inBlock && s.indent == c.column
    return { s with keys := ⟨true, required, s.count, c.index, c.line, c.column⟩ :: s.keys.tail }
  else .ok s

/-- A key stands on one line and within 1024 characters. -/
def dropStaleKeys (s : Lexer) : Except Error Lexer := do
  let keys ← s.keys.mapM fun key =>
    if key.possible && (key.line < s.cursor.line || key.index + 1024 < s.cursor.index) then
      if key.required then .error Error.simpleKey else .ok { key with possible := false }
    else .ok key
  return { s with keys }

/-! ## Indentation -/

/-- Opens a block collection at a column, if it is deeper than the present one. Its mark goes behind
the first `number` tokens. -/
def roll (s : Lexer) (column : Nat) (number : Nat) (token : Token) : Lexer :=
  if s.inBlock && s.indent < column then
    { s with indent := column, indents := s.indent :: s.indents }.insert number token
  else s

/-- Closes the block collections deeper than a column. -/
def unrollFrom (column : Int) : List Int → Lexer → Lexer
  | [], s => s
  | indent :: rest, s =>
    if column < s.indent then
      unrollFrom column rest ({ s with indent := indent, indents := rest }.push .blockEnd)
    else s

def unroll (s : Lexer) (column : Int) : Lexer :=
  if s.inBlock then unrollFrom column s.indents s else s

/-! ## Tokens -/

/-- Passes over blanks, breaks and comments. A break lets a key follow; a tab may stand only where no
key can. -/
def toToken : (fuel : Nat) → Lexer → Lexer
  | 0, s => s
  | fuel + 1, s =>
    let c := s.cursor
    let c := if c.column = 0 && c.peek = '\ufeff' then c.skip else c
    let tabs := !s.inBlock || !s.keyAllowed
    let c := (c.takeWhile fun x => x == ' ' || (tabs && x == '\t')).2
    let c := if c.peek = '#' then (c.takeWhile (!isBreak ·)).2 else c
    if isBreak c.peek then
      let s := s.move c.skipBreak
      toToken fuel (if s.inBlock then s.allow true else s)
    else s.move c

/-- Leaves all block collections in front of a directive or of a mark of a document. -/
def leaveBlocks (s : Lexer) : Except Error Lexer := do
  return (← (s.unroll (-1)).dropKey).allow false

def flowStart (s : Lexer) (token : Token) : Except Error Lexer := do
  let s ← s.saveKey
  return ({ s with keys := .none :: s.keys, flowLevel := s.flowLevel + 1 }.allow true).took
    (token, s.cursor.skip)

def flowEnd (s : Lexer) (token : Token) : Except Error Lexer := do
  let s ← s.dropKey
  let s := if s.inBlock then s else { s with keys := s.keys.tail, flowLevel := s.flowLevel - 1 }
  return (s.allow false).took (token, s.cursor.skip)

def flowEntry (s : Lexer) : Except Error Lexer := do
  let s ← s.dropKey
  return (s.allow true).took (.flowEntry, s.cursor.skip)

/-- Opens a block collection where an entry or a key without brackets stands. -/
def openBlock (s : Lexer) (token : Token) : Except Error Lexer :=
  if !s.inBlock then .ok s
  else if !s.keyAllowed then .error .context
  else .ok (s.roll s.cursor.column s.count token)

def blockEntry (s : Lexer) : Except Error Lexer := do
  let s ← (← s.openBlock .blockSequenceStart).dropKey
  return (s.allow true).took (.blockEntry, s.cursor.skip)

def keyMark (s : Lexer) : Except Error Lexer := do
  let s ← (← s.openBlock .blockMappingStart).dropKey
  return (s.allow s.inBlock).took (.key, s.cursor.skip)

/-- Reads the mark of a value. A possible key in front of it gets its own mark. -/
def valueMark (s : Lexer) : Except Error Lexer := do
  match s.keys with
  | key :: rest =>
    if key.possible then
      let s := s.insert key.number .key
      let s := s.roll key.column key.number .blockMappingStart
      let s := { s with keys := { key with possible := false } :: rest }
      return (s.allow false).took (.value, s.cursor.skip)
  | [] => pure ()
  let s ← s.openBlock .blockMappingStart
  return (s.allow s.inBlock).took (.value, s.cursor.skip)

/-- Reads a token that may be a key. -/
def keyed (s : Lexer) (read : Cursor → Except Error (Token × Cursor)) : Except Error Lexer := do
  let s ← s.saveKey
  return (s.allow false).took (← read s.cursor)

def blockScalar (s : Lexer) (literal : Bool) : Except Error Lexer := do
  let s ← s.dropKey
  return (s.allow true).took (← s.cursor.block literal s.indent)

def plainScalar (s : Lexer) : Except Error Lexer := do
  let s ← s.saveKey
  let (token, broken, c) ← s.cursor.plain (!s.inBlock) s.indent
  return (s.allow broken).took (token, c)

def anchorOf (token : String → Token) (c : Cursor) : Except Error (Token × Cursor) := do
  let (name, c) ← c.anchorName
  return (token name, c)

/-- Reads a tag. Behind it stands a gap, or a comma in a flow collection. -/
def tagOf (flow : Bool) (c : Cursor) : Except Error (Token × Cursor) := do
  let (token, c) ← c.tag
  if isGap c.peek || (flow && c.peek = ',') then return (token, c) else throw .tag

/-- Whether a plain scalar starts with a character; `next` is the one behind it. -/
def startsPlain (flow : Bool) (x next : Char) : Bool :=
  !(isGap x || "-?:,[]\x7b\x7d#&*!|>\"%@\x60".toList.contains x || x = '\x27')
    || (x = '-' && !isBlank next)
    || (!flow && (x = '?' || x = ':') && !isGap next)

/-- Reads the next token; answers whether it is the last one. -/
def next (s : Lexer) : Except Error (Bool × Lexer) := do
  let s := s.toToken (s.cursor.ahead.length + 1)
  let s ← s.dropStaleKeys
  let s := s.unroll s.cursor.column
  let c := s.cursor
  let x := c.peek
  let gapNext := isGap (c.peekAt 1)
  let goOn (r : Except Error Lexer) : Except Error (Bool × Lexer) := r.map (false, ·)
  if isEnd x then return (true, (← s.leaveBlocks).push .streamEnd)
  else if c.column = 0 && x = '%' then
    let s ← s.leaveBlocks
    return (false, s.took (← c.directive))
  else if c.column = 0 && c.isMark '-' then
    return (false, (← s.leaveBlocks).took (.documentStart, c.skip 3))
  else if c.column = 0 && c.isMark '.' then
    return (false, (← s.leaveBlocks).took (.documentEnd, c.skip 3))
  else if x = '[' then goOn (s.flowStart .flowSequenceStart)
  else if x = '\x7b' then goOn (s.flowStart .flowMappingStart)
  else if x = ']' then goOn (s.flowEnd .flowSequenceEnd)
  else if x = '\x7d' then goOn (s.flowEnd .flowMappingEnd)
  else if x = ',' then goOn s.flowEntry
  else if x = '-' && gapNext then goOn s.blockEntry
  else if x = '?' && (!s.inBlock || gapNext) then goOn s.keyMark
  else if x = ':' && (!s.inBlock || gapNext) then goOn s.valueMark
  else if x = '*' then goOn (s.keyed (anchorOf .alias))
  else if x = '&' then goOn (s.keyed (anchorOf .anchor))
  else if x = '!' then goOn (s.keyed (tagOf (!s.inBlock)))
  else if x = '|' && s.inBlock then goOn (s.blockScalar true)
  else if x = '>' && s.inBlock then goOn (s.blockScalar false)
  else if x = '\x27' then goOn (s.keyed (·.quoted true))
  else if x = '"' then goOn (s.keyed (·.quoted false))
  else if startsPlain (!s.inBlock) x (c.peekAt 1) then goOn s.plainScalar
  else throw .character

/-- Reads the tokens up to the end of the stream. -/
def run : (fuel : Nat) → Lexer → Except Error (List Token)
  | 0, _ => .error .misplaced
  | fuel + 1, s => do
    let (done, s) ← s.next
    if done then return s.scanned.reverse else run fuel s

end Lexer

/-- The tokens of a text. Each of them but the last takes a character. -/
def scan (text : String) : Except Error (List Token) :=
  let chars := text.toList
  if chars.all isAllowed then (Lexer.start chars).run (chars.length + 2) else .error .character

end SessionGate.Yaml.V11
