import SessionGate.Text.Base64
import SessionGate.Text.Case

/-!
# Armoured blocks

A block stands between a line that begins it and a line that ends it; both bear its label. Whatever
stands outside of the blocks is skipped, and so is a block that does not end.

- `Pem.blocks?` reads the blocks of a file; one malformed block spoils them all.
- A blank line parts the headers of a block from its data.
-/
namespace SessionGate.Pem
set_option autoImplicit false
open Utf8 (Bytes)

structure Block where
  label : String
  contents : Bytes
deriving DecidableEq, Inhabited

/-! ## Marks -/

/-- Cuts at the first place where a mark is completed: what is in front of it and behind it. An octet
that does not go on with a mark is never the first one of it. -/
def cutAt? (mark : Bytes) : (rest : Bytes) → (before : Bytes) → (found : Nat) →
    Option (Bytes × Bytes)
  | [], _, _ => none
  | b :: rest, before, found =>
    if mark[found]? = some b then
      if found + 1 = mark.length then some (((b :: before).drop mark.length).reverse, rest)
      else cutAt? mark rest (b :: before) (found + 1)
    else cutAt? mark rest (b :: before) 0

def beginMark : Bytes := Utf8.encode "-----BEGIN "
def endMark : Bytes := Utf8.encode "-----END "
def dashes : Bytes := Utf8.encode "-----"

def isBlank (b : UInt8) : Bool := b == 32 || b == 10 || b == 9 || b == 13

/-! ## Blocks -/

/-- The parts of a block: label at its begin, body, label at its end. -/
structure Raw where
  label : Bytes
  inner : Bytes
  closing : Bytes

/-- The first block, and what is behind it. -/
def first? (text : Bytes) : Option (Raw × Bytes) := do
  let (_, rest) ← cutAt? beginMark text [] 0
  let (label, rest) ← cutAt? dashes rest [] 0
  let (inner, rest) ← cutAt? endMark (rest.dropWhile isBlank) [] 0
  let (closing, rest) ← cutAt? dashes rest [] 0
  return (⟨label, inner, closing⟩, rest.dropWhile isBlank)

/-- All blocks; each of them is longer than its marks. -/
def raws : (fuel : Nat) → Bytes → List Raw
  | 0, _ => []
  | fuel + 1, text =>
    match first? text with
    | some (raw, rest) => raw :: raws fuel rest
    | none => []

/-- Headers and data of a body. -/
def headersAndData (inner : Bytes) : Bytes × Bytes :=
  match cutAt? [10, 10] inner [] 0 with
  | some parts => parts
  | none =>
    match cutAt? [13, 10, 13, 10] inner [] 0 with
    | some parts => parts
    | none => ([], inner)

/-- Whether every line of the headers is one: a name and a value with a colon between them. -/
def areHeaders (headers : List Char) : Bool :=
  let lines := headers.splitBy fun c _ => c != '\n'
  lines.all (·.contains ':')

def read? (raw : Raw) : Option Block := do
  let label ← Utf8.decode? raw.label
  let closing ← Utf8.decode? raw.closing
  let (headers, data) := headersAndData raw.inner
  let data ← Utf8.decode? data
  let headers ← Utf8.decode? headers
  if label.isEmpty || label ≠ closing || !areHeaders headers.toList then none
  return ⟨label, ← Base64.decode? (data.toList.filter (!Text.isWhitespace ·))⟩

/-- Reads the blocks of a file. -/
def blocks? (text : Bytes) : Option (List Block) := (raws (text.length + 1) text).mapM read?

end SessionGate.Pem
