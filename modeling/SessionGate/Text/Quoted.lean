import SessionGate.Text.Case

/-!
# Quoted texts

`Text.quoted` writes a text between quotes for a reader of logs and errors: quotes, backslashes,
line ends and tabs are escaped by a backslash, characters that cannot be seen by their code point.
-/
namespace SessionGate.Text
set_option autoImplicit false

def codePoint (c : Char) : List Char :=
  ['\\', 'u', '\x7b'] ++ Nat.toDigits 16 c.toNat ++ ['\x7d']

/-- Escapes one character; `quote` is the mark around the text. -/
def quotedChar (quote c : Char) : List Char :=
  if c = '\x00' then ['\\', '0']
  else if c = '\t' then ['\\', 't']
  else if c = '\r' then ['\\', 'r']
  else if c = '\n' then ['\\', 'n']
  else if c = '\\' then ['\\', '\\']
  else if c = quote then ['\\', c]
  else if 0x20 ≤ c.toNat ∧ c.toNat < 0x7f then [c]
  else if inRanges graphemeExtend c || inRanges unprintable c then codePoint c
  else [c]

def quoted (text : String) : String :=
  String.ofList ('"' :: text.toList.flatMap (quotedChar '"') ++ ['"'])

end SessionGate.Text
