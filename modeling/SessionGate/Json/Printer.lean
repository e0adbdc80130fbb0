import SessionGate.Json.Basic
import SessionGate.Number.Decimal

/-!
# Writing JSON text

`Json.compress` writes a value without blanks. A float keeps its point or exponent; a float that is
no number is written as null.
-/
namespace SessionGate.Json
set_option autoImplicit false

private def hexDigits (n : Nat) : List Char :=
  let digits := Nat.toDigits 16 n
  List.replicate (4 - digits.length) '0' ++ digits

/-- Escapes the quote, the backslash and the control characters, and nothing else. -/
def escapeChar (c : Char) : List Char :=
  if c = '"' then ['\\', '"']
  else if c = '\\' then ['\\', '\\']
  else if c = '\n' then ['\\', 'n']
  else if c = '\r' then ['\\', 'r']
  else if c = '\t' then ['\\', 't']
  else if c = '\x08' then ['\\', 'b']
  else if c = '\x0c' then ['\\', 'f']
  else if c.toNat < 0x20 then '\\' :: 'u' :: hexDigits c.toNat
  else [c]

def quote (s : String) : String :=
  String.ofList ('"' :: s.toList.flatMap escapeChar ++ ['"'])

mutual

def compress : Json → String
  | .null => "null"
  | .bool true => "true"
  | .bool false => "false"
  | .int i => toString i
  | .double d => if d.isFinite then d.exponential else "null"
  | .string s => quote s
  | .array items => "[" ++ compressItems items ++ "]"
  | .object members => "\x7b" ++ compressMembers members ++ "\x7d"

def compressItems : List Json → String
  | [] => ""
  | [item] => compress item
  | item :: items => compress item ++ "," ++ compressItems items

def compressMembers : List (String × Json) → String
  | [] => ""
  | [(key, value)] => quote key ++ ":" ++ compress value
  | (key, value) :: members => quote key ++ ":" ++ compress value ++ "," ++ compressMembers members

end

end SessionGate.Json
