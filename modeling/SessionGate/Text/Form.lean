import SessionGate.Text.Utf8

/-!
# Form-encoded query texts

`Form.encode` writes pairs of names and values: letters, digits and `*-._` stand for themselves, a
space is a plus sign, any other octet is a percent sign and two digits.
-/
namespace SessionGate.Form
set_option autoImplicit false

def isPlain (b : UInt8) : Bool :=
  let c := Char.ofNat b.toNat
  c.isAlphanum || c == '*' || c == '-' || c == '.' || c == '_'

def encodeByte (b : UInt8) : List Char :=
  if isPlain b then [Char.ofNat b.toNat]
  else if b = 0x20 then ['+']
  else '%' :: (Utf8.hexPair b).map Char.toUpper

def encodeText (text : String) : String :=
  String.ofList ((Utf8.encode text).flatMap encodeByte)

def encode (pairs : List (String × String)) : String :=
  String.intercalate "&" (pairs.map fun (name, value) => encodeText name ++ "=" ++ encodeText value)

end SessionGate.Form
