/-!
# UTF-8

Bytes are lists of octets.

- `Utf8.encode` writes a text.
- `Utf8.decode?` reads bytes; `none` where they are not the shortest form of a text.
  `Utf8.decode?_of_ascii` says what it reads where all octets are ASCII.
-/
namespace SessionGate.Utf8
set_option autoImplicit false

/-- A run of octets. -/
abbrev Bytes := List UInt8

def encodeChar (c : Char) : Bytes :=
  let n := c.toNat
  if n < 0x80 then [n.toUInt8]
  else if n < 0x800 then [(0xC0 + n / 64).toUInt8, (0x80 + n % 64).toUInt8]
  else if n < 0x10000 then
    [(0xE0 + n / 4096).toUInt8, (0x80 + n / 64 % 64).toUInt8, (0x80 + n % 64).toUInt8]
  else
    [(0xF0 + n / 262144).toUInt8, (0x80 + n / 4096 % 64).toUInt8, (0x80 + n / 64 % 64).toUInt8,
      (0x80 + n % 64).toUInt8]

def encode (text : String) : Bytes := text.toList.flatMap encodeChar

/-- The six bits of a following octet. -/
def tail? (b : UInt8) : Option Nat :=
  let n := b.toNat
  if 0x80 ≤ n ∧ n < 0xC0 then some (n - 0x80) else none

/-- Reads the characters; a surrogate, an overlong form and a code point beyond the last one are
refused. -/
def decodeChars? : Bytes → Option (List Char)
  | [] => some []
  | a :: rest =>
    let n := a.toNat
    if n < 0x80 then (decodeChars? rest).map (Char.ofNat n :: ·)
    else if n < 0xC2 then none
    else if n < 0xE0 then
      match rest with
      | b :: rest => do
        let b ← tail? b
        return Char.ofNat ((n - 0xC0) * 64 + b) :: (← decodeChars? rest)
      | _ => none
    else if n < 0xF0 then
      match rest with
      | b :: c :: rest => do
        let b ← tail? b
        let c ← tail? c
        let code := (n - 0xE0) * 4096 + b * 64 + c
        if code < 0x800 ∨ (0xD800 ≤ code ∧ code < 0xE000) then none
        else return Char.ofNat code :: (← decodeChars? rest)
      | _ => none
    else if n < 0xF5 then
      match rest with
      | b :: c :: d :: rest => do
        let b ← tail? b
        let c ← tail? c
        let d ← tail? d
        let code := (n - 0xF0) * 262144 + b * 4096 + c * 64 + d
        if code < 0x10000 ∨ 0x110000 ≤ code then none
        else return Char.ofNat code :: (← decodeChars? rest)
      | _ => none
    else none

def decode? (bytes : Bytes) : Option String := (decodeChars? bytes).map String.ofList

theorem decodeChars?_of_ascii {bytes : Bytes} (h : ∀ b ∈ bytes, b.toNat < 0x80) :
    decodeChars? bytes = some (bytes.map fun b => Char.ofNat b.toNat) := by
  induction bytes with
  | nil => rfl
  | cons a rest ih =>
    have ha := h a List.mem_cons_self
    have hrest := ih fun b hb => h b (List.mem_cons_of_mem a hb)
    unfold decodeChars?
    dsimp only
    rw [if_pos ha, hrest]
    rfl

/-- Octets of ASCII are characters one by one. -/
theorem decode?_of_ascii {bytes : Bytes} (h : ∀ b ∈ bytes, b.toNat < 0x80) :
    decode? bytes = some (String.ofList (bytes.map fun b => Char.ofNat b.toNat)) := by
  rw [decode?, decodeChars?_of_ascii h]
  rfl

/-! ## Hexadecimal form -/

def hexPair (b : UInt8) : List Char :=
  let digits := Nat.toDigits 16 b.toNat
  List.replicate (2 - digits.length) '0' ++ digits

/-- Two lower-case digits for each octet. -/
def hex (bytes : Bytes) : String := String.ofList (bytes.flatMap hexPair)

def hexValue? (c : Char) : Option Nat :=
  if '0' ≤ c ∧ c ≤ '9' then some (c.toNat - '0'.toNat)
  else if 'a' ≤ c ∧ c ≤ 'f' then some (c.toNat - 'a'.toNat + 10)
  else if 'A' ≤ c ∧ c ≤ 'F' then some (c.toNat - 'A'.toNat + 10)
  else none

def ofHexChars? : List Char → Option Bytes
  | [] => some []
  | a :: b :: rest => do
    return (16 * (← hexValue? a) + (← hexValue? b)).toUInt8 :: (← ofHexChars? rest)
  | _ => none

def ofHex? (text : String) : Option Bytes := ofHexChars? text.toList

end SessionGate.Utf8
