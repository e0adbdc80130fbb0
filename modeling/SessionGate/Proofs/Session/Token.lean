import SessionGate.Session.Token

/-! # The ids that are found in a text

An id that is found is a part of the text (`mem_of_findId?`, `mem_of_inContext?`), so what is so of
every character of the text is so of every character of the token. -/
namespace SessionGate.Session.Token
set_option autoImplicit false

variable {path text rest id : List Char}

theorem afterPath?_suffix (h : afterPath? path text = some rest) : rest <:+ text := by
  induction path generalizing text with
  | nil =>
    obtain rfl := Option.some.inj h
    exact List.suffix_refl text
  | cons p path ih =>
    cases text with
    | nil => cases h
    | cons c text =>
      rw [afterPath?] at h
      split at h
      · exact (ih h).trans (List.suffix_cons c text)
      · cases h

theorem mem_of_idHere? (h : idHere? text = some id) {c : Char} (hc : c ∈ id) : c ∈ text := by
  rw [idHere?] at h
  split at h
  · next rest hrest =>
    dsimp only at h
    split at h
    · cases h
    · obtain rfl := Option.some.inj h
      exact (afterPath?_suffix hrest).subset ((List.takeWhile_prefix _).subset hc)
  · cases h

theorem mem_of_findId? (h : findId? text = some id) {c : Char} (hc : c ∈ id) : c ∈ text := by
  induction text with
  | nil => cases h
  | cons first text ih =>
    rw [findId?] at h
    split at h
    · next found hfound =>
      obtain rfl := Option.some.inj h
      exact mem_of_idHere? hfound hc
    · exact List.mem_cons_of_mem first (ih h)

theorem mem_of_inUrl? {url : String} {token : Token} (h : inUrl? url = some token) {c : Char}
    (hc : c ∈ token.text.toList) : c ∈ url.toList := by
  rw [inUrl?] at h
  split at h
  · next found hfound =>
    obtain rfl := Option.some.inj h
    rw [String.toList_ofList] at hc
    exact mem_of_findId? hfound hc
  · cases h

/-- A token comes from one of the two texts. -/
theorem mem_of_inContext? {referer forwarded : Option String} {token : Token}
    (h : inContext? referer forwarded = some token) :
    ∃ url, (referer = some url ∨ forwarded = some url) ∧ ∀ c ∈ token.text.toList, c ∈ url.toList := by
  rcases Option.or_eq_some_iff.mp h with h | ⟨-, h⟩
  · obtain ⟨url, hurl, h⟩ := Option.bind_eq_some_iff.mp h
    exact ⟨url, .inl hurl, fun c hc => mem_of_inUrl? h hc⟩
  · obtain ⟨url, hurl, h⟩ := Option.bind_eq_some_iff.mp h
    exact ⟨url, .inr hurl, fun c hc => mem_of_inUrl? h hc⟩

theorem eq_of_text {a b : Token} (h : a.text = b.text) : a = b := by
  obtain ⟨a, ha⟩ := a
  obtain ⟨b, hb⟩ := b
  obtain rfl : a = b := h
  rfl

theorem text_ne_empty (token : Token) : token.text ≠ "" := by
  intro hempty
  have hvalid := token.valid
  rw [hempty] at hvalid
  cases hvalid

theorem isIdChar_of_mem (token : Token) {c : Char} (hc : c ∈ token.text.toList) : isIdChar c = true := by
  have hvalid := token.valid
  rw [isId, Bool.and_eq_true] at hvalid
  exact List.all_eq_true.mp hvalid.2 c hc

/-- Among the ASCII characters those of an id are the letters and the digits. -/
theorem isAlphanum_of_isIdChar {c : Char} (h : isIdChar c = true) (hascii : c.toNat < 0x80) :
    c.isAlphanum = true := by
  rw [isIdChar, Bool.or_eq_true, Bool.or_eq_true] at h
  rcases h with (h | h) | h
  · exact h
  · obtain rfl := beq_iff_eq.mp h
    exact absurd hascii (by decide)
  · obtain rfl := beq_iff_eq.mp h
    exact absurd hascii (by decide)

end SessionGate.Session.Token
