import SessionGate.Proofs.Session.Token
import SessionGate.Session.Labels

/-! # The characters that get into names and selectors

An id is compared without its case, so that two characters beyond ASCII count as letters of an id: the
long s and the Kelvin sign.

* `ReadFrom`: a token that is accepted as a text, or that is found in it.
* `Embeddable`: the id brings ASCII letters and digits into a selector and a name, and nothing else.
* `readFrom_embeddable_iff`: the tokens of a text are embeddable exactly when neither the text as an id
  nor the id that is found in it has one of the two characters.
-/
namespace SessionGate.Session.Token
set_option autoImplicit false

/-- The characters beyond ASCII that are equal to a letter up to the case. -/
def folding : List Char := ['\u017f', '\u212a']

/-- The token is the whole text, or it is found in the text. -/
def ReadFrom (text : String) (token : Token) : Prop :=
  parse? text = some token ∨ inUrl? text = some token

/-- The id is a run of ASCII letters and digits, and nothing else of it gets into a selector or into the
name of a route. -/
structure Embeddable (token : Token) : Prop where
  nonempty : token.text ≠ ""
  id : ∀ c ∈ token.text.toList, c.isAlphanum = true
  selector (keys : LabelNames) : ∃ id : List Char, (∀ c ∈ id, c.isAlphanum = true) ∧
    (keys.selector token).toList = keys.session.toList ++ "=".toList ++ id
  ingressName : ∃ id : List Char, (∀ c ∈ id, c.isAlphanum = true) ∧
    (Session.ingressName token.text).toList = "skaha-carta-ingress-".toList ++ id

variable {text : String} {token : Token} {c : Char}

/-! ## The alphabet of ids -/

theorem isIdChar_iff : isIdChar c = true ↔ c.isAlphanum = true ∨ c ∈ folding := by
  simp only [isIdChar, folding, Bool.or_eq_true, beq_iff_eq, List.mem_cons, List.not_mem_nil, or_false,
    or_assoc]

theorem not_isAlphanum_of_folding (h : c ∈ folding) : c.isAlphanum = false := by
  rcases List.mem_cons.mp h with rfl | h
  · decide
  · obtain rfl := List.mem_singleton.mp h
    decide

/-- Every character of an id is an ASCII letter or digit, or it is one of the two. -/
theorem alphanum_or_folding (token : Token) (h : c ∈ token.text.toList) :
    c.isAlphanum = true ∨ c ∈ folding :=
  isIdChar_iff.mp (isIdChar_of_mem token h)

theorem embeddable_iff : Embeddable token ↔ ∀ c ∈ folding, c ∉ token.text.toList := by
  constructor
  · intro h c hfolding hmem
    have halphanum := h.id c hmem
    rw [not_isAlphanum_of_folding hfolding] at halphanum
    cases halphanum
  · intro h
    have hid : ∀ c ∈ token.text.toList, c.isAlphanum = true := by
      intro c hmem
      rcases alphanum_or_folding token hmem with halphanum | hfolding
      · exact halphanum
      · exact absurd hmem (h c hfolding)
    constructor
    · exact text_ne_empty token
    · exact hid
    · intro keys
      refine ⟨token.text.toList, hid, ?_⟩
      rw [LabelNames.selector, String.toList_append, String.toList_append]
    · exact ⟨token.text.toList, hid, String.toList_append⟩

/-! ## The tokens of a text -/

theorem parse?_eq_some : parse? text = some token ↔ isId text.toList = true ∧ token.text = text := by
  rw [parse?]
  split
  · next hid =>
    constructor
    · intro h
      exact ⟨hid, by rw [← Option.some.inj h]⟩
    · rintro ⟨-, rfl⟩
      rfl
  · next hid =>
    constructor
    · intro h
      cases h
    · rintro ⟨h, -⟩
      exact absurd h hid

theorem inUrl?_eq_some : inUrl? text = some token ↔ findId? text.toList = some token.text.toList := by
  rw [inUrl?]
  split
  · next id hid =>
    constructor
    · intro h
      rw [← Option.some.inj h, String.toList_ofList, hid]
    · intro h
      refine congrArg some (eq_of_text ?_)
      dsimp only
      rw [Option.some.inj (hid.symm.trans h), String.ofList_toList]
  · next hnone =>
    rw [hnone]
    simp

/-- The tokens of a text are non-empty and made of ASCII letters, ASCII digits, the long s and the Kelvin
sign; they are all embeddable exactly when the last two occur neither in the text, where it is an id, nor
in the id behind its leftmost session path. -/
theorem readFrom_embeddable_iff (text : String) :
    (∀ token, ReadFrom text token →
        token.text ≠ "" ∧ ∀ c ∈ token.text.toList, c.isAlphanum = true ∨ c ∈ folding) ∧
      ((∀ token, ReadFrom text token → Embeddable token) ↔
        (isId text.toList = true → ∀ c ∈ folding, c ∉ text.toList) ∧
          ∀ id, findId? text.toList = some id → ∀ c ∈ folding, c ∉ id) := by
  refine ⟨fun token _ => ⟨text_ne_empty token, fun c hc => alphanum_or_folding token hc⟩, ?_⟩
  constructor
  · intro h
    constructor
    · intro hid
      exact embeddable_iff.mp (h ⟨text, hid⟩ (.inl (parse?_eq_some.mpr ⟨hid, rfl⟩)))
    · intro id hfind
      have hvalid : isId (String.ofList id).toList = true := by
        rw [String.toList_ofList]
        exact isId_of_findId? hfind
      have hread : ReadFrom text ⟨String.ofList id, hvalid⟩ := by
        refine .inr (inUrl?_eq_some.mpr ?_)
        rw [String.toList_ofList, hfind]
      have hclean := embeddable_iff.mp (h _ hread)
      rwa [String.toList_ofList] at hclean
  · rintro ⟨hwhole, hfound⟩ token (hread | hread)
    · obtain ⟨hid, htext⟩ := parse?_eq_some.mp hread
      rw [embeddable_iff, htext]
      exact hwhole hid
    · exact embeddable_iff.mpr (hfound _ (inUrl?_eq_some.mp hread))

/-- The Kelvin sign gets into a selector, and so does the long s out of a URL. -/
theorem folding_is_embedded :
    (parse? "\u212aelvin9").map LabelNames.default.selector = some "canfar-net-sessionID=\u212aelvin9" ∧
      (inUrl? "https://host/session/carta/ab\u017fc1/x").map (·.text) = some "ab\u017fc1" ∧
      ¬ ∀ text token, ReadFrom text token → Embeddable token := by
  refine ⟨by decide +kernel, by decide +kernel, fun h => ?_⟩
  have hid : isId "\u212aelvin9".toList = true := by decide +kernel
  have hread : ReadFrom "\u212aelvin9" ⟨"\u212aelvin9", hid⟩ := .inl (parse?_eq_some.mpr ⟨hid, rfl⟩)
  have hsign : '\u212a' ∈ "\u212aelvin9".toList := by decide +kernel
  exact embeddable_iff.mp (h _ _ hread) '\u212a' (by decide) hsign

end SessionGate.Session.Token
