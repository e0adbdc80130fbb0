import SessionGate.Proofs.Session.Token
import SessionGate.Yaml.Document

/-! # Plain scalars that are made of letters and digits

* `Meaning text value`: such a text stands for a JSON value other than the text itself, because it is a word
  for null or for a truth value, an integer, or a float.
* `toJson_ofPlain`: a plain scalar that is the id of a session has one of these values, or it is a text.
-/
namespace SessionGate.Yaml
set_option autoImplicit false
open Number (IsScientific splitSign_of_unsigned)
open Session (isId isIdChar)

/-! ## Integers -/

/-- The value of digits of a base, of which there is one at least. -/
def digitsValue? (base : Nat) (text : List Char) : Option Nat :=
  if text.isEmpty then none
  else (text.mapM fun c => (Node.digitValue? c).filter (· < base)).map fun values =>
    values.foldl (fun n v => base * n + v) 0

/-- An integer fits 63 bits, as it has no sign. -/
theorem integer?_of_unsigned {text : List Char} (h : ∀ c ∈ text, c ≠ '-' ∧ c ≠ '+') (base : Nat) (i : Int) :
    Node.integer? base text = some i ↔ ∃ n, digitsValue? base text = some n ∧ n < twoPow 63 ∧ i = n := by
  rw [Node.integer?, splitSign_of_unsigned h, digitsValue?]
  dsimp only
  cases text.isEmpty with
  | true => simp
  | false =>
    cases text.mapM fun c => (Node.digitValue? c).filter (· < base) with
    | none => simp
    | some values =>
      generalize twoPow 63 = limit
      by_cases hlt : values.foldl (fun n v => base * n + v) 0 < limit
      · simp [hlt, eq_comm]
      · simp [hlt]

/-! ## Values other than texts -/

/-- The digits of an integer, with the base that the mark in front of them tells. -/
inductive IsInteger (text : List Char) : (base : Nat) → (digits : List Char) → Prop where
  | decimal : IsInteger text 10 text
  | octal {digits : List Char} (h : text = '0' :: 'o' :: digits) : IsInteger text 8 digits
  | hexadecimal {digits : List Char} (h : text = '0' :: 'x' :: digits) : IsInteger text 16 digits

/-- What a text of letters and digits stands for as a plain scalar, unless it is a text. -/
inductive Meaning (text : String) : Json → Prop where
  | null (h : text = "null") : Meaning text .null
  | yes (h : text = "true" ∨ text = "True" ∨ text = "TRUE") : Meaning text (.bool true)
  | no (h : text = "false" ∨ text = "False" ∨ text = "FALSE") : Meaning text (.bool false)
  | integer {base n : Nat} {digits : List Char} (h : IsInteger text.toList base digits)
    (hvalue : digitsValue? base digits = some n) (hsmall : n < twoPow 63) : Meaning text (.int n)
  /-- An integer that does not fit is a float, and a float that is too great is null. -/
  | float {d : Number.Double} (h : IsScientific text.toList)
    (hgreat : ∀ n, digitsValue? 10 text.toList = some n → twoPow 63 ≤ n)
    (hvalue : Number.Double.ofLiteral? text = some d) : Meaning text (if d.isFinite then .double d else .null)

variable {text : String}

theorem Meaning.not_string {value : Json} (h : Meaning text value) (s : String) : value ≠ .string s := by
  cases h with
  | null | yes | no | integer => exact Json.noConfusion
  | float => split <;> exact Json.noConfusion

/-! ## Ids -/

theorem not_mem_of_isId {id : List Char} (h : isId id = true) {c : Char} (hc : isIdChar c = false) : c ∉ id := by
  intro hmem
  rw [isId, Bool.and_eq_true] at h
  rw [List.all_eq_true.mp h.2 c hmem] at hc
  cases hc

theorem unsigned_of_isId {id : List Char} (h : isId id = true) :
    ∀ c ∈ id, c ≠ '-' ∧ c ≠ '+' ∧ c ≠ '.' := by
  intro c hc
  refine ⟨?_, ?_, ?_⟩
  all_goals
    rintro rfl
    exact not_mem_of_isId h (by decide) hc

/-- No name of a float is an id. -/
theorem specialReals_of_isId (h : isId text.toList = true) : Node.specialReals.contains text = false := by
  rw [← Bool.not_eq_true, List.contains_iff_mem]
  intro hmem
  have hnone : ∀ name ∈ Node.specialReals, isId name.toList = false := by decide
  rw [hnone text hmem] at h
  cases h

/-- A marked integer is an integer of base sixteen or eight. -/
theorem markedInteger?_eq_some {id : List Char} (h : isId id = true) {i : Int} :
    Node.markedInteger? id = some i ↔ ∃ base digits n, base ≠ 10 ∧ IsInteger id base digits ∧
      digitsValue? base digits = some n ∧ n < twoPow 63 ∧ i = n := by
  have hunsigned := unsigned_of_isId h
  have hrest : ∀ {a b : Char} {digits : List Char}, id = a :: b :: digits →
      ∀ c ∈ digits, c ≠ '-' ∧ c ≠ '+' := by
    rintro a b digits rfl c hc
    have hc := hunsigned c (List.mem_cons_of_mem a (List.mem_cons_of_mem b hc))
    exact ⟨hc.1, hc.2.1⟩
  constructor
  · intro hi
    unfold Node.markedInteger? at hi
    split at hi
    · next digits =>
      obtain ⟨n, hn⟩ := (integer?_of_unsigned (hrest rfl) 16 i).mp hi
      exact ⟨16, digits, n, by decide, .hexadecimal rfl, hn⟩
    · next digits =>
      obtain ⟨n, hn⟩ := (integer?_of_unsigned (hrest rfl) 8 i).mp hi
      exact ⟨8, digits, n, by decide, .octal rfl, hn⟩
    · exact absurd rfl (hunsigned '+' List.mem_cons_self).2.1
    · cases hi
  · rintro ⟨base, digits, n, hbase, hinteger, hn⟩
    cases hinteger with
    | decimal => exact absurd rfl hbase
    | octal htext =>
      have hvalue := (integer?_of_unsigned (hrest htext) 8 i).mpr ⟨n, hn⟩
      subst htext
      exact hvalue
    | hexadecimal htext =>
      have hvalue := (integer?_of_unsigned (hrest htext) 16 i).mpr ⟨n, hn⟩
      subst htext
      exact hvalue

theorem any_isDigit_of_isScientific {digits : List Char} (h : IsScientific digits) :
    digits.any Char.isDigit = true := by
  obtain ⟨whole, rest, rfl, hne, hdigits, -⟩ := h
  obtain ⟨c, hc⟩ := List.exists_mem_of_ne_nil whole hne
  exact List.any_eq_true.mpr ⟨c, List.mem_append_left rest hc, List.all_eq_true.mp hdigits c hc⟩

theorem isReal_iff (h : isId text.toList = true) : Node.isReal text = true ↔
    IsScientific text.toList ∧ ∃ d, Number.Double.ofLiteral? text = some d := by
  have hunsigned := unsigned_of_isId h
  rw [Node.isReal, specialReals_of_isId h, Bool.false_or, Bool.and_eq_true, ← Option.isSome_iff_exists]
  constructor
  · rintro ⟨hdigit, hsome⟩
    exact ⟨(Number.Double.ofLiteral?_isSome_iff hunsigned hdigit).mp hsome, hsome⟩
  · rintro ⟨hscientific, hsome⟩
    exact ⟨any_isDigit_of_isScientific hscientific, hsome⟩

/-- The readers that a plain scalar goes through find every meaning that an id may have. -/
theorem not_meaning_of_isId (h : isId text.toList = true) (hmarked : Node.markedInteger? text.toList = none)
    (hnull : text ≠ "null") (hyes : ¬ (text = "true" ∨ text = "True" ∨ text = "TRUE"))
    (hno : ¬ (text = "false" ∨ text = "False" ∨ text = "FALSE"))
    (hdecimal : ∀ n, digitsValue? 10 text.toList = some n → twoPow 63 ≤ n) (hreal : Node.isReal text ≠ true)
    (value : Json) : ¬ Meaning text value := by
  intro hmeaning
  cases hmeaning with
  | null hword => exact hnull hword
  | yes hword => exact hyes hword
  | no hword => exact hno hword
  | float hscientific _ hd => exact hreal ((isReal_iff h).mpr ⟨hscientific, _, hd⟩)
  | @integer base n digits hinteger hvalue hsmall =>
    by_cases hbase : base = 10
    · subst hbase
      cases hinteger
      exact absurd (hdecimal n hvalue) (Nat.not_le_of_lt hsmall)
    · rw [(markedInteger?_eq_some h).mpr ⟨base, digits, n, hbase, hinteger, hvalue, hsmall, rfl⟩] at hmarked
      cases hmarked

/-- An id that has no other meaning is a text. -/
theorem toJson_ofPlain (h : isId text.toList = true) : ∃ value, (Node.ofPlain text).toJson = .ok value ∧
    (Meaning text value ∨ value = .string text ∧ ∀ other, ¬ Meaning text other) := by
  have hunsigned : ∀ c ∈ text.toList, c ≠ '-' ∧ c ≠ '+' := fun c hc =>
    (unsigned_of_isId h c hc).imp_right And.left
  have hdecimal := integer?_of_unsigned hunsigned 10
  -- one reader after the other, each with what the ones before it have passed over
  rw [Node.ofPlain]
  split
  · next i hi =>
    obtain ⟨base, digits, n, -, hinteger, hvalue, hsmall, rfl⟩ := (markedInteger?_eq_some h).mp hi
    exact ⟨_, rfl, .inl (.integer hinteger hvalue hsmall)⟩
  next hmarked =>
  split
  · next hnull =>
    have hnull : text = "null" := by
      rcases hnull with rfl | rfl | hnull
      · cases h
      · cases h
      · exact hnull
    exact ⟨_, rfl, .inl (.null hnull)⟩
  next hnull =>
  split
  · next hyes => exact ⟨_, rfl, .inl (.yes hyes)⟩
  next hyes =>
  split
  · next hno => exact ⟨_, rfl, .inl (.no hno)⟩
  next hno =>
  split
  · next i hi =>
    obtain ⟨n, hvalue, hsmall, rfl⟩ := (hdecimal i).mp hi
    exact ⟨_, rfl, .inl (.integer .decimal hvalue hsmall)⟩
  next hinteger =>
  have hgreat : ∀ n, digitsValue? 10 text.toList = some n → twoPow 63 ≤ n := by
    refine fun n hn => Nat.le_of_not_lt fun hlt => ?_
    rw [(hdecimal n).mpr ⟨n, hn, hlt, rfl⟩] at hinteger
    cases hinteger
  split
  · next hreal =>
    obtain ⟨hscientific, d, hd⟩ := (isReal_iff h).mp hreal
    refine ⟨_, ?_, .inl (.float hscientific hgreat hd)⟩
    rw [Node.toJson, Node.realToJson, hd]
  · next hreal =>
    have hword : text ≠ "null" := fun hword => hnull (.inr (.inr hword))
    exact ⟨_, rfl, .inr ⟨rfl, not_meaning_of_isId h hmarked hword hyes hno hgreat hreal⟩⟩

end SessionGate.Yaml
