import Mathlib.Data.Nat.Digits.Defs
import SessionGate.Proofs.Json.Place

/-! # Places beside a change

* `Pointer.index?_inj`: an item of an array has one index, and an index one written form.
* `child?_setChild?_beside`: a child leaves the children of other tokens alone.
* `pointer?_alter?_beside`: a change at a place leaves every place alone that neither holds it nor lies in it.
* `exists_alter?`: a change applies where it applies to the value that is there.
-/
namespace SessionGate.Json
set_option autoImplicit false

/-! ## Indices -/

namespace Pointer

variable {token token' : String} {n : Nat}

/-- Value of a decimal digit. -/
def digit (c : Char) : Nat := c.toNat - '0'.toNat

theorem toNat_of_isDigit {c : Char} (h : c.isDigit = true) : c.toNat = 48 + digit c ∧ digit c < 10 := by
  simp only [Char.isDigit, Bool.and_eq_true, decide_eq_true_eq, UInt32.le_iff_toNat_le] at h
  have hlow : '0'.val.toNat = 48 := rfl
  have hhigh : '9'.val.toNat = 57 := rfl
  have hzero : '0'.toNat = 48 := rfl
  have htoNat : c.toNat = c.val.toNat := rfl
  rw [digit]
  omega

theorem ofNat_digit {c : Char} (h : c.isDigit = true) : Char.ofNat (48 + digit c) = c := by
  rw [← (toNat_of_isDigit h).1, Char.ofNat_toNat]

/-- Digits are known by their values. -/
theorem map_digit {text : List Char} (h : text.all Char.isDigit = true) :
    (text.map digit).map (fun v => Char.ofNat (48 + v)) = text := by
  induction text with
  | nil => rfl
  | cons c rest ih =>
    rw [List.all_cons, Bool.and_eq_true] at h
    rw [List.map_cons, List.map_cons, ofNat_digit h.1, ih h.2]

theorem foldl_digit (digits : List Char) :
    digits.foldl (fun n c => 10 * n + (c.toNat - '0'.toNat)) 0 = Nat.ofDigits 10 (digits.map digit).reverse := by
  rw [Nat.ofDigits_eq_foldr, List.foldr_reverse, List.foldl_map]
  simp [digit, Nat.add_comm]

/-- An index is written with its decimal digits. -/
theorem digits_of_index? (h : index? token = some n) : token.toList.all Char.isDigit = true ∧
    (token.toList.map digit).reverse = if n = 0 then [0] else Nat.digits 10 n := by
  rw [index?] at h
  split at h
  · cases h
  · next hzero =>
    obtain rfl := Option.some.inj h
    rw [hzero]
    decide
  · cases h
  · next hne hone hzero =>
    split at h
    · next hdigits =>
      refine ⟨hdigits, ?_⟩
      obtain ⟨d, ds, htoken⟩ := List.exists_cons_of_ne_nil hne
      have hfirst : digit d ≠ 0 := by
        intro hd
        have hdigit : d.isDigit = true := List.all_eq_true.mp hdigits d (by simp [htoken])
        rw [← ofNat_digit hdigit, hd] at htoken
        exact hzero ds htoken
      have hlt : ∀ v ∈ (token.toList.map digit).reverse, v < 10 := by
        intro v hv
        obtain ⟨c, hc, rfl⟩ := List.mem_map.mp (List.mem_reverse.mp hv)
        exact (toNat_of_isDigit (List.all_eq_true.mp hdigits c hc)).2
      -- no leading zero, so the digits are those of the number
      have hvalue := Nat.digits_ofDigits 10 (by decide) _ hlt (fun _ => by simpa [htoken] using hfirst)
      rw [← foldl_digit, Option.some.inj h] at hvalue
      rw [if_neg ?_, hvalue]
      rintro rfl
      simp [htoken] at hvalue
    · cases h

theorem index?_inj (h : index? token = some n) (h' : index? token' = some n) : token = token' := by
  obtain ⟨hdigits, hvalues⟩ := digits_of_index? h
  obtain ⟨hdigits', hvalues'⟩ := digits_of_index? h'
  have hmap := List.reverse_inj.mp (hvalues.trans hvalues'.symm)
  rw [← String.toList_inj, ← map_digit hdigits, hmap, map_digit hdigits']

end Pointer

/-! ## Children beside a child -/

variable {value value' child child' c c' : Json} {token other : String} {f : Json → Option Json}
  {path place : Pointer}

theorem child?_setChild?_beside (h : value.setChild? token child = some value') (hne : other ≠ token) :
    value'.child? other = value.child? other := by
  cases value with
  | object members => exact child?_setChild?_ne h hne
  | array items =>
    obtain ⟨i, hi, h⟩ := Option.bind_eq_some_iff.mp h
    split at h
    · obtain rfl := Option.some.inj h
      rw [child?, child?]
      cases hj : Pointer.index? other with
      | none => rfl
      | some j =>
        have hij : i ≠ j := by
          rintro rfl
          exact hne (Pointer.index?_inj hj hi)
        rw [Option.bind_some, Option.bind_some, List.getElem?_set_ne hij]
    · cases h
  | _ => cases h

/-- A child that is there can be replaced. -/
theorem exists_setChild? (h : value.child? token = some child) (child' : Json) :
    ∃ value', value.setChild? token child' = some value' := by
  cases value with
  | object members =>
    have hm : Members.get? members token = some child := h
    exact ⟨_, by rw [setChild?, hm, Option.map_some]⟩
  | array items =>
    obtain ⟨i, hi, h⟩ := Option.bind_eq_some_iff.mp h
    obtain ⟨hlt, -⟩ := List.getElem?_eq_some_iff.mp h
    exact ⟨_, by rw [setChild?, hi, Option.bind_some, if_pos hlt]⟩
  | _ => cases h

/-! ## Places beside a place -/

theorem pointer?_append (value : Json) (path rest : Pointer) :
    value.pointer? (path ++ rest) = (value.pointer? path).bind (pointer? · rest) := by
  induction path generalizing value with
  | nil => rfl
  | cons token path ih =>
    rw [List.cons_append, pointer?, pointer?, Option.bind_assoc]
    exact congrArg _ (funext ih)

/-- A change leaves every place alone that neither holds the place of the change nor lies in it. -/
theorem pointer?_alter?_beside (h : alter? f value path = some value') (hbelow : ¬ path <+: place)
    (habove : ¬ place <+: path) : value'.pointer? place = value.pointer? place := by
  induction path generalizing value value' place with
  | nil => exact absurd (List.nil_prefix) hbelow
  | cons token path ih =>
    obtain ⟨child, hchild, h⟩ := Option.bind_eq_some_iff.mp h
    obtain ⟨child', halter, hset⟩ := Option.bind_eq_some_iff.mp h
    cases place with
    | nil => exact absurd (List.nil_prefix) habove
    | cons other place =>
      rw [pointer?, pointer?]
      by_cases hother : other = token
      · subst hother
        rw [List.cons_prefix_cons, not_and] at hbelow habove
        rw [hchild, child?_setChild?_self hset]
        exact ih halter (hbelow rfl) (habove rfl)
      · rw [child?_setChild?_beside hset hother]

/-- A change applies where it applies to the value that is there. -/
theorem exists_alter? (hc : value.pointer? path = some c) (hf : f c = some c') :
    ∃ value', alter? f value path = some value' := by
  induction path generalizing value with
  | nil =>
    obtain rfl := Option.some.inj hc
    exact ⟨c', hf⟩
  | cons token path ih =>
    obtain ⟨child, hchild, hc⟩ := Option.bind_eq_some_iff.mp hc
    obtain ⟨child', halter⟩ := ih hc
    obtain ⟨value', hset⟩ := exists_setChild? hchild child'
    exact ⟨value', by rw [alter?, hchild, Option.bind_some, halter, Option.bind_some, hset]⟩

end SessionGate.Json
