import SessionGate.Text.Split

/-! # Replacing a text

`replaceText` goes through a text from the left: `replaceText_self` where it finds the old text,
`replaceText_cons` where it does not, `replaceText_append` for a part in which the old text does not begin. -/
namespace SessionGate.Text
set_option autoImplicit false

variable {old new text rest : List Char} {c : Char} {fuel : Nat}

theorem replaceAll_succ (hold : old ≠ []) : replaceAll old new (fuel + 1) (c :: rest) =
    if old.isPrefixOf (c :: rest) then new ++ replaceAll old new fuel ((c :: rest).drop old.length)
    else c :: replaceAll old new fuel rest := by
  rw [replaceAll, if_neg (by simpa using hold)]

/-- Each step takes a character, so it does not matter how much fuel there is beyond that. -/
theorem replaceAll_eq (hold : old ≠ []) (hfuel : text.length < fuel) :
    replaceAll old new fuel text = replaceText old new text := by
  have hany : ∀ {fuel fuel' : Nat} {text : List Char}, text.length < fuel → text.length < fuel' →
      replaceAll old new fuel text = replaceAll old new fuel' text := by
    intro fuel
    induction fuel with
    | zero => exact fun h => absurd h (Nat.not_lt_zero _)
    | succ fuel ih =>
      intro fuel' text h h'
      cases fuel' with
      | zero => exact absurd h' (Nat.not_lt_zero _)
      | succ fuel' =>
        cases text with
        | nil => rw [replaceAll, replaceAll]
        | cons c rest =>
          have hlength : 0 < old.length := List.length_pos_iff.mpr hold
          have hdrop : ((c :: rest).drop old.length).length ≤ rest.length := by
            rw [List.length_drop, List.length_cons]
            omega
          rw [List.length_cons] at h h'
          have hshorter : ∀ {shorter : List Char}, shorter.length ≤ rest.length →
              replaceAll old new fuel shorter = replaceAll old new fuel' shorter :=
            fun hle => ih (by omega) (by omega)
          rw [replaceAll_succ hold, replaceAll_succ hold, hshorter hdrop, hshorter (Nat.le_refl _)]
  exact hany hfuel (Nat.lt_succ_self _)

theorem replaceText_nil (hold : old ≠ []) : replaceText old new [] = [] := by
  simp [replaceText, replaceAll, hold]

theorem replaceText_self (hold : old ≠ []) : replaceText old new (old ++ rest) = new ++ replaceText old new rest := by
  obtain ⟨c, more, rfl⟩ := List.exists_cons_of_ne_nil hold
  rw [replaceText, List.cons_append, replaceAll_succ hold, if_pos (by simp [List.isPrefixOf_iff_prefix]),
    ← List.cons_append, List.drop_left,
    replaceAll_eq hold (by simp only [List.length_append, List.length_cons]; omega)]

theorem replaceText_cons (h : ¬ old <+: c :: rest) :
    replaceText old new (c :: rest) = c :: replaceText old new rest := by
  have hold : old ≠ [] := by
    rintro rfl
    exact h List.nil_prefix
  rw [replaceText, replaceAll_succ hold, if_neg (by rwa [List.isPrefixOf_iff_prefix]),
    replaceAll_eq hold (by simp)]

/-- Nothing is replaced in a part in which the old text does not begin. -/
theorem replaceText_append (h : ∀ c after, c :: after <:+ text → ¬ old <+: c :: after ++ rest) :
    replaceText old new (text ++ rest) = text ++ replaceText old new rest := by
  induction text with
  | nil => rfl
  | cons c text ih =>
    have hhere : ¬ old <+: c :: (text ++ rest) := h c text List.suffix_rfl
    have hbehind : ∀ d after, d :: after <:+ text → ¬ old <+: d :: after ++ rest :=
      fun d after hsuffix => h d after (hsuffix.trans (List.suffix_cons c text))
    rw [List.cons_append, replaceText_cons hhere, ih hbehind, List.cons_append]

theorem replaceText_append_of_not_mem {first : Char} {more : List Char} (h : first ∉ text) :
    replaceText (first :: more) new (text ++ rest) = text ++ replaceText (first :: more) new rest := by
  refine replaceText_append fun c after hsuffix hbegins => h ?_
  rw [List.cons_append, List.cons_prefix_cons] at hbegins
  rw [hbegins.1]
  exact hsuffix.subset List.mem_cons_self

end SessionGate.Text
