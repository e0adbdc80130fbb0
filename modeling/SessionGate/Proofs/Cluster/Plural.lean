import Mathlib.Data.List.Infix
import SessionGate.Cluster.Resource

/-! # The plural of a kind

The collection of a kind is named by the plural of its lower-case form, and the API server knows it by
that name alone. A few plurals are given in a table, the others follow the ending.

* `SimplePlural`: the plural of a noun by its ending; a final `y` depends on the vowel before it.
* `existsUnique_simplePlural`: these rules give each noun one plural.
* `simplePlural_regularPlural_iff`: `regularPlural` gives it to all nouns but those in `iy`, `oy` and `uy`.
* `pluralize_simple_iff`: the same of the kinds that are not in the table.
-/
namespace SessionGate.Cluster
set_option autoImplicit false

def vowels : List Char := ['a', 'e', 'i', 'o', 'u']

/-- The vowels before which a `y` stays. -/
def keepingVowels : List Char := ['a', 'e']

/-- The vowels before which a `y` is treated as it is after a consonant. -/
def overlookedVowels : List Char := ['i', 'o', 'u']

/-- The noun ends in a `y` behind one of the letters. -/
def YBehind (letters noun : List Char) : Prop := ∃ v ∈ letters, [v, 'y'] <:+ noun

instance (letters noun : List Char) : Decidable (YBehind letters noun) :=
  List.decidableBEx (fun v => [v, 'y'] <:+ noun) letters

def sibilants : List (List Char) := [['s'], ['c', 'h'], ['s', 'h']]

/-- The noun ends in one of the sibilants. -/
def Sibilant (noun : List Char) : Prop := ∃ ending ∈ sibilants, ending <:+ noun

/-- The plural of a noun by its ending. -/
inductive SimplePlural (noun : List Char) : List Char → Prop
  | sibilant (h : Sibilant noun) : SimplePlural noun (noun ++ ['e', 's'])
  | consonant (hy : ['y'] <:+ noun) (h : ¬ YBehind vowels noun) :
    SimplePlural noun (noun.dropLast ++ ['i', 'e', 's'])
  | vowel (h : YBehind vowels noun) : SimplePlural noun (noun ++ ['s'])
  | other (hsibilant : ¬ Sibilant noun) (hy : ¬ ['y'] <:+ noun) : SimplePlural noun (noun ++ ['s'])

variable {letters noun ending plural other : List Char} {kind : String} {v w : Char}

/-! ## Endings -/

theorem endsWith_iff : endsWith ending noun = true ↔ ending <:+ noun := by
  rw [endsWith, List.isPrefixOf_iff_prefix, List.reverse_prefix]

theorem YBehind.ends (h : YBehind letters noun) : ['y'] <:+ noun := by
  obtain ⟨v, -, hv⟩ := h
  have hy : ['y'] <:+ [v, 'y'] := List.suffix_cons v ['y']
  exact hy.trans hv

theorem not_sibilant_of_y (hy : ['y'] <:+ noun) : ¬ Sibilant noun := by
  rintro ⟨ending, hmem, hending⟩
  have hcut : ∀ ending ∈ sibilants, ['y'].length ≤ ending.length ∧ ¬ ['y'] <:+ ending := by decide
  obtain ⟨hlength, hnot⟩ := hcut ending hmem
  exact hnot (List.suffix_of_suffix_length_le hy hending hlength)

theorem eq_of_y_behind (hv : [v, 'y'] <:+ noun) (hw : [w, 'y'] <:+ noun) : v = w := by
  have hsame : [v, 'y'] <:+ [w, 'y'] := List.suffix_of_suffix_length_le hv hw (Nat.le_refl 2)
  have heq : [v, 'y'] = [w, 'y'] := hsame.eq_of_length rfl
  exact (List.cons.inj heq).1

theorem yBehind_vowels : YBehind vowels noun ↔ YBehind keepingVowels noun ∨ YBehind overlookedVowels noun := by
  have hsplit : vowels = keepingVowels ++ overlookedVowels := rfl
  simp only [YBehind, hsplit, List.mem_append, or_and_right, exists_or]

theorem not_keeping_of_overlooked (h : YBehind overlookedVowels noun) : ¬ YBehind keepingVowels noun := by
  rintro ⟨w, hw, hkept⟩
  obtain ⟨v, hv, hbehind⟩ := h
  obtain rfl := eq_of_y_behind hbehind hkept
  have hapart : overlookedVowels.Disjoint keepingVowels := by
    simp [overlookedVowels, keepingVowels]
  exact hapart hv hw

/-! ## The simple rules -/

/-- No two rules apply to one noun, and one of them does. -/
theorem existsUnique_simplePlural (noun : List Char) : ∃! plural, SimplePlural noun plural := by
  by_cases hy : ['y'] <:+ noun
  · have hsibilant := not_sibilant_of_y hy
    by_cases hvowel : YBehind vowels noun
    · refine ⟨_, .vowel hvowel, fun plural h => ?_⟩
      cases h with
      | sibilant h => exact absurd h hsibilant
      | consonant _ h => exact absurd hvowel h
      | vowel => rfl
      | other => rfl
    · refine ⟨_, .consonant hy hvowel, fun plural h => ?_⟩
      cases h with
      | sibilant h => exact absurd h hsibilant
      | consonant => rfl
      | vowel h => exact absurd h hvowel
      | other _ h => exact absurd hy h
  · by_cases hsibilant : Sibilant noun
    · refine ⟨_, .sibilant hsibilant, fun plural h => ?_⟩
      cases h with
      | sibilant => rfl
      | consonant h => exact absurd h hy
      | vowel h => exact absurd h.ends hy
      | other h => exact absurd hsibilant h
    · refine ⟨_, .other hsibilant hy, fun plural h => ?_⟩
      cases h with
      | sibilant h => exact absurd h hsibilant
      | consonant h => exact absurd h hy
      | vowel => rfl
      | other => rfl

theorem SimplePlural.unique (h : SimplePlural noun plural) (hother : SimplePlural noun other) :
    plural = other :=
  (existsUnique_simplePlural noun).unique h hother

/-! ## What a kind gets -/

theorem regularPlural_of_sibilant (h : Sibilant noun) : regularPlural noun = noun ++ ['e', 's'] := by
  have hends : ['s'] <:+ noun ∨ ['c', 'h'] <:+ noun ∨ ['s', 'h'] <:+ noun := by
    simpa [Sibilant, sibilants] using h
  simp only [regularPlural, Bool.or_eq_true, endsWith_iff, or_assoc, if_pos hends]

theorem regularPlural_of_not_sibilant (h : ¬ Sibilant noun) : regularPlural noun =
    if ['y'] <:+ noun ∧ ¬ YBehind keepingVowels noun then noun.dropLast ++ ['i', 'e', 's'] else noun ++ ['s'] := by
  have hends : ¬ (['s'] <:+ noun ∨ ['c', 'h'] <:+ noun ∨ ['s', 'h'] <:+ noun) := by
    simpa [Sibilant, sibilants] using h
  have hkept : YBehind keepingVowels noun ↔ ['a', 'y'] <:+ noun ∨ ['e', 'y'] <:+ noun := by
    simp [YBehind, keepingVowels]
  simp only [regularPlural, Bool.or_eq_true, Bool.and_eq_true, Bool.not_eq_true', ← Bool.not_eq_true,
    endsWith_iff, or_assoc, if_neg hends, hkept, not_or, and_assoc]

theorem regularPlural_of_overlooked (h : YBehind overlookedVowels noun) :
    regularPlural noun = noun.dropLast ++ ['i', 'e', 's'] := by
  rw [regularPlural_of_not_sibilant (not_sibilant_of_y h.ends),
    if_pos ⟨h.ends, not_keeping_of_overlooked h⟩]

theorem simplePlural_regularPlural (h : ¬ YBehind overlookedVowels noun) :
    SimplePlural noun (regularPlural noun) := by
  by_cases hsibilant : Sibilant noun
  · rw [regularPlural_of_sibilant hsibilant]
    exact .sibilant hsibilant
  · rw [regularPlural_of_not_sibilant hsibilant]
    have hvowel : YBehind vowels noun ↔ YBehind keepingVowels noun := by
      rw [yBehind_vowels, or_iff_left h]
    by_cases hy : ['y'] <:+ noun
    · by_cases hkept : YBehind keepingVowels noun
      · rw [if_neg fun hturned => hturned.2 hkept]
        exact .vowel (hvowel.mpr hkept)
      · rw [if_pos ⟨hy, hkept⟩]
        exact .consonant hy (mt hvowel.mp hkept)
    · rw [if_neg fun hturned => hy hturned.1]
      exact .other hsibilant hy

theorem simplePlural_regularPlural_iff :
    SimplePlural noun (regularPlural noun) ↔ ¬ YBehind overlookedVowels noun := by
  refine ⟨fun h hoverlooked => ?_, simplePlural_regularPlural⟩
  have hvowel : YBehind vowels noun := yBehind_vowels.mpr (.inr hoverlooked)
  have hsame : regularPlural noun = noun ++ ['s'] := h.unique (.vowel hvowel)
  rw [regularPlural_of_overlooked hoverlooked] at hsame
  -- one letter is dropped and three are added, where one is to be added
  have hlength := congrArg List.length hsame
  have hlast : 0 < noun.length := hvowel.ends.length_le
  simp only [List.length_append, List.length_dropLast, List.length_cons, List.length_nil] at hlength
  omega

theorem toList_pluralize (h : Text.lower kind ∉ irregularPlurals.map Prod.fst) :
    (pluralize kind).toList = regularPlural (Text.lower kind).toList := by
  have hnone : irregularPlurals.lookup (Text.lower kind) = none := by
    refine List.lookup_eq_none_iff.mpr fun entry hentry => ?_
    rw [bne_iff_ne]
    intro heq
    rw [heq] at h
    exact h (List.mem_map_of_mem hentry)
  simp only [pluralize, hnone, String.toList_ofList]

/-- A kind outside the table gets its simple plural exactly when its lower-case form does not end in `iy`,
`oy` or `uy`; a `y` at the end of these turns into `ies`. -/
theorem pluralize_simple_iff (kind : String) (h : Text.lower kind ∉ irregularPlurals.map Prod.fst) :
    (SimplePlural (Text.lower kind).toList (pluralize kind).toList ↔
        ¬ YBehind overlookedVowels (Text.lower kind).toList) ∧
      (YBehind overlookedVowels (Text.lower kind).toList →
        (pluralize kind).toList = (Text.lower kind).toList.dropLast ++ ['i', 'e', 's']) := by
  rw [toList_pluralize h]
  exact ⟨simplePlural_regularPlural_iff, regularPlural_of_overlooked⟩

/-- The lower-case form has a combining dot before the `y`, which is no vowel; an `o` is one. -/
theorem pluralize_simple_iff_dotted :
    SimplePlural (Text.lower "\u0130Y").toList (pluralize "\u0130Y").toList ∧
      (pluralize "Envoy").toList = (Text.lower "Envoy").toList.dropLast ++ ['i', 'e', 's'] := by
  have hdotted : Text.lower "\u0130Y" ∉ irregularPlurals.map Prod.fst := by decide +kernel
  have henvoy : Text.lower "Envoy" ∉ irregularPlurals.map Prod.fst := by decide +kernel
  exact ⟨(pluralize_simple_iff _ hdotted).1.mpr (by decide +kernel),
    (pluralize_simple_iff _ henvoy).2 (by decide +kernel)⟩

theorem envoys_are_missed :
    pluralize "Envoy" = "envoies" ∧ SimplePlural (Text.lower "Envoy").toList "envoys".toList ∧
      ¬ ∀ kind, Text.lower kind ∉ irregularPlurals.map Prod.fst →
        SimplePlural (Text.lower kind).toList (pluralize kind).toList := by
  have hplural : pluralize "Envoy" = "envoies" := by decide +kernel
  have hlower : (Text.lower "Envoy").toList = ['e', 'n', 'v', 'o', 'y'] := by decide +kernel
  have hsimple : SimplePlural (Text.lower "Envoy").toList "envoys".toList := by
    rw [hlower]
    exact .vowel (by decide)
  refine ⟨hplural, hsimple, fun h => ?_⟩
  have hsame := (h "Envoy" (by decide +kernel)).unique hsimple
  rw [hplural] at hsame
  exact absurd hsame (by decide)

end SessionGate.Cluster
