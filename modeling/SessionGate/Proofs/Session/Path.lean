import Mathlib
import SessionGate.Proofs.Session.Alphabet

/-! # Session paths in a text

* `fold`: the case folding of characters, as far as it leads to ASCII. `foldsTo_iff` and `isIdLetter_iff`
  say by it what the search compares.
* `PathAt`: at a position of a text stands the session path, and an id behind it.
* `findId?_eq_some_iff`: the search finds the whole id behind the first such position.
* `inUrl?_leftmost`: so it is for URLs, and a token is found exactly where there is such a position.
* `publicPath_inverse`: the path that is written for a session is read as that session wherever no other
  session path is in the way, and a URL gives the same tokens as a bare text.
-/
namespace SessionGate.Session.Token
set_option autoImplicit false

/-! ## Case -/

/-- Simple case folding. Two characters beyond ASCII fold into it, the long s and the Kelvin sign; the
others are equal to no ASCII character up to the case, and are left as they are. -/
def fold (c : Char) : Char :=
  if c = '\u017f' then 's' else if c = '\u212a' then 'k' else c.toLower

/-- The class of the lower-case letters and the digits has the character up to the case. -/
def IsIdLetter (c : Char) : Prop := (fold c).isLower = true ∨ (fold c).isDigit = true

variable {path text rest id : List Char} {c p : Char} {n : Nat}

theorem foldsTo_iff (hp : fold p = p) : foldsTo p c = true ↔ fold c = p := by
  simp only [foldsTo, Bool.or_eq_true, Bool.and_eq_true, beq_iff_eq]
  constructor
  · rintro (((rfl | hlower) | ⟨rfl, rfl⟩) | ⟨rfl, rfl⟩)
    · exact hp
    · rw [fold]
      split
      · next hs =>
        rw [hs] at hlower
        rw [← hlower] at hp
        exact absurd hp (by decide)
      · split
        · next hk =>
          rw [hk] at hlower
          rw [← hlower] at hp
          exact absurd hp (by decide)
        · exact hlower
    · decide
    · decide
  · intro h
    rw [fold] at h
    split at h
    · next hs => exact .inl (.inr ⟨h.symm, hs⟩)
    · split at h
      · next hk => exact .inr ⟨h.symm, hk⟩
      · exact .inl (.inl (.inr h))

theorem isDigit_toLower : c.toLower.isDigit = c.isDigit := by
  simp only [Char.isDigit, Char.toLower]
  split <;> grind [UInt32.toNat_add]

theorem isIdLetter_iff : IsIdLetter c ↔ isIdChar c = true := by
  rw [isIdChar_iff, IsIdLetter, fold]
  split
  · next hs => simp [folding, hs]
  · next hs =>
    split
    · next hk => simp [folding, hk]
    · next hk => simp [folding, hs, hk, isDigit_toLower, Char.isAlphanum]

theorem map_fold_pathLetters : pathLetters.map fold = pathLetters := by decide

theorem fold_of_mem_pathLetters : ∀ p ∈ pathLetters, fold p = p :=
  List.map_inj_left.mp (map_fold_pathLetters.trans (List.map_id _).symm)

theorem not_isIdLetter_slash : ¬ IsIdLetter '/' := by
  rw [isIdLetter_iff]
  decide

/-! ## The start of a text -/

theorem afterPath?_eq_some_iff (hpath : ∀ p ∈ path, fold p = p) :
    afterPath? path text = some rest ↔ ∃ front, text = front ++ rest ∧ front.map fold = path := by
  induction path generalizing text with
  | nil =>
    constructor
    · intro h
      exact ⟨[], Option.some.inj h, rfl⟩
    · rintro ⟨front, rfl, hfront⟩
      rw [List.map_eq_nil_iff.mp hfront]
      rfl
  | cons p path ih =>
    obtain ⟨hp, hpath⟩ := List.forall_mem_cons.mp hpath
    cases text with
    | nil =>
      constructor
      · intro h
        cases h
      · rintro ⟨front, hnil, hfront⟩
        rw [(List.append_eq_nil_iff.mp hnil.symm).1] at hfront
        cases hfront
    | cons c text =>
      rw [afterPath?]
      constructor
      · intro h
        split at h
        · next hfolds =>
          obtain ⟨front, rfl, rfl⟩ := (ih hpath).mp h
          exact ⟨c :: front, rfl, congrArg (· :: front.map fold) ((foldsTo_iff hp).mp hfolds)⟩
        · cases h
      · rintro ⟨_ | ⟨first, front⟩, htext, hfront⟩
        · cases hfront
        · obtain ⟨rfl, rfl⟩ := List.cons.inj htext
          obtain ⟨hfolds, hfront⟩ := List.cons.inj hfront
          rw [if_pos ((foldsTo_iff hp).mpr hfolds)]
          exact (ih hpath).mpr ⟨front, rfl, hfront⟩

/-- An id, and behind it nothing or what is no letter of an id. -/
structure IsRun (id rest : List Char) : Prop where
  nonempty : id ≠ []
  letters : ∀ c ∈ id, IsIdLetter c
  ends : ∀ c, rest.head? = some c → ¬ IsIdLetter c

theorem takeWhile_isIdChar_eq : text.takeWhile isIdChar = id ∧ id ≠ [] ↔
    ∃ rest, text = id ++ rest ∧ IsRun id rest := by
  constructor
  · rintro ⟨rfl, hne⟩
    refine ⟨text.dropWhile isIdChar, List.takeWhile_append_dropWhile.symm, hne, fun c hc => ?_, ?_⟩
    · exact isIdLetter_iff.mpr (List.all_eq_true.mp List.all_takeWhile c hc)
    · intro c hc
      have hstop := List.head?_dropWhile_not isIdChar text
      rw [hc] at hstop
      rw [isIdLetter_iff, hstop]
      exact Bool.false_ne_true
  · rintro ⟨rest, rfl, hrun⟩
    refine ⟨?_, hrun.nonempty⟩
    rw [List.takeWhile_append_of_pos fun c hc => isIdLetter_iff.mp (hrun.letters c hc)]
    cases rest with
    | nil => rw [List.takeWhile_nil, List.append_nil]
    | cons c rest =>
      have hc : ¬ isIdChar c = true := fun hc => hrun.ends c rfl (isIdLetter_iff.mpr hc)
      rw [List.takeWhile_cons_of_neg hc, List.append_nil]

theorem idHere?_eq_some_iff : idHere? text = some id ↔
    ∃ path rest, text = path ++ (id ++ rest) ∧ path.map fold = pathLetters ∧ IsRun id rest := by
  have hpath : ∀ {rest}, afterPath? pathLetters text = some rest ↔ _ :=
    afterPath?_eq_some_iff fold_of_mem_pathLetters
  rw [idHere?]
  constructor
  · intro h
    split at h
    · next behind hbehind =>
      obtain ⟨path, rfl, hfold⟩ := hpath.mp hbehind
      dsimp only at h
      split at h
      · cases h
      · next hne =>
        obtain ⟨rest, hrest, hrun⟩ := takeWhile_isIdChar_eq.mp
          ⟨Option.some.inj h, fun hnil => hne (by rw [Option.some.inj h, hnil]; rfl)⟩
        exact ⟨path, rest, by rw [hrest], hfold, hrun⟩
    · cases h
  · rintro ⟨path, rest, htext, hfold, hrun⟩
    obtain ⟨htake, hne⟩ := takeWhile_isIdChar_eq.mpr ⟨rest, rfl, hrun⟩
    rw [hpath.mpr ⟨path, htext, hfold⟩]
    dsimp only
    rw [htake, if_neg (by simpa using hne)]

/-! ## Positions -/

/-- At this position of a text stands the session path up to the case, and a letter of an id behind it. -/
def PathAt (text : List Char) (n : Nat) : Prop :=
  ∃ path c rest, text.drop n = path ++ c :: rest ∧ path.map fold = pathLetters ∧ IsIdLetter c

/-- The whole id behind the leftmost session path that has one. -/
def IsLeftmost (text id : List Char) : Prop :=
  ∃ before path rest, text = before ++ (path ++ (id ++ rest)) ∧ path.map fold = pathLetters ∧
    IsRun id rest ∧ ∀ n < before.length, ¬ PathAt text n

theorem pathAt_zero_iff : PathAt text 0 ↔ ∃ id, idHere? text = some id := by
  constructor
  · rintro ⟨path, c, rest, htext, hfold, hc⟩
    have hne : (c :: rest).takeWhile isIdChar ≠ [] := by
      rw [List.takeWhile_cons_of_pos (isIdLetter_iff.mp hc)]
      exact List.cons_ne_nil _ _
    obtain ⟨behind, hbehind, hrun⟩ := takeWhile_isIdChar_eq.mp ⟨rfl, hne⟩
    exact ⟨_, idHere?_eq_some_iff.mpr ⟨path, behind, by rw [← hbehind, ← htext, List.drop_zero], hfold, hrun⟩⟩
  · rintro ⟨id, hid⟩
    obtain ⟨path, rest, rfl, hfold, hrun⟩ := idHere?_eq_some_iff.mp hid
    obtain ⟨c, id, rfl⟩ := List.exists_cons_of_ne_nil hrun.nonempty
    exact ⟨path, c, id ++ rest, rfl, hfold, hrun.letters c (List.mem_cons_self ..)⟩

theorem not_pathAt_nil : ¬ PathAt [] n := by
  rintro ⟨path, c, rest, hnil, -⟩
  rw [List.drop_nil] at hnil
  exact List.cons_ne_nil c rest (List.append_eq_nil_iff.mp hnil.symm).2

theorem findId?_eq_some_iff : findId? text = some id ↔ IsLeftmost text id := by
  induction text with
  | nil =>
    constructor
    · intro h
      cases h
    · rintro ⟨before, path, rest, hnil, -, hrun, -⟩
      simp [hrun.nonempty] at hnil
  | cons c text ih =>
    rw [findId?]
    split
    · next found hfound =>
      constructor
      · intro h
        obtain ⟨path, rest, htext, hfold, hrun⟩ := idHere?_eq_some_iff.mp (hfound.trans h)
        exact ⟨[], path, rest, htext, hfold, hrun, fun n hn => absurd hn (Nat.not_lt_zero n)⟩
      · rintro ⟨_ | ⟨b, before⟩, path, rest, htext, hfold, hrun, hfirst⟩
        · rw [← hfound, idHere?_eq_some_iff]
          exact ⟨path, rest, htext, hfold, hrun⟩
        · exact absurd (pathAt_zero_iff.mpr ⟨found, hfound⟩) (hfirst 0 (Nat.zero_lt_succ _))
    · next hnone =>
      have hzero : ¬ PathAt (c :: text) 0 := by
        rw [pathAt_zero_iff, hnone]
        rintro ⟨found, hfound⟩
        cases hfound
      rw [ih]
      constructor
      · rintro ⟨before, path, rest, rfl, hfold, hrun, hfirst⟩
        refine ⟨c :: before, path, rest, rfl, hfold, hrun, fun n hn => ?_⟩
        cases n with
        | zero => exact hzero
        | succ n => exact hfirst n (Nat.lt_of_succ_lt_succ hn)
      · rintro ⟨_ | ⟨b, before⟩, path, rest, htext, hfold, hrun, hfirst⟩
        · have hhere := idHere?_eq_some_iff.mpr ⟨path, rest, htext, hfold, hrun⟩
          rw [hnone] at hhere
          cases hhere
        · obtain ⟨rfl, rfl⟩ := List.cons.inj htext
          exact ⟨before, path, rest, rfl, hfold, hrun, fun n hn => hfirst (n + 1) (Nat.succ_lt_succ hn)⟩

theorem findId?_eq_none_iff : findId? text = none ↔ ∀ n, ¬ PathAt text n := by
  induction text with
  | nil => exact ⟨fun _ _ => not_pathAt_nil, fun _ => rfl⟩
  | cons c text ih =>
    rw [findId?]
    split
    · next found hfound =>
      constructor
      · intro h
        cases h
      · intro h
        exact absurd (pathAt_zero_iff.mpr ⟨found, hfound⟩) (h 0)
    · next hnone =>
      rw [ih]
      constructor
      · intro h n
        cases n with
        | zero =>
          rw [pathAt_zero_iff, hnone]
          rintro ⟨found, hfound⟩
          cases hfound
        | succ n => exact h n
      · intro h n
        exact h (n + 1)

theorem inUrl?_eq_none_iff {url : String} : inUrl? url = none ↔ ∀ n, ¬ PathAt url.toList n := by
  rw [← findId?_eq_none_iff, inUrl?]
  split
  · next found hfound => simp [hfound]
  · next hnone => simp [hnone]

/-- A token is found in a URL exactly where at some position the session path stands up to the case, with
a letter of an id behind it; and it is the whole id behind the leftmost such position, letter by letter. -/
theorem inUrl?_leftmost (url : String) :
    ((∃ token, inUrl? url = some token) ↔ ∃ n, PathAt url.toList n) ∧
      ∀ token, inUrl? url = some token ↔ IsLeftmost url.toList token.text.toList := by
  constructor
  · rw [← Option.isSome_iff_exists, ← Option.ne_none_iff_isSome, ne_eq, inUrl?_eq_none_iff]
    simp
  · intro token
    rw [inUrl?_eq_some, findId?_eq_some_iff]

/-- A path without an id does not hide the one that begins where it ends. -/
example : (inUrl? "/session/carta//session/CARTA/x-y").map (·.text) = some "x" := by decide +kernel

/-! ## Paths that are written -/

theorem pathLetters_eq : pathLetters = '/' :: 's' :: "ession/carta/".toList := by decide

theorem pathLetters_eq_append : pathLetters = "/session/carta".toList ++ ['/'] := by decide

theorem eq_nil_of_pathLetters {front behind : List Char} (h : front ++ '/' :: 's' :: behind = pathLetters) :
    front = [] := by
  have hplaces : ∀ k < pathLetters.length,
      pathLetters[k]? = some '/' → pathLetters[k + 1]? = some 's' → k = 0 := by decide
  have hlength : front.length < pathLetters.length := by
    rw [← h, List.length_append]
    simp
  refine List.length_eq_zero_iff.mp (hplaces front.length hlength ?_ ?_)
  · simp [← h]
  · simp [← h]

/-- Behind a text without a session path, which does not lack just the last slash of one, no path begins
before the one that is written there. -/
theorem not_pathAt_append (hfree : ∀ n, ¬ PathAt text n)
    (hend : ¬ "/session/carta".toList <:+ text.map fold) (hn : n < text.length) :
    ¬ PathAt (text ++ (pathLetters ++ rest)) n := by
  rintro ⟨path, c, after, hdrop, hfold, hc⟩
  have hslash : c ≠ '/' := by
    rintro rfl
    exact not_isIdLetter_slash hc
  rw [List.drop_append_of_le_length (Nat.le_of_lt hn)] at hdrop
  have htail : text.drop n ≠ [] := fun hnil => absurd (List.drop_eq_nil_iff.mp hnil) (Nat.not_le.mpr hn)
  rcases List.append_eq_append_iff.mp hdrop with ⟨part, hpath, hrest⟩ | ⟨part, htext, hrest⟩
  · -- the path that begins in the text ends in the one behind it
    rw [pathLetters_eq] at hrest
    rcases part with _ | ⟨a, _ | ⟨a', part⟩⟩
    · obtain ⟨hhead, -⟩ := List.cons.inj hrest
      exact hslash hhead.symm
    · obtain ⟨rfl, -⟩ := List.cons.inj hrest
      rw [hpath, List.map_append] at hfold
      have htail := (List.append_inj' (hfold.trans pathLetters_eq_append) rfl).1
      refine hend ⟨(text.take n).map fold, ?_⟩
      rw [← htail, ← List.map_append, List.take_append_drop]
    · obtain ⟨rfl, hbehind⟩ := List.cons.inj hrest
      obtain ⟨rfl, -⟩ := List.cons.inj hbehind
      rw [hpath, List.map_append] at hfold
      exact htail (List.map_eq_nil_iff.mp (eq_nil_of_pathLetters hfold))
  · rcases part with _ | ⟨a, part⟩
    · rw [pathLetters_eq] at hrest
      obtain ⟨hhead, -⟩ := List.cons.inj hrest
      exact hslash hhead
    · obtain ⟨rfl, -⟩ := List.cons.inj hrest
      exact hfree n ⟨path, c, part, htext, hfold, hc⟩

theorem publicPath_toList (session : String) :
    (publicPath session).toList = pathLetters ++ session.toList := String.toList_append

theorem parse?_text (token : Token) : parse? token.text = some token :=
  parse?_eq_some.mpr ⟨token.valid, rfl⟩

theorem inUrl?_of_publicPath {before behind : String} (token : Token) (hfree : inUrl? before = none)
    (hend : ¬ "/session/carta".toList <:+ before.toList.map fold)
    (hbehind : ∀ c, behind.toList.head? = some c → ¬ IsIdLetter c) :
    inUrl? (before ++ publicPath token.text ++ behind) = some token := by
  have hletters : ∀ c ∈ token.text.toList, IsIdLetter c :=
    fun c hc => isIdLetter_iff.mpr (token.isIdChar_of_mem hc)
  have hne : token.text.toList ≠ [] := fun hnil => token.text_ne_empty (String.toList_eq_nil_iff.mp hnil)
  have htext : (before ++ publicPath token.text ++ behind).toList =
      before.toList ++ (pathLetters ++ (token.text.toList ++ behind.toList)) := by
    rw [String.toList_append, String.toList_append, publicPath_toList, List.append_assoc, List.append_assoc]
  rw [inUrl?_eq_some, findId?_eq_some_iff, htext]
  refine ⟨before.toList, pathLetters, behind.toList, rfl, map_fold_pathLetters,
    ⟨hne, hletters, hbehind⟩, fun n hn => ?_⟩
  exact not_pathAt_append (inUrl?_eq_none_iff.mp hfree) hend hn

/-- The path of a session is read as that session between any two texts, of which the first has no session
path with an id and does not end in one without its last slash, and the second does not begin with a letter
of an id. What a URL gives is accepted as a bare text, unchanged, and both give the same tokens. -/
theorem publicPath_inverse :
    (∀ raw token before behind, parse? raw = some token → inUrl? before = none →
        ¬ "/session/carta".toList <:+ before.toList.map fold →
        (∀ c, behind.toList.head? = some c → ¬ IsIdLetter c) →
        inUrl? (before ++ publicPath raw ++ behind) = some token) ∧
      (∀ url token, inUrl? url = some token → parse? token.text = some token) ∧
      ∀ token, (∃ raw, parse? raw = some token) ↔ ∃ url, inUrl? url = some token := by
  refine ⟨?_, fun url token _ => parse?_text token, fun token => ⟨fun _ => ?_, fun _ => ?_⟩⟩
  · intro raw token before behind hraw hfree hend hbehind
    obtain ⟨-, rfl⟩ := parse?_eq_some.mp hraw
    exact inUrl?_of_publicPath token hfree hend hbehind
  · exact ⟨"" ++ publicPath token.text ++ "", inUrl?_of_publicPath token rfl (by decide) (by simp)⟩
  · exact ⟨token.text, parse?_text token⟩

/-- Behind a path without an id, in front of the path of another session. -/
theorem publicPath_inverse_crowded : ∃ token, parse? "aB1" = some token ∧
    inUrl? ("https://host/SESSION/carta/" ++ publicPath "aB1" ++ "-?next=/session/carta/zz9") =
      some token := by
  have htoken : parse? "aB1" = some ⟨"aB1", by decide⟩ := by decide
  have hbehind : ∀ c, "-?next=/session/carta/zz9".toList.head? = some c → ¬ IsIdLetter c := by
    intro c hc
    obtain rfl := Option.some.inj hc
    rw [isIdLetter_iff]
    decide
  exact ⟨_, htoken, publicPath_inverse.1 _ _ _ _ htoken (by decide +kernel) (by decide +kernel) hbehind⟩

end SessionGate.Session.Token
