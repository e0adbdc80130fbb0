import Mathlib.Data.List.Forall2
import SessionGate.Proofs.Gateway.Resolving

/-! # What a look-up asks and finds

* `Search`: kinds of objects are asked one after the other, as long as the queries succeed and name no
  owner. `lookupIn_ends_iff`: a look-up is such a search.
* What a search comes to is read off the queries that it made: the one that failed
  (`Search.error_iff`), the first that named an owner (`Search.found_iff`), or all of them
  (`Search.none_iff`).
* `lookup_tiered`: so the Service decides, and the Pod where the Service was asked without success.
-/
namespace SessionGate.Gateway
set_option autoImplicit false
open Session (Token ObjectKind Labels LabelNames)
open Program (Step)

variable {keys : LabelNames} {token : Token} {userid : String} {kind : ObjectKind} {kinds : List ObjectKind}
  {steps : List (Step surroundings)} {result : Except Cluster.Error (Option String)} {e : Cluster.Error}

/-! ## Queries -/

/-- The query for the objects of a session, and what was answered. -/
def posed (keys : LabelNames) (token : Token) (kind : ObjectKind)
    (answer : Except Cluster.Error (Option Labels)) : Step surroundings :=
  ⟨.labels kind (keys.selector token), answer⟩

/-- Nothing matched, or what did has no user label or an empty one. -/
def Ownerless (keys : LabelNames) (found : Option Labels) : Prop :=
  ∀ labels, found = some labels → ∀ userid, List.lookup keys.user labels = some userid → userid = ""

theorem posed_inj {kind' : ObjectKind} {answer answer' : Except Cluster.Error (Option Labels)} :
    posed keys token kind answer = posed keys token kind' answer' ↔ kind = kind' ∧ answer = answer' := by
  constructor
  · intro h
    obtain ⟨hquery, hanswer⟩ := Sigma.mk.inj h
    obtain ⟨rfl, -⟩ := Question.labels.inj hquery
    exact ⟨rfl, eq_of_heq hanswer⟩
  · rintro ⟨rfl, rfl⟩
    rfl

theorem named_posed_iff {answer : Except Cluster.Error (Option Labels)} :
    Named keys token userid (posed keys token kind answer) ↔
      ∃ labels, answer = .ok (some labels) ∧ List.lookup keys.user labels = some userid ∧ userid ≠ "" := by
  constructor
  · rintro ⟨kind', labels, hstep, hlookup, hne⟩
    obtain ⟨-, rfl⟩ := posed_inj.mp hstep
    exact ⟨labels, rfl, hlookup, hne⟩
  · rintro ⟨labels, rfl, hlookup, hne⟩
    exact ⟨kind, labels, rfl, hlookup, hne⟩

theorem ownerless_iff {found : Option Labels} :
    Ownerless keys found ↔ ∀ userid, ¬ Named keys token userid (posed keys token kind (.ok found)) := by
  constructor
  · intro h userid hnamed
    obtain ⟨labels, hfound, hlookup, hne⟩ := named_posed_iff.mp hnamed
    exact hne (h labels (Except.ok.inj hfound) userid hlookup)
  · rintro h labels rfl userid hlookup
    by_contra hne
    exact h userid (named_posed_iff.mpr ⟨labels, rfl, hlookup, hne⟩)

theorem owner?_eq_some_iff {labels : Labels} :
    owner? keys labels = some userid ↔ List.lookup keys.user labels = some userid ∧ userid ≠ "" := by
  refine ⟨owner?_eq_some, fun ⟨hlookup, hne⟩ => ?_⟩
  rw [owner?, hlookup]
  exact if_neg (by simpa using hne)

theorem owner?_eq_none_iff {labels : Labels} :
    owner? keys labels = none ↔ Ownerless keys (some labels) := by
  rw [Option.eq_none_iff_forall_ne_some]
  constructor
  · rintro h _ ⟨⟩ userid hlookup
    by_contra hne
    exact h userid (owner?_eq_some_iff.mpr ⟨hlookup, hne⟩)
  · intro h userid howner
    obtain ⟨hlookup, hne⟩ := owner?_eq_some_iff.mp howner
    exact hne (h labels rfl userid hlookup)

/-! ## Searches -/

/-- A search through kinds of objects, with the queries that it made. -/
inductive Search (keys : LabelNames) (token : Token) :
    List ObjectKind → List (Step surroundings) → Except Cluster.Error (Option String) → Prop where
  | exhausted : Search keys token [] [] (.ok none)
  | failed (kind : ObjectKind) (kinds : List ObjectKind) (e : Cluster.Error) :
    Search keys token (kind :: kinds) [posed keys token kind (.error e)] (.error e)
  | found (kind : ObjectKind) (kinds : List ObjectKind) {labels : Labels} {userid : String} :
    List.lookup keys.user labels = some userid → userid ≠ "" →
      Search keys token (kind :: kinds) [posed keys token kind (.ok (some labels))] (.ok (some userid))
  | passed (kind : ObjectKind) {kinds : List ObjectKind} {found : Option Labels}
    {steps : List (Step surroundings)} {result : Except Cluster.Error (Option String)} :
    Ownerless keys found → Search keys token kinds steps result →
      Search keys token (kind :: kinds) (posed keys token kind (.ok found) :: steps) result

theorem lookupIn_ends_iff :
    (lookupIn keys token kinds).Ends steps result ↔ Search keys token kinds steps result := by
  induction kinds generalizing steps with
  | nil =>
    constructor
    · rintro ⟨rfl, rfl⟩
      exact .exhausted
    · rintro ⟨⟩
      exact ⟨rfl, rfl⟩
  | cons kind kinds ih =>
    rw [lookupIn]
    constructor
    · intro h
      obtain ⟨answer, rest, rfl, hrest⟩ := Program.ends_ask_bind.mp h
      rcases answer with e | _ | labels
      · obtain ⟨rfl, rfl⟩ := hrest
        exact .failed kind kinds e
      · exact .passed kind (by rintro labels ⟨⟩) (ih.mp hrest)
      · dsimp only at hrest
        cases howner : owner? keys labels with
        | none =>
          rw [howner] at hrest
          exact .passed kind (owner?_eq_none_iff.mp howner) (ih.mp hrest)
        | some userid =>
          rw [howner] at hrest
          obtain ⟨rfl, rfl⟩ := hrest
          obtain ⟨hlookup, hne⟩ := owner?_eq_some_iff.mp howner
          exact .found kind kinds hlookup hne
    · intro h
      cases h with
      | failed _ _ e => exact ⟨_, _, rfl, rfl, rfl⟩
      | found _ _ hlookup hne =>
        refine Program.ends_ask_bind.mpr ⟨_, _, rfl, ?_⟩
        dsimp only
        rw [owner?_eq_some_iff.mpr ⟨hlookup, hne⟩]
        exact ⟨rfl, rfl⟩
      | @passed _ _ found _ _ hownerless hsearch =>
        refine Program.ends_ask_bind.mpr ⟨_, _, rfl, ?_⟩
        cases found with
        | none => exact ih.mpr hsearch
        | some labels =>
          dsimp only
          rw [owner?_eq_none_iff.mpr hownerless]
          exact ih.mpr hsearch

theorem answer_cases (keys : LabelNames) (answer : Except Cluster.Error (Option Labels)) :
    (∃ e, answer = .error e) ∨ (∃ found, answer = .ok found ∧ Ownerless keys found) ∨
      ∃ labels userid, answer = .ok (some labels) ∧ List.lookup keys.user labels = some userid ∧
        userid ≠ "" := by
  rcases answer with e | _ | labels
  · exact .inl ⟨e, rfl⟩
  · exact .inr (.inl ⟨none, rfl, by rintro labels ⟨⟩⟩)
  · cases howner : owner? keys labels with
    | none => exact .inr (.inl ⟨some labels, rfl, owner?_eq_none_iff.mp howner⟩)
    | some userid => exact .inr (.inr ⟨labels, userid, rfl, owner?_eq_some_iff.mp howner⟩)

theorem exists_search (keys : LabelNames) (token : Token) (kinds : List ObjectKind)
    (answers : ObjectKind → Except Cluster.Error (Option Labels)) :
    ∃ steps result, Search keys token kinds steps result ∧
      ∀ step ∈ steps, ∃ kind, step = posed keys token kind (answers kind) := by
  induction kinds with
  | nil => exact ⟨[], .ok none, .exhausted, by simp⟩
  | cons kind kinds ih =>
    rcases answer_cases keys (answers kind) with ⟨e, he⟩ | ⟨found, hfound, hownerless⟩ |
      ⟨labels, userid, hlabels, hlookup, hne⟩
    · refine ⟨_, _, .failed kind kinds e, List.forall_mem_singleton.mpr ⟨kind, ?_⟩⟩
      rw [he]
    · obtain ⟨steps, result, hsearch, hsteps⟩ := ih
      refine ⟨_, _, .passed kind hownerless hsearch, List.forall_mem_cons.mpr ⟨⟨kind, ?_⟩, hsteps⟩⟩
      rw [hfound]
    · refine ⟨_, _, .found kind kinds hlookup hne, List.forall_mem_singleton.mpr ⟨kind, ?_⟩⟩
      rw [hlabels]

theorem Search.exists_posed (h : Search keys token (kind :: kinds) steps result) :
    ∃ answer, posed keys token kind answer ∈ steps := by
  cases h with
  | failed | found | passed => exact ⟨_, List.mem_cons_self ..⟩

/-- Two searches come to the same where the queries that both make are answered in the same way. -/
theorem Search.result_unique {steps' : List (Step surroundings)}
    {result' : Except Cluster.Error (Option String)} (h : Search keys token kinds steps result)
    (h' : Search keys token kinds steps' result')
    (hsame : ∀ kind answer answer', posed keys token kind answer ∈ steps →
      posed keys token kind answer' ∈ steps' → answer = answer') : result = result' := by
  induction h generalizing steps' with
  | exhausted =>
    cases h'
    rfl
  | failed kind kinds e =>
    have hhead : ∀ answer, posed keys token kind answer ∈ steps' → .error e = answer :=
      fun answer => hsame kind _ _ (List.mem_cons_self ..)
    cases h' with
    | failed _ _ e' => rw [Except.error.inj (hhead _ (List.mem_cons_self ..))]
    | found | passed => cases hhead _ (List.mem_cons_self ..)
  | @found kind kinds labels userid hlookup hne =>
    have hhead : ∀ answer, posed keys token kind answer ∈ steps' → .ok (some labels) = answer :=
      fun answer => hsame kind _ _ (List.mem_cons_self ..)
    cases h' with
    | failed => cases hhead _ (List.mem_cons_self ..)
    | found _ _ hlookup' =>
      cases hhead _ (List.mem_cons_self ..)
      rw [Option.some.inj (hlookup.symm.trans hlookup')]
    | passed _ hownerless =>
      cases hhead _ (List.mem_cons_self ..)
      exact absurd (hownerless labels rfl userid hlookup) hne
  | @passed kind kinds answered steps result hownerless hsearch ih =>
    have hhead : ∀ answer, posed keys token kind answer ∈ steps' → .ok answered = answer :=
      fun answer => hsame kind _ _ (List.mem_cons_self ..)
    cases h' with
    | failed => cases hhead _ (List.mem_cons_self ..)
    | found _ _ hlookup hne =>
      cases hhead _ (List.mem_cons_self ..)
      exact absurd (hownerless _ rfl _ hlookup) hne
    | passed _ _ hsearch' =>
      exact ih hsearch' fun kind answer answer' hmem hmem' =>
        hsame kind answer answer' (List.mem_cons_of_mem _ hmem) (List.mem_cons_of_mem _ hmem')

/-! ## What a search comes to -/

theorem Search.error_iff (h : Search keys token kinds steps result) :
    result = .error e ↔ ∃ kind, posed keys token kind (.error e) ∈ steps := by
  induction h with
  | exhausted => simp
  | failed kind kinds e' => simp [posed_inj, eq_comm]
  | found kind kinds hlookup hne => simp [posed_inj]
  | passed kind hownerless hsearch ih => simp [posed_inj, ih]

theorem Search.last_of_error (h : Search keys token kinds steps result)
    (hmem : posed keys token kind (.error e) ∈ steps) :
    ∃ before, steps = before ++ [posed keys token kind (.error e)] := by
  induction h with
  | exhausted => cases hmem
  | failed kind' kinds e' => exact ⟨[], by rw [List.mem_singleton.mp hmem]; rfl⟩
  | found kind' kinds hlookup hne => exact ⟨[], by rw [List.mem_singleton.mp hmem]; rfl⟩
  | passed kind' hownerless hsearch ih =>
    rcases List.mem_cons.mp hmem with hmem | hmem
    · cases (posed_inj.mp hmem).2
    · obtain ⟨before, hbefore⟩ := ih hmem
      exact ⟨_ :: before, congrArg _ hbefore⟩

/-- The first of the steps that names an owner names this one. -/
def NamedFirst (keys : LabelNames) (token : Token) (userid : String) (steps : List (Step surroundings)) :
    Prop :=
  ∃ before step after, steps = before ++ step :: after ∧ Named keys token userid step ∧
    ∀ earlier ∈ before, ∀ other, ¬ Named keys token other earlier

theorem namedFirst_cons {step : Step surroundings} : NamedFirst keys token userid (step :: steps) ↔
    Named keys token userid step ∨
      (∀ other, ¬ Named keys token other step) ∧ NamedFirst keys token userid steps := by
  constructor
  · rintro ⟨_ | ⟨first, before⟩, named, after, hsteps, hnamed, hbefore⟩
    · obtain ⟨rfl, rfl⟩ := List.cons.inj hsteps
      exact .inl hnamed
    · obtain ⟨rfl, rfl⟩ := List.cons.inj hsteps
      obtain ⟨hfirst, hbefore⟩ := List.forall_mem_cons.mp hbefore
      exact .inr ⟨hfirst, before, named, after, rfl, hnamed, hbefore⟩
  · rintro (hnamed | ⟨hfirst, before, named, after, rfl, hnamed, hbefore⟩)
    · exact ⟨[], step, steps, rfl, hnamed, by simp⟩
    · exact ⟨step :: before, named, after, rfl, hnamed, List.forall_mem_cons.mpr ⟨hfirst, hbefore⟩⟩

theorem not_namedFirst_nil : ¬ NamedFirst keys token userid [] := by
  rintro ⟨before, step, after, hnil, -⟩
  simp at hnil

theorem Search.found_iff (h : Search keys token kinds steps result) :
    result = .ok (some userid) ↔ NamedFirst keys token userid steps := by
  induction h with
  | exhausted => simp [not_namedFirst_nil]
  | failed kind kinds e => simp [namedFirst_cons, not_namedFirst_nil, named_posed_iff]
  | @found kind kinds labels owner hlookup hne =>
    simp only [namedFirst_cons, not_namedFirst_nil, and_false, or_false, named_posed_iff]
    constructor
    · intro h
      obtain rfl := Option.some.inj (Except.ok.inj h)
      exact ⟨labels, rfl, hlookup, hne⟩
    · rintro ⟨_, ⟨⟩, hlookup', -⟩
      rw [hlookup.symm.trans hlookup']
  | @passed kind kinds answered steps result hownerless hsearch ih =>
    have hnone : ∀ other, ¬ Named keys token other (posed keys token kind (.ok answered)) :=
      ownerless_iff.mp hownerless
    rw [namedFirst_cons, ih]
    constructor
    · intro hfirst
      exact .inr ⟨hnone, hfirst⟩
    · rintro (hnamed | ⟨-, hfirst⟩)
      · exact absurd hnamed (hnone _)
      · exact hfirst

theorem Search.none_iff (h : Search keys token kinds steps result) : result = .ok none ↔
    List.Forall₂ (fun kind step => ∃ found, step = posed keys token kind (.ok found) ∧ Ownerless keys found)
      kinds steps := by
  induction h with
  | exhausted => simp
  | failed kind kinds e => simp [posed_inj]
  | @found kind kinds labels owner hlookup hne =>
    have howned : ¬ Ownerless keys (some labels) := fun h => hne (h labels rfl owner hlookup)
    simp [posed_inj, howned]
  | passed kind hownerless hsearch ih => simp [posed_inj, hownerless, ih]

/-! ## Two kinds of objects -/

def Passes (keys : LabelNames) (answer : Except Cluster.Error (Option Labels)) : Prop :=
  ∃ found, answer = .ok found ∧ Ownerless keys found

/-- The Service is asked, and the Pod exactly where that succeeded and named no owner; a query that failed
is the last one and decides, and else the first owner that is named. -/
structure Tiered (keys : LabelNames) (token : Token) (steps : List (Step surroundings))
    (result : Except Cluster.Error (Option String)) : Prop where
  order : ∃ service rest, steps = posed keys token .service service :: rest ∧
    (rest = [] ∧ ¬ Passes keys service ∨
      ∃ pod, rest = [posed keys token .pod pod] ∧ Passes keys service)
  error (e : Cluster.Error) :
    result = .error e ↔ ∃ kind, posed keys token kind (.error e) ∈ steps
  last (kind : ObjectKind) (e : Cluster.Error) : posed keys token kind (.error e) ∈ steps →
    ∃ before, steps = before ++ [posed keys token kind (.error e)]
  found (userid : String) : result = .ok (some userid) ↔ NamedFirst keys token userid steps
  missing : result = .ok none ↔ ∃ service pod, steps =
    [posed keys token .service (.ok service), posed keys token .pod (.ok pod)] ∧
      Ownerless keys service ∧ Ownerless keys pod
  nonempty (userid : String) : result = .ok (some userid) → userid ≠ ""

theorem Search.tiered (h : Search keys token ObjectKind.order steps result) :
    Tiered keys token steps result where
  order := by
    cases h with
    | failed _ _ e =>
      refine ⟨_, _, rfl, .inl ⟨rfl, ?_⟩⟩
      rintro ⟨found, hok, -⟩
      cases hok
    | found _ _ hlookup hne =>
      refine ⟨_, _, rfl, .inl ⟨rfl, ?_⟩⟩
      rintro ⟨found, hok, hownerless⟩
      exact hne (hownerless _ (Except.ok.inj hok).symm _ hlookup)
    | passed _ hownerless hsearch =>
      refine ⟨_, _, rfl, .inr ?_⟩
      cases hsearch with
      | failed => exact ⟨_, rfl, _, rfl, hownerless⟩
      | found => exact ⟨_, rfl, _, rfl, hownerless⟩
      | passed _ _ hsearch =>
        cases hsearch
        exact ⟨_, rfl, _, rfl, hownerless⟩
  error _ := h.error_iff
  last _ _ := h.last_of_error
  found _ := h.found_iff
  missing := by
    rw [h.none_iff, ObjectKind.order]
    constructor
    · rintro (_ | ⟨⟨service, rfl, hservice⟩, _ | ⟨⟨pod, rfl, hpod⟩, ⟨⟩⟩⟩)
      exact ⟨service, pod, rfl, hservice, hpod⟩
    · rintro ⟨service, pod, rfl, hservice, hpod⟩
      exact .cons ⟨service, rfl, hservice⟩ (.cons ⟨pod, rfl, hpod⟩ .nil)
  nonempty _ hfound := by
    obtain ⟨before, step, after, -, ⟨kind, labels, -, -, hne⟩, -⟩ := h.found_iff.mp hfound
    exact hne

theorem Tiered.search (h : Tiered keys token steps result) :
    Search keys token ObjectKind.order steps result := by
  obtain ⟨service, rest, rfl, hrest⟩ := h.order
  rcases answer_cases keys service with ⟨e, rfl⟩ | ⟨found, rfl, hservice⟩ |
    ⟨labels, userid, rfl, hlookup, hne⟩
  · obtain rfl := (h.error e).mpr ⟨.service, List.mem_cons_self ..⟩
    rcases hrest with ⟨rfl, -⟩ | ⟨pod, -, found, hok, -⟩
    · exact .failed _ _ e
    · cases hok
  · rcases hrest with ⟨-, hnot⟩ | ⟨pod, rfl, -⟩
    · exact absurd ⟨found, rfl, hservice⟩ hnot
    · refine .passed _ hservice ?_
      rcases answer_cases keys pod with ⟨e, rfl⟩ | ⟨other, rfl, hpod⟩ |
        ⟨labels, userid, rfl, hlookup, hne⟩
      · obtain rfl := (h.error e).mpr ⟨.pod, List.mem_cons_of_mem _ (List.mem_cons_self ..)⟩
        exact .failed _ _ e
      · obtain rfl := h.missing.mpr ⟨found, other, rfl, hservice, hpod⟩
        exact .passed _ hpod .exhausted
      · have hnamed : Named keys token userid (posed keys token .pod (.ok (some labels))) :=
          named_posed_iff.mpr ⟨labels, rfl, hlookup, hne⟩
        obtain rfl := (h.found userid).mpr
          (namedFirst_cons.mpr (.inr ⟨ownerless_iff.mp hservice, namedFirst_cons.mpr (.inl hnamed)⟩))
        exact .found _ _ hlookup hne
  · have hnamed : Named keys token userid (posed keys token .service (.ok (some labels))) :=
      named_posed_iff.mpr ⟨labels, rfl, hlookup, hne⟩
    obtain rfl := (h.found userid).mpr (namedFirst_cons.mpr (.inl hnamed))
    rcases hrest with ⟨rfl, -⟩ | ⟨pod, -, found, hok, hownerless⟩
    · exact .found _ _ hlookup hne
    · exact absurd (hownerless labels (Except.ok.inj hok).symm userid hlookup) hne

/-- A look-up comes to an end whatever is answered, and what it asks and finds is this. -/
theorem lookup_tiered (keys : LabelNames) (token : Token) :
    (∀ answers : ObjectKind → Except Cluster.Error (Option Labels), ∃ steps result,
        (lookup keys token).Ends steps result ∧
          ∀ step ∈ steps, ∃ kind, step = posed keys token kind (answers kind)) ∧
      ∀ steps result, (lookup keys token).Ends steps result ↔ Tiered keys token steps result := by
  constructor
  · intro answers
    obtain ⟨steps, result, hsearch, hsteps⟩ := exists_search keys token ObjectKind.order answers
    exact ⟨steps, result, lookupIn_ends_iff.mpr hsearch, hsteps⟩
  · intro steps result
    rw [lookup, lookupIn_ends_iff]
    exact ⟨Search.tiered, Tiered.search⟩

end SessionGate.Gateway
