import SessionGate.Program

/-! # Histories of programs

* `Ends p steps result`: asked these questions and given these answers, in order, `p` comes to this
  result. `ends_bind` cuts a history where programs are put together.
* `Along R t steps t'`: each step of a history leads from a state to the next one.
* `history`: what a run against a state asked and was answered; `ends_history` and `along_history`
  turn a run that returns into a history. `Leads` is a part of a run.
* `Respects allowed granted p past`: after `past`, and whatever it is answered, `p` asks only what is
  allowed and ends only in what is granted.
-/
namespace SessionGate.Program
set_option autoImplicit false

variable {I J : Interface} {α β σ τ : Type}

/-- A question with the answer to it. -/
abbrev Step (I : Interface) : Type := (query : I.Query) × I.Answer query

/-! ## Histories that come to an end -/

/-- The program ends in a result after these steps. -/
def Ends : Program I α → List (Step I) → α → Prop
  | .done result, steps, r => steps = [] ∧ r = result
  | .note _ next, steps, r => Ends next steps r
  | .ask query next, steps, r =>
    ∃ answer rest, steps = ⟨query, answer⟩ :: rest ∧ Ends (next answer) rest r

theorem ends_bind {p : Program I α} {f : α → Program I β} {steps : List (Step I)} {r : β} :
    (p.bind f).Ends steps r ↔ ∃ a s t, steps = s ++ t ∧ p.Ends s a ∧ (f a).Ends t r := by
  induction p generalizing steps with
  | done result =>
    constructor
    · intro h
      exact ⟨result, [], steps, rfl, ⟨rfl, rfl⟩, h⟩
    · rintro ⟨a, s, t, rfl, ⟨rfl, rfl⟩, h⟩
      exact h
  | note event next ih => exact ih
  | ask query next ih =>
    constructor
    · rintro ⟨x, rest, rfl, h⟩
      obtain ⟨a, s, t, rfl, hs, ht⟩ := (ih x).mp h
      exact ⟨a, ⟨query, x⟩ :: s, t, rfl, ⟨x, s, rfl, hs⟩, ht⟩
    · rintro ⟨a, s, t, rfl, ⟨x, rest, rfl, hs⟩, ht⟩
      exact ⟨x, rest ++ t, rfl, (ih x).mpr ⟨a, rest, t, rfl, hs, ht⟩⟩

theorem ends_ask_bind {q : I.Query} {f : I.Answer q → Program I α} {steps : List (Step I)} {r : α} :
    ((ask q done).bind f).Ends steps r ↔ ∃ a rest, steps = ⟨q, a⟩ :: rest ∧ (f a).Ends rest r := Iff.rfl

theorem ends_bind_map {p : Program I α} {f : α → β} {steps : List (Step I)} {r : β} :
    (p.bind fun a => done (f a)).Ends steps r ↔ ∃ a, p.Ends steps a ∧ r = f a := by
  rw [ends_bind]
  constructor
  · rintro ⟨a, s, t, rfl, hs, rfl, rfl⟩
    rw [List.append_nil]
    exact ⟨a, hs, rfl⟩
  · rintro ⟨a, hs, rfl⟩
    exact ⟨a, steps, [], (List.append_nil steps).symm, hs, rfl, rfl⟩

/-- A program that is run for its steps, before a result that is known. -/
theorem ends_bind_done {p : Program I Unit} {a r : α} {steps : List (Step I)} :
    (p.bind fun _ => done a).Ends steps r ↔ p.Ends steps () ∧ r = a := by
  rw [ends_bind_map]
  constructor
  · rintro ⟨⟨⟩, hs, hr⟩
    exact ⟨hs, hr⟩
  · rintro ⟨hs, hr⟩
    exact ⟨(), hs, hr⟩

/-- The answers decide the result. -/
theorem Ends.result_unique {p : Program I α} {steps : List (Step I)} {r r' : α}
    (h : p.Ends steps r) (h' : p.Ends steps r') : r = r' := by
  induction p generalizing steps with
  | done result => exact h.2.trans h'.2.symm
  | note event next ih => exact ih h h'
  | ask query next ih =>
    obtain ⟨a, rest, rfl, h⟩ := h
    obtain ⟨a', rest', he, h'⟩ := h'
    obtain ⟨ha, rfl⟩ := List.cons.inj he
    obtain rfl := eq_of_heq (Sigma.mk.inj ha).2
    exact ih a h h'

/-! ## States along a history -/

/-- Each step leads from a state to the next one. -/
inductive Along (R : τ → Step I → τ → Prop) : τ → List (Step I) → τ → Prop where
  | nil (t : τ) : Along R t [] t
  | cons {t u v : τ} {step : Step I} {steps : List (Step I)} :
    R t step u → Along R u steps v → Along R t (step :: steps) v

variable {R : τ → Step I → τ → Prop} {t u v : τ}

@[simp] theorem along_nil : Along R t [] v ↔ v = t := by
  constructor
  · rintro ⟨⟩
    rfl
  · rintro rfl
    exact .nil v

theorem along_cons {step : Step I} {steps : List (Step I)} :
    Along R t (step :: steps) v ↔ ∃ u, R t step u ∧ Along R u steps v := by
  constructor
  · rintro (_ | ⟨hstep, hrest⟩)
    exact ⟨_, hstep, hrest⟩
  · rintro ⟨u, hstep, hrest⟩
    exact .cons hstep hrest

theorem along_append {s s' : List (Step I)} :
    Along R t (s ++ s') v ↔ ∃ u, Along R t s u ∧ Along R u s' v := by
  induction s generalizing t with
  | nil => simp
  | cons step s ih =>
    simp only [List.cons_append, along_cons, ih]
    constructor
    · rintro ⟨w, hstep, u, hs, hs'⟩
      exact ⟨u, ⟨w, hstep, hs⟩, hs'⟩
    · rintro ⟨u, ⟨w, hstep, hs⟩, hs'⟩
      exact ⟨w, hstep, u, hs, hs'⟩

theorem Along.imp {R' : τ → Step I → τ → Prop} {steps : List (Step I)} (h : Along R t steps v)
    (himp : ∀ t step v, R t step v → R' t step v) : Along R' t steps v := by
  induction h with
  | nil t => exact .nil t
  | cons hstep _ ih => exact .cons (himp _ _ _ hstep) ih

/-! ## Runs against a state -/

section Runs
variable (record : Log.Event → σ → σ)
variable (answer : (q : I.Query) → σ → Option (I.Answer q) × σ)

/-- What a run asks and is answered, up to its end or to a question that is left open. -/
def history : Program I α → σ → List (Step I)
  | .done _, _ => []
  | .note event rest, s => history rest (record event s)
  | .ask query rest, s =>
    match answer query s with
    | (some a, s) => ⟨query, a⟩ :: history (rest a) s
    | (none, _) => []

theorem ends_history {p : Program I α} {s s' : σ} {r : α}
    (h : p.runUntil record answer s = (some r, s')) : p.Ends (p.history record answer s) r := by
  induction p generalizing s with
  | done result =>
    obtain ⟨hr, -⟩ := Prod.mk.inj h
    exact ⟨rfl, (Option.some.inj hr).symm⟩
  | note event rest ih => exact ih h
  | ask query rest ih =>
    rw [runUntil] at h
    rw [history]
    rcases hq : answer query s with ⟨_ | a, u⟩
    · rw [hq] at h
      cases h
    · rw [hq] at h
      exact ⟨a, _, rfl, ih a h⟩

/-- A run in which every question is answered has a history to its end. -/
theorem ends_run (answer : (q : I.Query) → σ → I.Answer q × σ) (p : Program I α) (s : σ) :
    p.Ends (p.history record (fun q s => (some (answer q s).1, (answer q s).2)) s)
      (p.run record answer s).1 :=
  ends_history record _ (runUntil_answered record answer p s)

/-- A view of the state that events leave alone goes along the history as the answers move it. -/
theorem along_history (view : σ → τ) {p : Program I α} {s s' : σ} {r : Option α}
    (hrecord : ∀ e s, view (record e s) = view s)
    (hanswer : ∀ q s a s', answer q s = (some a, s') → R (view s) ⟨q, a⟩ (view s'))
    (hopen : ∀ q s s', answer q s = (none, s') → view s' = view s)
    (h : p.runUntil record answer s = (r, s')) :
    Along R (view s) (p.history record answer s) (view s') := by
  induction p generalizing s with
  | done result =>
    obtain ⟨-, rfl⟩ := Prod.mk.inj h
    exact .nil _
  | note event rest ih =>
    have := ih h
    rwa [hrecord] at this
  | ask query rest ih =>
    rw [runUntil] at h
    rw [history]
    rcases hq : answer query s with ⟨_ | a, u⟩
    · rw [hq] at h
      obtain ⟨-, rfl⟩ := Prod.mk.inj h
      simpa using hopen _ _ _ hq
    · rw [hq] at h
      exact .cons (hanswer _ _ _ _ hq) (ih a h)

/-- A run comes from one program and state to another by these steps. -/
def Leads (p : Program I α) (s : σ) (steps : List (Step I)) (p' : Program I α) (s' : σ) : Prop :=
  p.runUntil record answer s = p'.runUntil record answer s' ∧
    p.history record answer s = steps ++ p'.history record answer s'

variable {record answer}

theorem Leads.note {event : Log.Event} {p : Program I α} {s : σ} :
    Leads record answer (.note event p) s [] p (record event s) := ⟨rfl, rfl⟩

theorem Leads.ask {q : I.Query} {next : I.Answer q → Program I α} {a : I.Answer q} {s s' : σ}
    (h : answer q s = (some a, s')) : Leads record answer (.ask q next) s [⟨q, a⟩] (next a) s' := by
  rw [Leads, runUntil, history, h]
  exact ⟨rfl, rfl⟩

theorem runUntil_open {q : I.Query} {next : I.Answer q → Program I α} {s s' : σ} (h : answer q s = (none, s')) :
    (ask q next).runUntil record answer s = (none, s') ∧ (ask q next).history record answer s = [] := by
  rw [runUntil, history, h]
  exact ⟨rfl, rfl⟩

theorem Leads.trans {p p' p'' : Program I α} {s s' s'' : σ} {steps steps' : List (Step I)}
    (h : Leads record answer p s steps p' s') (h' : Leads record answer p' s' steps' p'' s'') :
    Leads record answer p s (steps ++ steps') p'' s'' := by
  refine ⟨h.1.trans h'.1, ?_⟩
  rw [h.2, h'.2, List.append_assoc]

end Runs

/-! ## Programs that respect a rule -/

/-- After these steps, the newest first, the program asks only what is allowed and ends only in what
is granted. -/
def Respects (allowed : List (Step I) → I.Query → Prop) (granted : List (Step I) → α → Prop) :
    Program I α → List (Step I) → Prop
  | .done result, past => granted past result
  | .note _ next, past => Respects allowed granted next past
  | .ask query next, past =>
    allowed past query ∧ ∀ answer, Respects allowed granted (next answer) (⟨query, answer⟩ :: past)

variable {allowed : List (Step I) → I.Query → Prop} {granted : List (Step I) → α → Prop}

theorem respects_ask_bind {q : I.Query} {f : I.Answer q → Program I α} {past : List (Step I)} :
    ((ask q done).bind f).Respects allowed granted past ↔
      allowed past q ∧ ∀ a, (f a).Respects allowed granted (⟨q, a⟩ :: past) := Iff.rfl

theorem Respects.bind {granted' : List (Step I) → β → Prop} {p : Program I α} {f : α → Program I β}
    {past : List (Step I)} (hp : p.Respects allowed granted past)
    (hf : ∀ past a, granted past a → (f a).Respects allowed granted' past) :
    (p.bind f).Respects allowed granted' past := by
  induction p generalizing past with
  | done result => exact hf past result hp
  | note event next ih => exact ih hp
  | ask query next ih => exact ⟨hp.1, fun a => ih a (hp.2 a)⟩

theorem Respects.imp {allowed' : List (Step I) → I.Query → Prop} {granted' : List (Step I) → α → Prop}
    {p : Program I α} {past : List (Step I)} (hp : p.Respects allowed granted past)
    (hallowed : ∀ past q, allowed past q → allowed' past q)
    (hgranted : ∀ past a, granted past a → granted' past a) : p.Respects allowed' granted' past := by
  induction p generalizing past with
  | done result => exact hgranted past result hp
  | note event next ih => exact ih hp
  | ask query next ih => exact ⟨hallowed past query hp.1, fun a => ih a (hp.2 a)⟩

end SessionGate.Program
