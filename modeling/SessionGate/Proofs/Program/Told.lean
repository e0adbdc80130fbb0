import SessionGate.Proofs.Program.History

/-! # What programs report

* `Tells aside p steps log result`: a history with the events that were reported meanwhile, by the program or by
  those who answer it. `aside` says what they may report along with an answer. `tells_bind` cuts such a history
  where programs are put together.
* `tells_run`: what a run against a state adds to a log.
* `Reports P p`: whatever it is answered, `p` reports only events of which `P` holds.
-/
namespace SessionGate.Program
set_option autoImplicit false

variable {I : Interface} {α β σ : Type}

/-- What may be reported along with an answer. -/
abbrev Aside (I : Interface) : Type := (query : I.Query) → I.Answer query → List Log.Event → Prop

/-- Answers come without a report. -/
def silent : Aside I := fun _ _ told => told = []

/-- The program ends in a result after these steps, and all along these events were reported. -/
inductive Tells (aside : Aside I) : Program I α → List (Step I) → List Log.Event → α → Prop where
  | done (result : α) : Tells aside (.done result) [] [] result
  | note {event : Log.Event} {next : Program I α} {steps : List (Step I)} {log : List Log.Event} {r : α} :
    Tells aside next steps log r → Tells aside (.note event next) steps (event :: log) r
  | ask {query : I.Query} {next : I.Answer query → Program I α} {answer : I.Answer query} {told : List Log.Event}
    {steps : List (Step I)} {log : List Log.Event} {r : α} : aside query answer told →
      Tells aside (next answer) steps log r →
        Tells aside (.ask query next) (⟨query, answer⟩ :: steps) (told ++ log) r

variable {aside : Aside I} {p : Program I α} {f : α → Program I β} {steps : List (Step I)} {log : List Log.Event}
  {P : Log.Event → Prop}

theorem tells_done {result r : α} : (done result : Program I α).Tells aside steps log r ↔
    steps = [] ∧ log = [] ∧ r = result := by
  constructor
  · rintro ⟨⟩
    exact ⟨rfl, rfl, rfl⟩
  · rintro ⟨rfl, rfl, rfl⟩
    exact .done r

theorem tells_note {event : Log.Event} {r : α} : (note event p).Tells aside steps log r ↔
    ∃ rest, log = event :: rest ∧ p.Tells aside steps rest r := by
  constructor
  · rintro (_ | h)
    exact ⟨_, rfl, h⟩
  · rintro ⟨rest, rfl, h⟩
    exact .note h

theorem tells_ask {q : I.Query} {next : I.Answer q → Program I α} {r : α} :
    (ask q next).Tells aside steps log r ↔ ∃ answer told rest later, steps = ⟨q, answer⟩ :: rest ∧
      log = told ++ later ∧ aside q answer told ∧ (next answer).Tells aside rest later r := by
  constructor
  · rintro (_ | _ | ⟨htold, h⟩)
    exact ⟨_, _, _, _, rfl, rfl, htold, h⟩
  · rintro ⟨answer, told, rest, later, rfl, rfl, htold, h⟩
    exact .ask htold h

theorem tells_ask_bind {q : I.Query} {f : I.Answer q → Program I α} {r : α} :
    (ask q done >>= f).Tells aside steps log r ↔ ∃ answer told rest later, steps = ⟨q, answer⟩ :: rest ∧
      log = told ++ later ∧ aside q answer told ∧ (f answer).Tells aside rest later r := tells_ask

/-- A report in front of a result that is known. -/
theorem tells_report {event : Log.Event} {a r : α} :
    (report event >>= fun _ => done a : Program I α).Tells aside steps log r ↔
      steps = [] ∧ log = [event] ∧ r = a := by
  constructor
  · rintro (_ | ⟨⟨⟩⟩)
    exact ⟨rfl, rfl, rfl⟩
  · rintro ⟨rfl, rfl, rfl⟩
    exact .note (.done r)

theorem Tells.ends {r : α} (h : p.Tells aside steps log r) : p.Ends steps r := by
  induction h with
  | done result => exact ⟨rfl, rfl⟩
  | note _ ih => exact ih
  | ask _ _ ih => exact ⟨_, _, rfl, ih⟩

theorem tells_bind {r : β} : (p >>= f).Tells aside steps log r ↔ ∃ a s t early late,
    steps = s ++ t ∧ log = early ++ late ∧ p.Tells aside s early a ∧ (f a).Tells aside t late r := by
  constructor
  · intro h
    induction p generalizing steps log with
    | done result => exact ⟨result, [], steps, [], log, rfl, rfl, .done result, h⟩
    | note event next ih =>
      obtain ⟨rest, rfl, hnext⟩ := tells_note.mp h
      obtain ⟨a, s, t, early, late, rfl, rfl, hp, hf⟩ := ih hnext
      exact ⟨a, s, t, event :: early, late, rfl, rfl, .note hp, hf⟩
    | ask query next ih =>
      obtain ⟨x, told, rest, later, rfl, rfl, htold, hnext⟩ := tells_ask.mp h
      obtain ⟨a, s, t, early, late, rfl, rfl, hp, hf⟩ := ih x hnext
      exact ⟨a, ⟨query, x⟩ :: s, t, told ++ early, late, rfl, (List.append_assoc ..).symm, .ask htold hp, hf⟩
  · rintro ⟨a, s, t, early, late, rfl, rfl, hp, hf⟩
    induction hp with
    | done result => exact hf
    | note _ ih => exact .note (ih hf)
    | ask htold _ ih =>
      rw [List.append_assoc]
      exact .ask htold (ih hf)

/-- A run adds what it reports to the log of its state. -/
theorem tells_run {record : Log.Event → σ → σ} {answer : (q : I.Query) → σ → I.Answer q × σ}
    (logOf : σ → List Log.Event) (hrecord : ∀ event s, logOf (record event s) = logOf s ++ [event])
    (hanswer : ∀ q s, ∃ told, logOf (answer q s).2 = logOf s ++ told ∧ aside q (answer q s).1 told)
    (p : Program I α) (s : σ) : ∃ steps log, p.Tells aside steps log (p.run record answer s).1 ∧
      logOf (p.run record answer s).2 = logOf s ++ log := by
  induction p generalizing s with
  | done result => exact ⟨[], [], .done result, (List.append_nil _).symm⟩
  | note event next ih =>
    obtain ⟨steps, log, htells, hlog⟩ := ih (record event s)
    refine ⟨steps, event :: log, .note htells, ?_⟩
    rw [run, hlog, hrecord, List.append_assoc, List.singleton_append]
  | ask query next ih =>
    obtain ⟨told, htold, haside⟩ := hanswer query s
    obtain ⟨steps, log, htells, hlog⟩ := ih (answer query s).1 (answer query s).2
    refine ⟨⟨query, (answer query s).1⟩ :: steps, told ++ log, .ask haside htells, ?_⟩
    rw [run, hlog, htold, List.append_assoc]

/-! ## Programs that report only some events -/

inductive Reports (P : Log.Event → Prop) : Program I α → Prop where
  | done (result : α) : Reports P (.done result)
  | note {event : Log.Event} {next : Program I α} : P event → Reports P next → Reports P (.note event next)
  | ask {query : I.Query} {next : I.Answer query → Program I α} :
    (∀ answer, Reports P (next answer)) → Reports P (.ask query next)

theorem reports_ask_bind {q : I.Query} {f : I.Answer q → Program I α} (h : ∀ answer, (f answer).Reports P) :
    (ask q done >>= f).Reports P := .ask h

theorem Reports.bind (hp : p.Reports P) (hf : ∀ a, (f a).Reports P) : (p >>= f).Reports P := by
  induction hp with
  | done result => exact hf result
  | note hevent _ ih => exact .note hevent ih
  | ask _ ih => exact .ask ih

theorem Tells.forall {r : α} (h : p.Tells aside steps log r) (hp : p.Reports P)
    (haside : ∀ q a told, aside q a told → ∀ event ∈ told, P event) : ∀ event ∈ log, P event := by
  induction h with
  | done result => exact List.forall_mem_nil _
  | note _ ih =>
    cases hp with
    | note hevent hnext => exact List.forall_mem_cons.mpr ⟨hevent, ih hnext⟩
  | ask htold _ ih =>
    cases hp with
    | ask hnext => exact List.forall_mem_append.mpr ⟨haside _ _ _ htold, ih (hnext _)⟩

end SessionGate.Program
