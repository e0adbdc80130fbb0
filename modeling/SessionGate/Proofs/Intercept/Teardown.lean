import SessionGate.Proofs.Intercept.Restoration

/-! # A run takes down what it has put up

* `TakenDown`: what stands around the deletion in a history that was not cut short, and what decides its
  result (`takenDown_of_ends`).
* `Site.Records`: the site keeps a trace of the calls that it receives. Scripted sites are so.
* `run_takes_down`: a run whose manifests are missing or not applied ends there. Any other run that
  returns deletes all its manifests once, then restores what its installation told, and the trace of the
  site says the same.
-/
namespace SessionGate.Intercept
set_option autoImplicit false
open Cluster (Error Manifest)
open Program (Step Along)

variable {σ κ : Type} {plan : Plan} {manifests : List Manifest} {steps : List (Step stage)}

/-! ## Around the deletion -/

/-- What a run comes to, from the steps before its deletion. -/
def ComesTo (plan : Plan) (before : List (Step stage)) :
    Except Error Guarded → Except Error Outcome → Prop
  | .error e, result => result = .error e
  | .ok _, result =>
    ⟨.wait plan.wait, true⟩ ∈ before ∧ result = .ok .interrupted ∨
    (∃ outcome, ⟨.awaitExit, outcome⟩ ∈ before ∧ result = .ok outcome) ∨
    ∃ crash, ⟨.cluster (.workload plan.namespaceName plan.echoDeploy), .crashed crash⟩ ∈ before ∧
      result = .error (.internal crash.message "wait_and_tail")

/-- Around the only deletion of a run: `before` are the steps between the application of the manifests
and the deletion, `back` are the calls after it. -/
structure TakenDown (plan : Plan) (manifests : List Manifest) (found : Except Error Guarded)
    (before : List (Step stage)) (back : List (Step routeAccess)) (result : Except Error Outcome) :
    Prop where
  installed : (RouteGuard.install plan.namespaceName plan.session).Ends
    (List.filterMap routeStep? before) found
  deletesOnce : ∀ step ∈ before, deletes step = false
  /-- A task that was started has been stopped when the manifests are deleted. -/
  logStopped : ∀ ns deployment, ⟨.startLog ns deployment, ()⟩ ∈ before →
    ∃ first crash, before = first ++ [⟨.stopLog, crash⟩]
  restored : Restores plan.namespaceName found.toOption back
  comesTo : ComesTo plan before found result
  /-- Whatever the deletion and the restoration are answered, the result is the same. -/
  decided : ∀ steps' result', (run plan).Ends steps' result' →
    List.takeWhile (!deletes ·) steps' = ⟨.cluster (.apply manifests), .ok ()⟩ :: before → result' = result

theorem Waits.comesTo {found : Except Error Guarded} {result : Except Error Outcome}
    {asked : List (Step stage)} (h : Waits plan found steps result) :
    ComesTo plan (asked ++ steps) found result := by
  cases h with
  | refused e => rfl
  | cancelled guarded => exact .inl ⟨by simp, rfl⟩
  | crashed guarded crash => exact .inr (.inr ⟨crash, by simp, rfl⟩)
  | tailed guarded found outcome crash => exact .inr (.inl ⟨outcome, by simp, rfl⟩)

theorem Waits.logStopped {found : Except Error Guarded} {result : Except Error Outcome}
    {ns deployment : String} (h : Waits plan found steps result)
    (hstart : ⟨.startLog ns deployment, ()⟩ ∈ steps) : ∃ first crash, steps = first ++ [⟨.stopLog, crash⟩] := by
  cases h with
  | refused e => cases hstart
  | cancelled guarded =>
    cases List.mem_singleton.mp hstart
  | crashed guarded crash =>
    rcases List.mem_cons.mp hstart with h | h
    · cases h
    · cases List.mem_singleton.mp h
  | tailed guarded found outcome crash => exact ⟨[_, _, _, _], crash, rfl⟩

theorem Waits.result_unique {found : Except Error Guarded} {result result' : Except Error Outcome}
    (h : Waits plan found steps result) (h' : Waits plan found steps result') : result = result' := by
  cases h <;> cases h' <;> rfl

/-- The calls of the installation are those before the wait. -/
theorem before_unique {asked asked' : List (Step routeAccess)} {waiting waiting' : List (Step stage)}
    (hquiet : Quiet waiting) (hquiet' : Quiet waiting')
    (h : asked.map storeStep ++ waiting = asked'.map storeStep ++ waiting') :
    asked = asked' ∧ waiting = waiting' := by
  have hcalls := congrArg (List.filterMap routeStep?) h
  rw [List.filterMap_append, List.filterMap_append, filterMap_storeStep, filterMap_storeStep,
    hquiet.filterMap, hquiet'.filterMap, List.append_nil, List.append_nil] at hcalls
  subst hcalls
  exact ⟨rfl, List.append_cancel_left h⟩

/-- From the application of the manifests on, a history goes on to the deletion and beyond it. -/
theorem takenDown_of_ends {rest : List (Step stage)} {result : Except Error Outcome}
    (hends : (run plan).Ends (⟨.cluster (.apply manifests), .ok ()⟩ :: rest) result) :
    ∃ found before deleted, ∃ back : List (Step routeAccess),
      rest = before ++ ⟨.cluster (.delete manifests), deleted⟩ :: back.map storeStep ∧
        TakenDown plan manifests found before back result := by
  cases run_ends_iff.mp hends with
  | @takenDown _ asked back found waiting deleted _ hplan hinstall hwaits hback =>
    have hcalls : List.filterMap routeStep? (asked.map storeStep ++ waiting) = asked := by
      rw [List.filterMap_append, filterMap_storeStep, hwaits.quiet.filterMap, List.append_nil]
    have hbefore := not_deletes_before manifests asked hwaits.quiet (.ok ())
    refine ⟨found, asked.map storeStep ++ waiting, deleted, back, by rw [List.append_assoc], ?_⟩
    refine ⟨by rwa [hcalls], fun step hstep => hbefore step (List.mem_cons_of_mem _ hstep), ?_, hback,
      hwaits.comesTo, ?_⟩
    · intro ns deployment hstart
      have hstart : (⟨.startLog ns deployment, ()⟩ : Step stage) ∈ waiting := by
        rcases List.mem_append.mp hstart with h | h
        · obtain ⟨call, -, hcall⟩ := List.mem_map.mp h
          cases hcall
        · exact h
      obtain ⟨first, crash, rfl⟩ := hwaits.logStopped hstart
      exact ⟨asked.map storeStep ++ first, crash, by rw [List.append_assoc]⟩
    · intro steps' result' hends' hsame
      cases run_ends_iff.mp hends' with
      | unplanned => cases hsame
      | unapplied => cases hsame
      | @takenDown manifests' asked' back' found' waiting' deleted' _ hplan' hinstall' hwaits' hback' =>
        obtain rfl := Except.ok.inj (hplan.symm.trans hplan')
        have hspan := (span_deletion manifests deleted' (back'.map storeStep)
          (not_deletes_before manifests asked' hwaits'.quiet (.ok ()))).1
        rw [List.cons_append, List.append_assoc, hsame] at hspan
        obtain ⟨rfl, rfl⟩ := before_unique hwaits.quiet hwaits'.quiet (List.cons.inj hspan).2
        obtain rfl := hinstall.result_unique hinstall'
        exact hwaits'.result_unique hwaits

/-! ## Traces of calls -/

/-- The call of the cluster that a step is, if it is one. -/
def clusterCall? : Step stage → Option ClusterCall
  | ⟨.cluster call, _⟩ => some call
  | _ => none

/-- A site that records each call of the cluster once, and while a log is followed something else. -/
structure Site.Records (site : Site σ κ) (call? : κ → Option ClusterCall) : Prop where
  answer (call : ClusterCall) (m : Moment σ κ) : ∃ record, call? record = some call ∧
    (site.answer call m).2.calls = m.calls ++ [(m.now, record)]
  stream (ns deployment : String) (deadline : Option Nat) (m : Moment σ κ) : ∃ own,
    (site.stream ns deployment deadline m).2.calls = m.calls ++ own ∧ ∀ x ∈ own, call? x.2 = none

/-- The call that a record is of. -/
def SiteCall.cluster? : SiteCall → Option ClusterCall
  | .cluster call => some call
  | _ => none

theorem Script.site_records (script : Script) : script.site.Records SiteCall.cluster? where
  answer call m := ⟨.cluster call, rfl, rfl⟩
  stream ns deployment deadline m := by
    change ∃ own, (script.stream ns deployment deadline m).2.calls = m.calls ++ own ∧ _
    rw [Script.stream]
    split
    · exact ⟨[(m.now, .stream ns deployment)], rfl, by simp [SiteCall.cluster?]⟩
    · next logs _ =>
      dsimp only
      split
      · exact ⟨[(m.now, .stream ns deployment)], rfl, by simp [SiteCall.cluster?]⟩
      · split
        · exact ⟨[(m.now, .stream ns deployment)], rfl, by simp [SiteCall.cluster?]⟩
        · refine ⟨[(m.now, .stream ns deployment), (m.now + logs.span, .streamEnd)], ?_,
            by simp [SiteCall.cluster?]⟩
          exact List.append_assoc m.calls _ _

/-- What a step adds to a trace. -/
def StepRecords (call? : κ → Option ClusterCall) (calls : List (Nat × κ)) (step : Step stage)
    (calls' : List (Nat × κ)) : Prop :=
  ∃ own, calls' = calls ++ own ∧
    match clusterCall? step with
    | some call => List.map (call? ·.2) own = [some call]
    | none => ∀ x ∈ own, call? x.2 = none

variable {call? : κ → Option ClusterCall} {calls calls' : List (Nat × κ)}

theorem along_records (h : Along (StepRecords call?) calls steps calls') : ∃ own, calls' = calls ++ own ∧
    List.filterMap (call? ·.2) own = List.filterMap clusterCall? steps := by
  induction h with
  | nil => exact ⟨[], (List.append_nil _).symm, rfl⟩
  | @cons t u v step steps hstep _ ih =>
    obtain ⟨own, rfl, hown⟩ := hstep
    obtain ⟨later, rfl, hlater⟩ := ih
    refine ⟨own ++ later, List.append_assoc t own later, ?_⟩
    rw [List.filterMap_append, hlater]
    cases hcall : clusterCall? step with
    | none =>
      rw [hcall] at hown
      rw [List.filterMap_cons_none hcall, List.filterMap_eq_nil_iff.mpr hown, List.nil_append]
    | some call =>
      rw [hcall] at hown
      have hone : List.filterMap (call? ·.2) own = List.filterMap id (List.map (call? ·.2) own) := by
        rw [List.filterMap_map]
        rfl
      rw [List.filterMap_cons_some hcall, hone, hown]
      rfl

/-- Calls of the cluster, and nothing else, leave their records alone in the trace. -/
theorem along_records_calls (h : Along (StepRecords call?) calls steps calls')
    (hsteps : ∀ step ∈ steps, (clusterCall? step).isSome) : ∃ own, calls' = calls ++ own ∧
      List.map (call? ·.2) own = List.map clusterCall? steps := by
  induction h with
  | nil => exact ⟨[], (List.append_nil _).symm, rfl⟩
  | @cons t u v step steps hstep _ ih =>
    obtain ⟨hfirst, hrest⟩ := List.forall_mem_cons.mp hsteps
    obtain ⟨own, rfl, hown⟩ := hstep
    obtain ⟨later, rfl, hlater⟩ := ih hrest
    obtain ⟨call, hcall⟩ := Option.isSome_iff_exists.mp hfirst
    rw [hcall] at hown
    refine ⟨own ++ later, List.append_assoc t own later, ?_⟩
    rw [List.map_append, hown, hlater, List.map_cons, hcall]
    rfl

variable {site : Site σ κ}

/-- What is not asked of the cluster is not recorded as a call of it. -/
theorem Rehearsal.answer_calls (hsite : site.Records call?) (schedule : Schedule) (act : Act)
    (r : Rehearsal σ κ) (hact : ∀ call, act ≠ .cluster call) :
    ∃ own, (answer site schedule act r).2.moment.calls = r.moment.calls ++ own ∧
      ∀ x ∈ own, call? x.2 = none := by
  rcases answer_other site schedule act r hact with ⟨-, hcalls⟩ | ⟨ns, deployment, deadline, -, hcalls⟩
  · rw [hcalls]
    exact ⟨[], (List.append_nil _).symm, List.forall_mem_nil _⟩
  · rw [hcalls]
    exact hsite.stream ns deployment deadline r.moment

/-- The trace of a run grows by the calls of its history. -/
theorem Rehearsal.run_records (hsite : site.Records call?) {schedule : Schedule} {α : Type}
    {program : Program stage α} {m m' : Moment σ κ} {result : Option α}
    (h : run site schedule program m = (result, m')) :
    Along (StepRecords call?) m.calls (Rehearsal.steps site schedule program m) m'.calls := by
  refine along_steps (fun m => m.calls) (fun _ _ => rfl) (fun act r a r' hanswer => ?_) h
  by_cases hact : ∃ call, act = .cluster call
  · obtain ⟨call, rfl⟩ := hact
    obtain ⟨-, rfl⟩ := Prod.mk.inj hanswer
    obtain ⟨record, hrecord, hcalls⟩ := hsite.answer call r.moment
    refine ⟨[(r.moment.now, record)], hcalls, ?_⟩
    simp [clusterCall?, hrecord]
  · have hown := answer_calls hsite schedule act r fun call hcall => hact ⟨call, hcall⟩
    rw [hanswer] at hown
    cases act with
    | cluster call => exact absurd ⟨call, rfl⟩ hact
    | _ => exact hown

/-! ## Whole runs -/

/-- A program that begins with a call of the cluster goes on from its answer. -/
theorem Rehearsal.first_call {α : Type} {schedule : Schedule} {event : Log.Event} {call : ClusterCall}
    {next : call.Answer → Program stage α} {m m₁ : Moment σ κ} {a : call.Answer}
    (hfirst : site.answer call (m.note event) = (a, m₁)) :
    Rehearsal.steps site schedule (.note event (.ask (.cluster call) next)) m =
        ⟨.cluster call, a⟩ :: Rehearsal.steps site schedule (next a) m₁ ∧
      Rehearsal.run site schedule (.note event (.ask (.cluster call) next)) m =
        Rehearsal.run site schedule (next a) m₁ := by
  obtain ⟨rfl, rfl⟩ := Prod.mk.inj hfirst
  exact ⟨rfl, rfl⟩

/-- The first thing that a run asks for is the application of its manifests; without it the run ends. -/
theorem run_applies (hplan : plan.manifests = .ok manifests) : ∃ event next,
    run plan = .note event (.ask (.cluster (.apply manifests)) next) ∧
      ∀ e, next (.error e) = .done (.error e) := by
  rw [run, hplan]
  exact ⟨_, _, rfl, fun e => rfl⟩

/-- A run whose manifests are missing, or are not applied, ends with that error and asks nothing more.
From the application on, a run that returns is taken down, and so says the trace of the site: after the
deletion it has the calls of the restoration alone. -/
theorem run_takes_down (site : Site σ κ) (schedule : Schedule) (plan : Plan) (m : Moment σ κ) :
    (∀ e, plan.manifests = .error e →
      Rehearsal.run site schedule (run plan) m = (some (.error e), m) ∧
        Rehearsal.steps site schedule (run plan) m = []) ∧
    ∀ manifests, plan.manifests = .ok manifests → ∃ applied rest,
      Rehearsal.steps site schedule (run plan) m = ⟨.cluster (.apply manifests), applied⟩ :: rest ∧
      (∀ e, applied = .error e →
        (Rehearsal.run site schedule (run plan) m).1 = some (.error e) ∧ rest = []) ∧
      ∀ result m', applied = .ok () → Rehearsal.run site schedule (run plan) m = (some result, m') →
        ∃ found before deleted, ∃ back : List (Step routeAccess),
          rest = before ++ ⟨.cluster (.delete manifests), deleted⟩ :: back.map storeStep ∧
          TakenDown plan manifests found before back result ∧
          ∀ call? : κ → Option ClusterCall, site.Records call? → ∃ early late,
            m'.calls = m.calls ++ early ++ late ∧
            List.filterMap (call? ·.2) early = .apply manifests :: List.filterMap clusterCall? before ∧
            List.map (call? ·.2) late = some (.delete manifests) :: back.map (some <| .route ·.1) := by
  constructor
  · intro e hplan
    rw [run, hplan]
    exact ⟨rfl, rfl⟩
  · intro manifests hplan
    obtain ⟨event, next, hrun, hnext⟩ := run_applies hplan
    rcases hfirst : site.answer (.apply manifests) (m.note event) with ⟨applied, m₁⟩
    have hsteps : Rehearsal.steps site schedule (run plan) m =
        ⟨.cluster (.apply manifests), applied⟩ :: Rehearsal.steps site schedule (next applied) m₁ := by
      rw [hrun]
      exact (Rehearsal.first_call hfirst).1
    refine ⟨applied, Rehearsal.steps site schedule (next applied) m₁, hsteps, ?_, ?_⟩
    · rintro e rfl
      have hended : Rehearsal.run site schedule (run plan) m = (some (.error e), m₁) := by
        rw [hrun]
        refine (Rehearsal.first_call hfirst).2.trans ?_
        rw [hnext]
        rfl
      rw [hended, hnext]
      exact ⟨rfl, rfl⟩
    · rintro result m' rfl hresult
      have hends := Rehearsal.ends_steps hresult
      rw [hsteps] at hends
      obtain ⟨found, before, deleted, back, hrest, hdown⟩ := takenDown_of_ends hends
      refine ⟨found, before, deleted, back, hrest, hdown, ?_⟩
      intro call? hsite
      have halong := Rehearsal.run_records hsite hresult
      rw [hsteps, hrest, ← List.cons_append] at halong
      obtain ⟨calls, hbefore, hafter⟩ := Program.along_append.mp halong
      obtain ⟨early, rfl, hearly⟩ := along_records hbefore
      obtain ⟨late, hlate, hcalls⟩ := along_records_calls hafter (by
        refine List.forall_mem_cons.mpr ⟨rfl, fun step hstep => ?_⟩
        obtain ⟨call, -, rfl⟩ := List.mem_map.mp hstep
        rfl)
      refine ⟨early, late, hlate, hearly, ?_⟩
      rw [hcalls, List.map_cons, List.map_map]
      rfl

/-- The manifests cannot be deleted, and the log crashes. -/
def brokenLogScript : Script :=
  ⟨.ok (), .error (.internal "refused" "delete"), .returned (.ok none), some ⟨5, .crashed ⟨some "lost"⟩⟩⟩

def podPlan : Plan := ⟨"default", "abc", "{apiVersion: v1, kind: Pod, metadata: {name: x}}", ⟨0⟩, "echo"⟩

/-- A run whose log crashes at a site that does not delete. -/
theorem run_takes_down_brokenLog : ∃ manifests m', podPlan.manifests = .ok manifests ∧
    Rehearsal.run brokenLogScript.site ⟨200, none⟩ (run podPlan) crashingStart =
      (some (.ok .completed), m') ∧
    ∃ found before, ∃ back : List (Step routeAccess), ∃ early late,
      TakenDown podPlan manifests found before back (.ok .completed) ∧ m'.calls = early ++ late ∧
        List.map (SiteCall.cluster? ·.2) late =
          some (.delete manifests) :: back.map (some <| .route ·.1) := by
  have hrun : (Rehearsal.run brokenLogScript.site ⟨200, none⟩ (run podPlan) crashingStart).1 =
      some (.ok .completed) := by decide +kernel
  have hplan : podPlan.manifests.isOk = true := by decide +kernel
  obtain ⟨manifests, hplan⟩ : ∃ manifests, podPlan.manifests = .ok manifests := by
    cases h : podPlan.manifests with
    | ok manifests => exact ⟨manifests, rfl⟩
    | error e =>
      rw [h] at hplan
      cases hplan
  obtain ⟨applied, rest, -, hrefused, hdown⟩ :=
    (run_takes_down brokenLogScript.site ⟨200, none⟩ podPlan crashingStart).2 manifests hplan
  -- the state after the run is not looked at
  rcases hend : Rehearsal.run brokenLogScript.site ⟨200, none⟩ (run podPlan) crashingStart with ⟨r, m'⟩
  rw [hend] at hrun hrefused
  obtain rfl : r = some (.ok .completed) := hrun
  have happlied : applied = .ok () := by
    cases applied with
    | ok => rfl
    | error e => cases (hrefused e rfl).1
  obtain ⟨found, before, deleted, back, -, htaken, htrace⟩ := hdown _ _ happlied hend
  obtain ⟨early, late, hcalls, -, hlate⟩ := htrace _ brokenLogScript.site_records
  exact ⟨manifests, m', hplan, rfl, found, before, back, early, late, htaken, hcalls, hlate⟩

end SessionGate.Intercept
