import SessionGate.Intercept.ClusterSite
import SessionGate.Proofs.Intercept.Rehearsal

/-! # How long a run waits

* `LeavesAt`: the first poll that finds a run cancelled or its task ended, which `exitPoll` computes
  (`exitPoll_eq_some`).
* `Site.Cancelled`, `Site.Ended`: what a poll finds. At its own instant it finds what comes first there.
* `Rehearsal.follow_leads`: the part of a run in front of the polls.
* `Rehearsal.follow_outcome`: a run that is cancelled in its delay starts nothing; after it the run starts
  one task, and goes on up to the first poll that finds the run cancelled or the task ended. -/
namespace SessionGate.Intercept
set_option autoImplicit false
open Cluster (Error)
open Program (Leads Step)

/-! ## Polls -/

/-- The first poll that finds something; it looks for a cancellation first, and then whether the task has ended. -/
def LeavesAt (interval start : Nat) (Cut Over : Nat → Prop) (poll : Nat) (outcome : Outcome) : Prop :=
  ∃ k, poll = start + k * interval ∧
    (Cut poll ∧ outcome = .interrupted ∨ ¬ Cut poll ∧ Over poll ∧ outcome = .completed) ∧
    ∀ j < k, ¬ Cut (start + j * interval) ∧ ¬ Over (start + j * interval)

variable {interval start poll poll' first : Nat} {cancelledFrom endedFrom : Option Nat} {Cut Over : Nat → Prop}
  {outcome outcome' : Outcome}

theorem LeavesAt.found (h : LeavesAt interval start Cut Over poll outcome) : Cut poll ∨ Over poll := by
  obtain ⟨-, -, ⟨hcancelled, -⟩ | ⟨-, hended, -⟩, -⟩ := h
  · exact .inl hcancelled
  · exact .inr hended

theorem LeavesAt.not_cancelled (h : LeavesAt interval start Cut Over poll .completed) : ¬ Cut poll := by
  obtain ⟨-, -, ⟨-, ⟨⟩⟩ | ⟨hcancelled, -⟩, -⟩ := h
  exact hcancelled

theorem LeavesAt.unique (h : LeavesAt interval start Cut Over poll outcome)
    (h' : LeavesAt interval start Cut Over poll' outcome') : poll = poll' ∧ outcome = outcome' := by
  have hfound := h.found
  have hfound' := h'.found
  obtain ⟨k, rfl, hout, hbefore⟩ := h
  obtain ⟨k', rfl, hout', hbefore'⟩ := h'
  obtain hlt | rfl | hlt := Nat.lt_trichotomy k k'
  · exact absurd hfound (not_or.mpr (hbefore' k hlt))
  · refine ⟨rfl, ?_⟩
    rcases hout with ⟨hcancelled, rfl⟩ | ⟨hcancelled, -, rfl⟩
    · rcases hout' with ⟨-, rfl⟩ | ⟨hnot, -⟩
      · rfl
      · exact absurd hcancelled hnot
    · rcases hout' with ⟨hyes, -⟩ | ⟨-, -, rfl⟩
      · exact absurd hyes hcancelled
      · rfl
  · exact absurd hfound' (not_or.mpr (hbefore k' hlt))

theorem earlier_eq_none : earlier cancelledFrom endedFrom = none ↔ cancelledFrom = none ∧ endedFrom = none := by
  cases cancelledFrom <;> cases endedFrom <;> simp [earlier]

theorem earlier_eq_some (h : earlier cancelledFrom endedFrom = some first) (poll : Nat) :
    first ≤ poll ↔ cancelledFrom.any (· ≤ poll) = true ∨ endedFrom.any (· ≤ poll) = true := by
  cases cancelledFrom <;> cases endedFrom <;> simp [earlier] at h ⊢ <;> omega

/-- The first poll that is not before an instant. -/
theorem le_pollFor (hinterval : 0 < interval) (start first : Nat) :
    first ≤ start + (first - start + (interval - 1)) / interval * interval := by
  have hnext : first - start + (interval - 1) < ((first - start + (interval - 1)) / interval + 1) * interval := by
    rw [Nat.mul_comm]
    exact Nat.lt_mul_div_succ _ hinterval
  rw [Nat.succ_mul] at hnext
  omega

theorem poll_lt {j : Nat} (hinterval : 0 < interval) (hj : j < (first - start + (interval - 1)) / interval) :
    start + j * interval < first := by
  have hle : (j + 1) * interval ≤ first - start + (interval - 1) := (Nat.le_div_iff_mul_le hinterval).mp hj
  rw [Nat.succ_mul] at hle
  omega

theorem leavesAt_of_exitPoll (hinterval : 0 < interval) (hcancelled : ∀ p, cancelledFrom.any (· ≤ p) = true ↔ Cut p)
    (hended : ∀ p, endedFrom.any (· ≤ p) = true ↔ Over p)
    (h : exitPoll interval start cancelledFrom endedFrom = some (poll, outcome)) :
    LeavesAt interval start Cut Over poll outcome := by
  obtain ⟨first, hfirst, hexit⟩ := Option.map_eq_some_iff.mp h
  obtain ⟨hpoll, houtcome⟩ := Prod.mk.inj hexit
  have hshows (p : Nat) : first ≤ p ↔ Cut p ∨ Over p := by
    rw [earlier_eq_some hfirst p, hcancelled, hended]
  refine ⟨_, hpoll.symm, ?_, fun j hj => ?_⟩
  · have hfound := (hshows _).mp (le_pollFor hinterval start first)
    rw [hpoll] at hfound houtcome
    by_cases hcut : Cut poll
    · rw [if_pos ((hcancelled poll).mpr hcut)] at houtcome
      exact .inl ⟨hcut, houtcome.symm⟩
    · rw [if_neg fun hyes => hcut ((hcancelled poll).mp hyes)] at houtcome
      exact .inr ⟨hcut, hfound.resolve_left hcut, houtcome.symm⟩
  · have hbefore : ¬ first ≤ start + j * interval := Nat.not_le.mpr (poll_lt hinterval hj)
    exact not_or.mp fun hfound => hbefore ((hshows _).mpr hfound)

theorem exitPoll_eq_some (hinterval : 0 < interval) (hcancelled : ∀ p, cancelledFrom.any (· ≤ p) = true ↔ Cut p)
    (hended : ∀ p, endedFrom.any (· ≤ p) = true ↔ Over p) :
    exitPoll interval start cancelledFrom endedFrom = some (poll, outcome) ↔
      LeavesAt interval start Cut Over poll outcome := by
  refine ⟨leavesAt_of_exitPoll hinterval hcancelled hended, fun h => ?_⟩
  cases hexit : exitPoll interval start cancelledFrom endedFrom with
  | none =>
    obtain ⟨rfl, rfl⟩ := earlier_eq_none.mp (Option.map_eq_none_iff.mp hexit)
    rcases h.found with hfound | hfound
    · cases (hcancelled poll).mpr hfound
    · cases (hended poll).mpr hfound
  | some exit =>
    obtain ⟨poll', outcome'⟩ := exit
    obtain ⟨rfl, rfl⟩ := h.unique (leavesAt_of_exitPoll hinterval hcancelled hended hexit)
    rfl

/-! ## What a poll finds -/

variable {σ κ : Type}

/-- Whether a run is cancelled where a timer fires at an instant. -/
def Site.Cancelled (site : Site σ κ) (schedule : Schedule) (instant : Nat) : Prop :=
  ∃ c, schedule.cancelledAt = some c ∧ (c = 0 ∨ c < instant ∨ c = instant ∧ site.cancelsFirst = true)

/-- When logs that are followed from a moment on come to their end. -/
def Site.endsAt (site : Site σ κ) (ns deployment : String) (m : Moment σ κ) : Option Nat :=
  let (ending, atEnd) := site.stream ns deployment none m
  ending.map fun _ => atEnd.now

/-- Whether logs that are followed from a moment on have ended where a timer fires at an instant. -/
def Site.Ended (site : Site σ κ) (ns deployment : String) (m : Moment σ κ) (instant : Nat) : Prop :=
  ∃ e, site.endsAt ns deployment m = some e ∧ (e < instant ∨ e = instant ∧ site.endsFirst = true)

/-- The poll at which a run is left whose task is started at a moment. -/
def Site.Leaves (site : Site σ κ) (schedule : Schedule) (ns deployment : String) (started : Moment σ κ) (poll : Nat)
    (outcome : Outcome) : Prop :=
  LeavesAt (max schedule.poll 1) started.now (site.Cancelled schedule) (site.Ended ns deployment started) poll outcome

theorem showsFrom_le {comesFirst : Bool} {i instant : Nat} :
    showsFrom comesFirst i ≤ instant ↔ i < instant ∨ i = instant ∧ comesFirst = true := by
  cases comesFirst with
  | true =>
    simp only [showsFrom, and_true]
    exact Nat.le_iff_lt_or_eq
  | false =>
    simp only [showsFrom, Bool.false_eq_true, if_false, and_false, or_false]
    exact Nat.succ_le_iff

theorem cancelledFrom_any (site : Site σ κ) (schedule : Schedule) (instant : Nat) :
    (site.cancelledFrom schedule).any (· ≤ instant) = true ↔ site.Cancelled schedule instant := by
  unfold Site.cancelledFrom Site.Cancelled
  cases schedule.cancelledAt with
  | none => simp
  | some c =>
    by_cases hc : c = 0
    · simp [hc]
    · simp [hc, showsFrom_le]

theorem endedFrom_any (site : Site σ κ) (ns deployment : String) (m : Moment σ κ) (instant : Nat) :
    ((site.endsAt ns deployment m).map (showsFrom site.endsFirst)).any (· ≤ instant) = true ↔
      site.Ended ns deployment m instant := by
  unfold Site.Ended
  cases site.endsAt ns deployment m with
  | none => simp
  | some e => simp [showsFrom_le]

theorem Script.endsAt_site (script : Script) (ns deployment : String) (m : Moment RouteDesk SiteCall) :
    script.site.endsAt ns deployment m = script.logs.map (m.now + ·.span) := by
  rw [Site.endsAt, show script.site.stream = script.stream from rfl, Script.stream]
  cases script.logs with
  | none => rfl
  | some logs =>
    obtain ⟨span, ending⟩ := logs
    cases ending with
    | returned result => rfl
    | crashed crash => rfl

/-! ## A run that waits -/

namespace Rehearsal

variable {site : Site σ κ} {schedule : Schedule} {plan : Plan} {span : Duration} {r : Rehearsal σ κ} {m : Moment σ κ}
  {ns deployment : String} {c : Nat}

theorem now_leave (schedule : Schedule) (outcome : Outcome) (m : Moment σ κ) :
    (leave schedule outcome m).now = m.now := by
  cases outcome with
  | completed => rfl
  | interrupted => exact m.now_notice _

theorem answer_wait_cut (hcancel : schedule.cancelledAt = some c) (hearly : c < r.moment.now + span.ceilMillis) :
    answer site schedule (.wait span) r =
      (some true, { r with moment := ({ r.moment with now := max r.moment.now c } : Moment σ κ).notice (some c) }) := by
  have hshows : (site.cancelledFrom schedule).any (· ≤ r.moment.now + span.ceilMillis) = true :=
    (cancelledFrom_any site schedule _).mpr ⟨c, hcancel, .inr (.inl hearly)⟩
  rw [answer, hcancel]
  exact if_pos hshows

theorem answer_wait_over (hlate : ∀ c, schedule.cancelledAt = some c → r.moment.now + span.ceilMillis < c) :
    answer site schedule (.wait span) r =
      (some false, { r with moment := { r.moment with now := r.moment.now + span.ceilMillis } }) := by
  rw [answer]
  cases hcancel : schedule.cancelledAt with
  | none => rfl
  | some c =>
    have hhidden : ¬ (site.cancelledFrom schedule).any (· ≤ r.moment.now + span.ceilMillis) = true := by
      rw [cancelledFrom_any]
      rintro ⟨c', hc', hshows⟩
      have hlate := hlate c' hc'
      omega
    exact if_neg hhidden

theorem awaitExit_leaves (htask : r.task = some (ns, deployment))
    (h : site.Leaves schedule ns deployment r.moment poll outcome) :
    ∃ r', answer site schedule .awaitExit r = (some outcome, r') ∧ r'.moment.now = poll := by
  have hexit := (exitPoll_eq_some (by omega) (cancelledFrom_any site schedule)
    (endedFrom_any site ns deployment r.moment)).mpr h
  rw [Site.endsAt] at hexit
  rw [answer, awaitExit, htask]
  dsimp only
  rw [hexit]
  dsimp only
  split
  · next hnow =>
    have hpoll : poll = r.moment.now := by
      obtain ⟨k, hk, -⟩ := h
      cases hfirst : site.endsFirst with
      | true =>
        rw [hfirst] at hnow
        have hnow : poll + 1 = r.moment.now := hnow
        omega
      | false =>
        rw [hfirst] at hnow
        exact hnow
    exact ⟨_, rfl, (now_leave _ _ _).trans hpoll.symm⟩
  · exact ⟨_, rfl, now_leave _ _ _⟩

theorem awaitExit_open (htask : r.task = some (ns, deployment))
    (h : ∀ poll outcome, ¬ site.Leaves schedule ns deployment r.moment poll outcome) :
    answer site schedule .awaitExit r = (none, r) := by
  rw [answer, awaitExit, htask]
  dsimp only
  cases hexit : exitPoll (max schedule.poll 1) r.moment.now (site.cancelledFrom schedule)
      ((site.endsAt ns deployment r.moment).map (showsFrom site.endsFirst)) with
  | none =>
    rw [Site.endsAt] at hexit
    rw [hexit]
  | some exit => exact absurd ((exitPoll_eq_some (by omega) (cancelledFrom_any site schedule)
      (endedFrom_any site ns deployment r.moment)).mp hexit) (h _ _)

/-- The deployment whose logs are followed: the one that was found, or else the one that was named. -/
def tailed (plan : Plan) (found : Except Error String) : String := found.toOption.getD plan.echoDeploy

/-- The steps in front of the polls. -/
def stepsToTail (plan : Plan) (found : Except Error String) : List (Step stage) :=
  [⟨.wait plan.wait, false⟩, ⟨.cluster (.workload plan.namespaceName plan.echoDeploy), .returned found⟩,
    ⟨.startLog plan.namespaceName (tailed plan found), ()⟩]

def awaited : Program stage (Attempt (Outcome × Bool)) :=
  .ask .awaitExit fun outcome => .done (.returned (outcome, true))

variable {found : Except Error String} {looked started m' : Moment σ κ}

/-- A run that has started its task comes to its polls. -/
def Tails (site : Site σ κ) (schedule : Schedule) (plan : Plan) (found : Except Error String) (m started : Moment σ κ) :
    Prop :=
  Leads note (answer site schedule) (follow plan) ⟨m, none, none⟩ (stepsToTail plan found) awaited
    ⟨started, some (plan.namespaceName, tailed plan found), none⟩

theorem follow_leads (hlate : ∀ c, schedule.cancelledAt = some c → m.now + plan.wait.ceilMillis < c)
    (hlook : site.answer (.workload plan.namespaceName plan.echoDeploy)
      { m with now := m.now + plan.wait.ceilMillis } = (.returned found, looked)) :
    ∃ started : Moment σ κ, started.now = looked.now ∧ started.world = looked.world ∧ started.calls = looked.calls ∧
      Tails site schedule plan found m started := by
  have hwait : answer site schedule (.wait plan.wait) ⟨m, none, none⟩ =
      (some false, ⟨{ m with now := m.now + plan.wait.ceilMillis }, none, none⟩) := answer_wait_over hlate
  have hcall : answer site schedule (.cluster (.workload plan.namespaceName plan.echoDeploy))
      ⟨{ m with now := m.now + plan.wait.ceilMillis }, none, none⟩ =
        (some (.returned found), ⟨looked, none, none⟩) := by
    rw [answer, hlook]
  cases found with
  | ok name =>
    refine ⟨_, ?_, ?_, ?_, (Leads.ask hwait).trans ((Leads.ask hcall).trans (Leads.note.trans (Leads.ask rfl)))⟩
    · rfl
    · rfl
    · rfl
  | error e =>
    refine ⟨_, ?_, ?_, ?_,
      (Leads.ask hwait).trans ((Leads.ask hcall).trans (Leads.note.trans (Leads.note.trans (Leads.ask rfl))))⟩
    · rfl
    · rfl
    · rfl

theorem follow_cut (hcancel : schedule.cancelledAt = some c) (hearly : c < m.now + plan.wait.ceilMillis) :
    Leads note (answer site schedule) (follow plan) ⟨m, none, none⟩ [⟨.wait plan.wait, true⟩]
      (.done (.returned (.interrupted, false)))
      ⟨({ m with now := max m.now c } : Moment σ κ).notice (some c), none, none⟩ :=
  Leads.ask (answer_wait_cut hcancel hearly)

theorem Tails.run_of_leaves (h : Tails site schedule plan found m started)
    (hleaves : site.Leaves schedule plan.namespaceName (tailed plan found) started poll outcome) :
    (∃ m', run site schedule (follow plan) m = (some (.returned (outcome, true)), m') ∧ m'.now = poll) ∧
      steps site schedule (follow plan) m = stepsToTail plan found ++ [⟨.awaitExit, outcome⟩] := by
  obtain ⟨r', hexit, hpoll⟩ := awaitExit_leaves (r := ⟨started, _, none⟩) rfl hleaves
  obtain ⟨hrun, hsteps⟩ := Leads.trans h (Leads.ask hexit)
  refine ⟨⟨r'.moment, ?_, hpoll⟩, ?_⟩
  · rw [run, hrun]
    rfl
  · rw [steps, hsteps]
    exact List.append_nil _

theorem Tails.run_of_open (h : Tails site schedule plan found m started)
    (hnever : ∀ poll outcome, ¬ site.Leaves schedule plan.namespaceName (tailed plan found) started poll outcome) :
    (run site schedule (follow plan) m).1 = none ∧ steps site schedule (follow plan) m = stepsToTail plan found := by
  have hopen : awaited.runUntil note (answer site schedule) ⟨started, _, none⟩ = (none, _) ∧
      awaited.history note (answer site schedule) ⟨started, _, none⟩ = [] :=
    Program.runUntil_open (awaitExit_open rfl hnever)
  obtain ⟨hnone, hnothing⟩ := hopen
  obtain ⟨hrun, hsteps⟩ := h
  constructor
  · rw [run, hrun, hnone]
  · rw [steps, hsteps, hnothing, List.append_nil]

/-- The poll and the outcome of a run that comes to an end are those at which it is left. -/
theorem Tails.leaves_of_run (h : Tails site schedule plan found m started)
    (hrun : run site schedule (follow plan) m = (some (.returned (outcome, true)), m')) :
    site.Leaves schedule plan.namespaceName (tailed plan found) started m'.now outcome := by
  by_contra hnot
  have hnever (poll : Nat) (outcome' : Outcome) :
      ¬ site.Leaves schedule plan.namespaceName (tailed plan found) started poll outcome' := by
    intro hleaves
    obtain ⟨⟨m'', hrun', rfl⟩, -⟩ := h.run_of_leaves hleaves
    cases hrun.symm.trans hrun'
    exact hnot hleaves
  have hnone := (h.run_of_open hnever).1
  rw [hrun] at hnone
  cases hnone

/-- How a run comes out that waits: it is cut short in its delay, or it starts one task and is left at the first
poll that finds it cancelled or the task ended. Without such a poll it goes on for ever. A run is not completed at a
poll behind its cancellation, and at the instant of the cancellation only if the poll comes first there. -/
theorem follow_outcome (site : Site σ κ) (schedule : Schedule) (plan : Plan) (m : Moment σ κ) :
    (∀ c, schedule.cancelledAt = some c → c < m.now + plan.wait.ceilMillis →
      run site schedule (follow plan) m =
          (some (.returned (.interrupted, false)), ({ m with now := max m.now c } : Moment σ κ).notice (some c)) ∧
        steps site schedule (follow plan) m = [⟨.wait plan.wait, true⟩]) ∧
    ((∀ c, schedule.cancelledAt = some c → m.now + plan.wait.ceilMillis < c) → ∀ found looked,
      site.answer (.workload plan.namespaceName plan.echoDeploy) { m with now := m.now + plan.wait.ceilMillis } =
          (.returned found, looked) →
        ∃ started : Moment σ κ, started.now = looked.now ∧ started.world = looked.world ∧
          started.calls = looked.calls ∧
          (∀ poll outcome, site.Leaves schedule plan.namespaceName (tailed plan found) started poll outcome →
            (∃ m', run site schedule (follow plan) m = (some (.returned (outcome, true)), m') ∧ m'.now = poll) ∧
              steps site schedule (follow plan) m = stepsToTail plan found ++ [⟨.awaitExit, outcome⟩]) ∧
          ((∀ poll outcome, ¬ site.Leaves schedule plan.namespaceName (tailed plan found) started poll outcome) →
            (run site schedule (follow plan) m).1 = none ∧
              steps site schedule (follow plan) m = stepsToTail plan found) ∧
          ∀ outcome m', run site schedule (follow plan) m = (some (.returned (outcome, true)), m') →
            (site.Cancelled schedule m'.now ∨
              site.Ended plan.namespaceName (tailed plan found) started m'.now) ∧
            (outcome = .completed → ∀ c, schedule.cancelledAt = some c →
              m'.now ≤ c ∧ (m'.now = c → site.cancelsFirst = false))) := by
  constructor
  · intro c hcancel hearly
    have hcut : Leads note (answer site schedule) (follow plan) ⟨m, none, none⟩ _ _ _ := follow_cut hcancel hearly
    obtain ⟨hrun, hsteps⟩ := hcut
    constructor
    · rw [run, hrun]
      rfl
    · rw [steps, hsteps]
      rfl
  · intro hlate found looked hlook
    obtain ⟨started, hnow, hworld, hcalls, htails⟩ := follow_leads hlate hlook
    refine ⟨started, hnow, hworld, hcalls, fun poll outcome => htails.run_of_leaves, htails.run_of_open,
      fun outcome m' hrun => ?_⟩
    have hleaves := htails.leaves_of_run hrun
    refine ⟨hleaves.found, ?_⟩
    rintro rfl c hcancel
    have hnot := hleaves.not_cancelled
    constructor
    · by_contra hlt
      exact hnot ⟨c, hcancel, .inr (.inl (by omega))⟩
    · intro heq
      by_contra hfirst
      exact hnot ⟨c, hcancel, .inr (.inr ⟨heq.symm, by simpa using hfirst⟩)⟩

def delayedPlan : Plan := ⟨"default", "abc", "", .ofMillis 5, "echo"⟩

def shortLogScript : Script := ⟨.ok (), .ok (), .returned (.ok (some "web")), some ⟨3, .returned (.ok ())⟩⟩

/-- A site where a cancellation comes before a poll at its instant. -/
def promptSite : Site RouteDesk SiteCall := { shortLogScript.site with cancelsFirst := true }

/-- Logs that start at 5 and end at 8, with polls at 5, 7 and 9: a run that is cancelled at 3 starts nothing, and one
that is cancelled at 9 is interrupted there if the cancellation comes first. -/
theorem follow_outcome_prompt :
    run promptSite ⟨2, some 3⟩ (follow delayedPlan) (.start default) =
        (some (.returned (.interrupted, false)),
          ({ Moment.start default with now := 3 } : Moment RouteDesk SiteCall).notice (some 3)) ∧
      ∃ m', run promptSite ⟨2, some 9⟩ (follow delayedPlan) (.start default) =
        (some (.returned (.interrupted, true)), m') ∧ m'.now = 9 := by
  obtain ⟨hcut, -⟩ := follow_outcome promptSite ⟨2, some 3⟩ delayedPlan (.start default)
  obtain ⟨-, htails⟩ := follow_outcome promptSite ⟨2, some 9⟩ delayedPlan (.start default)
  have hlate : ∀ c, (⟨2, some 9⟩ : Schedule).cancelledAt = some c → 0 + delayedPlan.wait.ceilMillis < c := by
    rintro c ⟨⟩
    decide
  obtain ⟨started, hnow, -, -, hleaves, -⟩ := htails hlate (.ok "web") _ rfl
  have hends : promptSite.endsAt "default" "web" started = some 8 := by
    have hends := shortLogScript.endsAt_site "default" "web" started
    rw [hnow] at hends
    exact hends
  have hquiet (instant : Nat) (hearly : instant ≤ 8) : ¬ promptSite.Cancelled ⟨2, some 9⟩ instant ∧
      ¬ promptSite.Ended "default" "web" started instant := by
    constructor
    · rintro ⟨c, ⟨⟩, hshows⟩
      omega
    · rintro ⟨e, he, hshows⟩
      rw [hends] at he
      cases he
      simp [promptSite, Script.site] at hshows
      omega
  have hpoll : promptSite.Leaves ⟨2, some 9⟩ "default" "web" started 9 .interrupted := by
    rw [Site.Leaves, hnow]
    refine ⟨2, by decide, .inl ⟨⟨9, rfl, .inr (.inr ⟨rfl, rfl⟩)⟩, rfl⟩, fun j hj => hquiet _ ?_⟩
    change 5 + j * 2 ≤ 8
    omega
  exact ⟨(hcut 3 rfl (by decide)).1, (hleaves 9 .interrupted hpoll).1⟩

/-- Where the poll comes first, it finds at the instant of the cancellation that the logs have ended. -/
theorem completed_when_cancelled : ∃ m', run shortLogScript.site ⟨2, some 9⟩ (follow delayedPlan) (.start default) =
    (some (.returned (.completed, true)), m') ∧ m'.now = 9 :=
  ⟨_, rfl, rfl⟩

end Rehearsal
end SessionGate.Intercept
