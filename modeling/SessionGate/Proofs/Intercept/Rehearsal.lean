import SessionGate.Intercept.Script
import SessionGate.Proofs.Intercept.Phases

/-! # Histories of runs at a site

* `Site.HoldsRoutes`: the calls of the store alone touch the routes, and each is answered from the
  table or fails without an effect. Scripted sites are so, whatever they answer and whenever.
* `Rehearsal.steps`: what a run asked and was answered at a site. A run that returns has a history
  (`Rehearsal.ends_steps`), and what the answers change goes along it (`Rehearsal.along_steps`).
* `Rehearsal.run_history`: the calls of the store in a history lead from the routes before the run to the
  routes after it.
-/
namespace SessionGate.Intercept
set_option autoImplicit false
open Cluster (Error)
open Program (Step Along)

variable {σ κ : Type}

/-! ## Sites that hold a table of routes -/

/-- Nobody but the calls of the store touches the routes. -/
structure Site.HoldsRoutes (site : Site σ κ) (routes : σ → RouteTable) : Prop where
  route (call : RouteCall) (m : Moment σ κ) :
    RouteTable.Takes (routes m.world) ⟨call, (site.answer (.route call) m).1⟩
      (routes (site.answer (.route call) m).2.world)
  other (call : ClusterCall) (m : Moment σ κ) (hcall : ∀ c, call ≠ .route c) :
    routes (site.answer call m).2.world = routes m.world
  stream (ns deployment : String) (deadline : Option Nat) (m : Moment σ κ) :
    routes (site.stream ns deployment deadline m).2.world = routes m.world

theorem RouteDesk.takes_answer (call : RouteCall) (desk : RouteDesk) :
    RouteTable.Takes desk.routes ⟨call, (desk.answer call).1⟩ (desk.answer call).2.routes := by
  rw [RouteDesk.answer]
  dsimp only
  split
  · exact .failed call _ desk.routes
  · exact .answered call desk.routes

theorem Script.stream_world (script : Script) (ns deployment : String) (deadline : Option Nat)
    (m : Moment RouteDesk SiteCall) : (script.stream ns deployment deadline m).2.world = m.world := by
  rw [Script.stream]
  split
  · rfl
  · dsimp only
    split
    · rfl
    · split <;> rfl

theorem Script.site_holdsRoutes (script : Script) : script.site.HoldsRoutes RouteDesk.routes where
  route call m := RouteDesk.takes_answer call m.world
  other call m hcall := by
    cases call with
    | route c => exact absurd rfl (hcall c)
    | _ => rfl
  stream ns deployment deadline m := by
    rw [show script.site.stream = script.stream from rfl, script.stream_world]

/-! ## The routes along a run -/

/-- What a run at a site asked and was answered. -/
def Rehearsal.steps {α : Type} (site : Site σ κ) (schedule : Schedule) (program : Program stage α)
    (m : Moment σ κ) : List (Step stage) :=
  program.history note (answer site schedule) ⟨m, none, none⟩

/-- A step leaves the routes alone, or it is a call of the store. -/
def StepTakes (routes : RouteTable) (step : Step stage) (routes' : RouteTable) : Prop :=
  match routeStep? step with
  | some call => RouteTable.Takes routes call routes'
  | none => routes' = routes

theorem along_routeSteps {routes routes' : RouteTable} {steps : List (Step stage)}
    (h : Along StepTakes routes steps routes') :
    Along RouteTable.Takes routes (List.filterMap routeStep? steps) routes' := by
  induction h with
  | nil => exact .nil _
  | @cons t u v step steps hstep _ ih =>
    rw [StepTakes] at hstep
    cases hcall : routeStep? step with
    | none =>
      rw [hcall] at hstep
      obtain rfl := hstep
      rwa [List.filterMap_cons_none hcall]
    | some call =>
      rw [hcall] at hstep
      rw [List.filterMap_cons_some hcall]
      exact .cons hstep ih

variable {site : Site σ κ} {view : σ → RouteTable}

@[simp] theorem Rehearsal.world_leave (schedule : Schedule) (outcome : Outcome) (m : Moment σ κ) :
    (leave schedule outcome m).world = m.world := by
  cases outcome with
  | completed => rfl
  | interrupted => exact m.world_notice _

@[simp] theorem Rehearsal.calls_leave (schedule : Schedule) (outcome : Outcome) (m : Moment σ κ) :
    (leave schedule outcome m).calls = m.calls := by
  cases outcome with
  | completed => rfl
  | interrupted => exact m.calls_notice _

/-- What is not asked of the cluster leaves its state and its trace alone, or it follows a log. -/
theorem Rehearsal.answer_other (site : Site σ κ) (schedule : Schedule) (act : Act) (r : Rehearsal σ κ)
    (hact : ∀ call, act ≠ .cluster call) :
    ((answer site schedule act r).2.moment.world = r.moment.world ∧
        (answer site schedule act r).2.moment.calls = r.moment.calls) ∨
      ∃ ns deployment deadline,
        (answer site schedule act r).2.moment.world =
            (site.stream ns deployment deadline r.moment).2.world ∧
          (answer site schedule act r).2.moment.calls =
            (site.stream ns deployment deadline r.moment).2.calls := by
  cases act with
  | cluster call => exact absurd rfl (hact call)
  | wait span =>
    left
    -- the state is taken apart so that the instants need not be compared
    obtain ⟨⟨now, world, calls, log, noticed⟩, task, ended⟩ := r
    rw [Rehearsal.answer]
    change _ = world ∧ _ = calls
    cases schedule.cancelledAt with
    | none => exact ⟨rfl, rfl⟩
    | some i =>
      dsimp only
      split
      · exact ⟨Moment.world_notice _ _, Moment.calls_notice _ _⟩
      · exact ⟨rfl, rfl⟩
  | startLog ns deployment => exact .inl ⟨rfl, rfl⟩
  | awaitExit =>
    rw [Rehearsal.answer, Rehearsal.awaitExit]
    split
    · exact .inl ⟨rfl, rfl⟩
    · next ns deployment _ =>
      dsimp only
      split
      · exact .inl ⟨rfl, rfl⟩
      · split
        · exact .inl ⟨world_leave _ _ _, calls_leave _ _ _⟩
        · exact .inr ⟨ns, deployment, _, world_leave _ _ _, calls_leave _ _ _⟩
  | stopLog =>
    rw [Rehearsal.answer]
    split <;> exact .inl ⟨rfl, rfl⟩

/-- What is not asked of the cluster leaves the routes alone. -/
theorem Rehearsal.answer_world (hsite : site.HoldsRoutes view) (schedule : Schedule) (act : Act)
    (r : Rehearsal σ κ) (hact : ∀ call, act ≠ .cluster call) :
    view (answer site schedule act r).2.moment.world = view r.moment.world := by
  rcases answer_other site schedule act r hact with ⟨hworld, -⟩ | ⟨ns, deployment, deadline, hworld, -⟩
  · rw [hworld]
  · rw [hworld, hsite.stream]

theorem Rehearsal.answer_takes (hsite : site.HoldsRoutes view) (schedule : Schedule) (act : Act)
    (r : Rehearsal σ κ) (a : act.Answer) (r' : Rehearsal σ κ)
    (h : answer site schedule act r = (some a, r')) :
    StepTakes (view r.moment.world) ⟨act, a⟩ (view r'.moment.world) := by
  by_cases hact : ∃ call, act = .cluster call
  · obtain ⟨call, rfl⟩ := hact
    obtain ⟨ha, rfl⟩ := Prod.mk.inj h
    obtain rfl := Option.some.inj ha
    cases call with
    | route call => exact hsite.route call r.moment
    | apply manifests => exact hsite.other (.apply manifests) r.moment (by simp)
    | delete manifests => exact hsite.other (.delete manifests) r.moment (by simp)
    | workload ns preferred => exact hsite.other (.workload ns preferred) r.moment (by simp)
  · have hworld := answer_world hsite schedule act r fun call hcall => hact ⟨call, hcall⟩
    rw [h] at hworld
    cases act with
    | cluster call => exact absurd ⟨call, rfl⟩ hact
    | _ => exact hworld

theorem Rehearsal.ends_steps {schedule : Schedule} {α : Type} {program : Program stage α}
    {m m' : Moment σ κ} {result : α} (h : run site schedule program m = (some result, m')) :
    program.Ends (steps site schedule program m) result := by
  rw [Rehearsal.run] at h
  rcases hrun : program.runUntil note (answer site schedule) ⟨m, none, none⟩ with ⟨a, r⟩
  rw [hrun] at h
  obtain ⟨rfl, -⟩ := Prod.mk.inj h
  exact Program.ends_history note _ hrun

/-- A run that is left waiting for ever does nothing more. -/
theorem Rehearsal.eq_of_open {schedule : Schedule} {act : Act} {r r' : Rehearsal σ κ}
    (h : answer site schedule act r = (none, r')) : r' = r := by
  cases act with
  | cluster call => cases (Prod.mk.inj h).1
  | wait span =>
    rw [Rehearsal.answer] at h
    cases hcancel : schedule.cancelledAt with
    | none =>
      rw [hcancel] at h
      cases (Prod.mk.inj h).1
    | some i =>
      rw [hcancel] at h
      dsimp only at h
      split at h <;> cases (Prod.mk.inj h).1
  | startLog ns deployment => cases (Prod.mk.inj h).1
  | awaitExit =>
    rw [Rehearsal.answer, Rehearsal.awaitExit] at h
    split at h
    · exact (Prod.mk.inj h).2.symm
    · dsimp only at h
      split at h
      · exact (Prod.mk.inj h).2.symm
      · split at h <;> cases (Prod.mk.inj h).1
  | stopLog =>
    rw [Rehearsal.answer] at h
    split at h <;> cases (Prod.mk.inj h).1

/-- What events leave alone goes along a run as the answers move it. -/
theorem Rehearsal.along_steps {τ α : Type} {R : τ → Step stage → τ → Prop} (view : Moment σ κ → τ)
    {schedule : Schedule} {program : Program stage α} {m m' : Moment σ κ} {result : Option α}
    (hnote : ∀ event m, view (m.note event) = view m)
    (hanswer : ∀ act r a r', answer site schedule act r = (some a, r') →
      R (view r.moment) ⟨act, a⟩ (view r'.moment))
    (h : run site schedule program m = (result, m')) :
    Along R (view m) (steps site schedule program m) (view m') := by
  rw [Rehearsal.run] at h
  rcases hrun : program.runUntil note (answer site schedule) ⟨m, none, none⟩ with ⟨a, r⟩
  rw [hrun] at h
  obtain ⟨rfl, rfl⟩ := Prod.mk.inj h
  refine Program.along_history note _ (fun r => view r.moment) (fun event r => hnote event r.moment)
    hanswer (fun act r r' hopen => ?_) hrun
  rw [eq_of_open hopen]

/-- A run that returns has a history, and the calls of the store in it lead from the routes before it
to the routes after it. -/
theorem Rehearsal.run_history (hsite : site.HoldsRoutes view) {schedule : Schedule} {α : Type}
    {program : Program stage α} {m m' : Moment σ κ} {result : α}
    (h : run site schedule program m = (some result, m')) :
    program.Ends (steps site schedule program m) result ∧
      Along RouteTable.Takes (view m.world)
        (installation (steps site schedule program m) ++ teardown (steps site schedule program m))
        (view m'.world) := by
  refine ⟨ends_steps h, ?_⟩
  rw [installation_append_teardown]
  refine along_routeSteps (along_steps (fun m => view m.world) (fun _ _ => rfl) ?_ h)
  intro act r a r' hanswer
  exact answer_takes hsite schedule act r a r' hanswer

end SessionGate.Intercept
