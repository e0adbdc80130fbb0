import SessionGate.Proofs.Intercept.Restoration

/-! # Patches whose answer is lost

* `Meets`: a call of a store whose answer may be lost, so that a patch that took effect reports a failure.
* `Reverted`: the chain of the session's route is what it was, an empty one perhaps absent.
* `run_reverts_iff`: a run whose patch took effect puts the chain back exactly when the patch reported
  success. After any other report there is nothing to restore from, and the chain stays guarded.
-/
namespace SessionGate.Intercept
set_option autoImplicit false
open Cluster (Error)
open Program (Step Along)

variable {ns session name : String} {before middle after : RouteTable} {steps : List (Step routeAccess)}

/-! ## Stores that lose answers -/

/-- A call is answered, or fails without an effect, or is a patch that takes effect and reports a failure. -/
inductive Meets : RouteTable → Step routeAccess → RouteTable → Prop where
  | takes {routes routes' : RouteTable} {step : Step routeAccess} :
    RouteTable.Takes routes step routes' → Meets routes step routes'
  | lost {routes routes' : RouteTable} {ns name : String} {p : Json.Patch} (e : Error) :
    RouteTable.patch routes name p = .ok routes' → Meets routes ⟨.patch ns name p, .error e⟩ routes'

/-- The answers of reads are not lost without a trace. -/
theorem Meets.takes_of_reads {step : Step routeAccess} (h : Meets before step after)
    (hread : reads step = true) : RouteTable.Takes before step after := by
  cases h with
  | takes htakes => exact htakes
  | lost e heffect => cases hread

theorem along_takes_of_reads (h : Along Meets before steps after) (hreads : ∀ step ∈ steps, reads step = true) :
    Along RouteTable.Takes before steps after := by
  induction h with
  | nil t => exact .nil t
  | cons hstep _ ih =>
    obtain ⟨hfirst, hrest⟩ := List.forall_mem_cons.mp hreads
    exact .cons (hstep.takes_of_reads hfirst) (ih hrest)

theorem RouteTable.patch_eq_ok {p : Json.Patch} (h : RouteTable.patch before name p = .ok middle) :
    ∃ route route', RouteTable.find? before name = some route ∧ p.applyTo? route = some route' ∧
      middle = RouteTable.replaceFirst name route' before := by
  rw [RouteTable.patch] at h
  split at h
  · cases h
  · next route hfind =>
    split at h
    · cases h
    · next route' hpatch => exact ⟨route, route', hfind, hpatch, (Except.ok.inj h).symm⟩

/-! ## What a lost answer costs -/

/-- The chain of the session's route is put back, an empty one as an absent one, and nothing else is
changed. -/
def Reverted (session : String) (before after : RouteTable) : Prop :=
  ∃ name route entry route', RouteTable.ofSession? before session = some route ∧
    Route.name? route = some name ∧ Route.firstRule? route = some entry ∧
    route.alter? (Route.withChain (Route.snapshot entry).normal) Route.entryPath = some route' ∧
    after = RouteTable.replaceFirst name route' before

/-- The patch of an installation, and what it was made from. -/
theorem RouteGuard.install_patches {patchNs : String} {p : Json.Patch} {reported : Except Error Unit}
    {found : Except Error Guarded} (hends : (install ns session).Ends steps found)
    (hmeets : Along Meets before steps middle) (hpatch : ⟨.patch patchNs name p, reported⟩ ∈ steps) :
    ∃ route entry, RouteTable.ofSession? before session = some route ∧ Route.name? route = some name ∧
      Route.firstRule? route = some entry ∧ Route.isGuarded entry = false ∧ p = guardPatch entry ∧
      (reported = .ok () ∧ found = .ok ⟨true, some name, some (Route.snapshot entry)⟩ ∨
        ∃ e, reported = .error e ∧ found = .error e) := by
  obtain ⟨asked, route, entry, hfind, rfl, hname, hentry, hfirst, hp, hreported⟩ := install_writes hends hpatch
  obtain ⟨u, hasked, -⟩ := Program.along_append.mp hmeets
  obtain ⟨-, hroute⟩ := find_takes_ok hfind (along_takes_of_reads hasked (reads_of_find_ends hfind))
  exact ⟨route, entry, hroute, hname, hentry, hfirst, hp, hreported⟩

/-- A chain that the installation has just changed is not the one that it was. -/
theorem not_reverted {route entry target : Json} (hroute : RouteTable.ofSession? before session = some route)
    (hentry : Route.firstRule? route = some entry) (hfirst : Route.isGuarded entry = false)
    (hname : Route.name? route = some name) (hfind : RouteTable.find? before name = some route)
    (hpatch : (RouteGuard.guardPatch entry).applyTo? route = some target) :
    ¬ Reverted session before (RouteTable.replaceFirst name target before) := by
  rintro ⟨name', route', entry', target', hroute', hname', hentry', hback, hafter⟩
  obtain rfl := Option.some.inj (hroute.symm.trans hroute')
  obtain rfl := Option.some.inj (hname.symm.trans hname')
  obtain rfl := Option.some.inj (hentry.symm.trans hentry')
  have hguard := Route.alter?_of_chainPatch hpatch
  -- both leave the same route in the place of the session's
  have htarget : target = target' := by
    have hfound := RouteTable.find?_replaceFirst hfind ((Route.name?_alter? hguard).trans hname)
    rw [hafter, RouteTable.find?_replaceFirst hfind ((Route.name?_alter? hback).trans hname)] at hfound
    exact (Option.some.inj hfound).symm
  subst htarget
  obtain ⟨c, changed, hc, hset, hchanged⟩ := Json.pointer?_alter? hguard
  obtain ⟨c', changed', hc', hset', hchanged'⟩ := Json.pointer?_alter? hback
  obtain rfl := Option.some.inj (hentry.symm.trans hc)
  obtain rfl := Option.some.inj (hentry.symm.trans hc')
  obtain rfl := Option.some.inj (hchanged.symm.trans hchanged')
  have hsnapshot := Route.Snapshot.eq_of_normal (Route.withChain_injective hset' hset)
  rw [Route.isGuarded, hsnapshot] at hfirst
  cases hfirst

/-- When the patch of a run took effect, and no later call failed, the run puts the chain back exactly
when the patch reported success. After another report it ends with that error and restores nothing. -/
theorem run_reverts_iff {plan : Plan} {steps : List (Step stage)} {result : Except Error Outcome}
    {patchNs : String} {p : Json.Patch} {reported : Except Error Unit}
    (hends : (run plan).Ends steps result) (hnames : before.NamesUnique)
    (hinstalling : Along Meets before (installation steps) middle)
    (hpatch : ⟨.patch patchNs name p, reported⟩ ∈ installation steps)
    (heffect : RouteTable.patch before name p = .ok middle)
    (hrestoring : Along RouteTable.Takes middle (teardown steps) after)
    (hanswered : ∀ call ∈ teardown steps, refused call = false) :
    (Reverted plan.session before after ↔ reported = .ok ()) ∧
      ∀ e, reported = .error e → result = .error e ∧ teardown steps = [] ∧ after = middle := by
  cases run_ends_iff.mp hends with
  | unplanned | unapplied => cases hpatch
  | @takenDown manifests asked back found waiting deleted _ hplan hinstall hwaits hback =>
    obtain ⟨hasked, hteardown⟩ := takenDown_cut manifests hwaits.quiet (.ok ()) deleted
    rw [hasked] at hinstalling hpatch
    rw [hteardown] at hrestoring hanswered ⊢
    obtain ⟨route, entry, hroute, hname, hentry, hfirst, rfl, hreported⟩ :=
      RouteGuard.install_patches hinstall hinstalling hpatch
    have hfind := RouteTable.find?_of_mem hnames (RouteTable.mem_of_ofSession? hroute) hname
    obtain ⟨found', target, hfind', hpatched, rfl⟩ := RouteTable.patch_eq_ok heffect
    obtain rfl := Option.some.inj (hfind.symm.trans hfind')
    rcases hreported with ⟨rfl, rfl⟩ | ⟨e, rfl, rfl⟩
    · obtain ⟨route', hroute', rfl⟩ := restored_of_patched hfind hpatched hback hrestoring hanswered
      refine ⟨iff_of_true ⟨name, route, entry, route', hroute, hname, hentry, hroute', rfl⟩ rfl, ?_⟩
      intro e he
      cases he
    · obtain rfl : back = [] := hback
      obtain rfl := Program.along_nil.mp hrestoring
      cases hwaits
      refine ⟨iff_of_false (not_reverted hroute hentry hfirst hname hfind hpatched) (by simp), ?_⟩
      intro e' he
      cases he
      exact ⟨rfl, rfl, rfl⟩

/-- A run that is cancelled at once, after a patch that reported success. -/
theorem run_reverts_iff_acknowledged : ∃ steps after, (run crashingPlan).Ends steps (.ok .interrupted) ∧
    installation steps = [limitedRead false, limitedWrite true (.ok ())] ∧
    Reverted crashingPlan.session (limitedTable false) after := by
  obtain ⟨steps, hends, hinstallation, hteardown⟩ := exists_ends crashingPlan_manifests install_limited
    (.cancelled _) ⟨_, restore_limited false true⟩
  have hpatch : limitedWrite true (.ok ()) ∈ installation steps := by
    rw [hinstallation]
    exact List.mem_cons_of_mem _ List.mem_cons_self
  refine ⟨steps, limitedTable false, hends, hinstallation, ?_⟩
  refine (run_reverts_iff hends (limitedTable_namesUnique false) ?_ hpatch
    (limitedTable_patch false true) ?_ ?_).1.mpr rfl
  · rw [hinstallation]
    exact .cons (.takes (takes_limitedRead false)) (.cons (.takes (takes_limitedWrite false true)) (.nil _))
  · rw [hteardown]
    exact .cons (takes_limitedRead true) (.cons (takes_limitedWrite true false) (.nil _))
  · rw [hteardown]
    simp [refused, limitedRead, limitedWrite]

/-- A run whose patch took effect but reported a failure leaves the middleware in front. -/
theorem lost_answer_keeps_guard : ∃ (e : Error) (steps : List (Step stage)) (after : RouteTable),
    (run crashingPlan).Ends steps (.error e) ∧
      limitedWrite true (.error e) ∈ installation steps ∧
      Along Meets (limitedTable false) (installation steps) (limitedTable true) ∧
      Along RouteTable.Takes (limitedTable true) (teardown steps) after ∧
      (∀ call ∈ teardown steps, refused call = false) ∧
      after = limitedTable true ∧ ¬ Reverted crashingPlan.session (limitedTable false) after := by
  have hinstall : (RouteGuard.install "default" "abc").Ends
      [limitedRead false, limitedWrite true (.error (.internal "connection lost" "patch"))]
      (.error (.internal "connection lost" "patch")) :=
    RouteGuard.install_of_guards RouteGuard.find_of_get
      (.refused (name?_guardableRoute "abc" _) (firstRule?_guardableRoute "abc" _) rfl)
  obtain ⟨steps, hends, hinstallation, hteardown⟩ :=
    exists_ends crashingPlan_manifests hinstall (.refused _) rfl
  refine ⟨_, steps, limitedTable true, hends, ?_, ?_, ?_, ?_, rfl, ?_⟩
  · rw [hinstallation]
    exact List.mem_cons_of_mem _ List.mem_cons_self
  · rw [hinstallation]
    exact .cons (.takes (takes_limitedRead false)) (.cons (.lost _ (limitedTable_patch false true)) (.nil _))
  · rw [hteardown]
    exact .nil _
  · rw [hteardown]
    exact List.forall_mem_nil _
  · obtain ⟨route, target, hfind, hpatched, hguarded⟩ :=
      RouteTable.patch_eq_ok (limitedTable_patch false true)
    have hlimited := find?_guardableRoute "abc" (limitedChain false) []
    obtain rfl := Option.some.inj (hlimited.symm.trans hfind)
    rw [hguarded]
    have hpatched : (RouteGuard.guardPatch (guardableEntry (limitedChain false))).applyTo?
        (guardableRoute "abc" (limitedChain false)) = some target := hpatched
    exact not_reverted (limitedTable_ofSession? false) (firstRule?_guardableRoute "abc" _) rfl
      (name?_guardableRoute "abc" _) hfind hpatched

end SessionGate.Intercept
