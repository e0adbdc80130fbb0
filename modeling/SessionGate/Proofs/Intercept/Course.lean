import SessionGate.Proofs.Intercept.Phases

/-! # The ways through a run

* `Waits plan found steps result`: what a run does between its installation and its clean-up, and what it
  comes to.
* `Course plan steps result`: the ways through a run, step by step.
* `run_ends_iff`: those are its histories, all of them and no others.
* `run_ends`: the calls of the store in a history are those of one installation and of the restoration
  that belongs to it, or there are none.
-/
namespace SessionGate.Intercept
set_option autoImplicit false
open Cluster (Error Manifest)
open Program (Step)

variable {steps : List (Step stage)} {plan : Plan} {manifests : List Manifest}

/-! ## Waiting -/

/-- How a run waits after its installation, up to the end of the task that it started, and what it comes
to. After an installation that failed there is nothing to wait for. -/
inductive Waits (plan : Plan) : Except Error Guarded → List (Step stage) → Except Error Outcome → Prop where
  | refused (e : Error) : Waits plan (.error e) [] (.error e)
  | cancelled (guarded : Guarded) :
    Waits plan (.ok guarded) [⟨.wait plan.wait, true⟩] (.ok .interrupted)
  | crashed (guarded : Guarded) (crash : Crash) :
    Waits plan (.ok guarded) [⟨.wait plan.wait, false⟩,
        ⟨.cluster (.workload plan.namespaceName plan.echoDeploy), .crashed crash⟩]
      (.error (.internal crash.message "wait_and_tail"))
  | tailed (guarded : Guarded) (found : Except Error String) (outcome : Outcome) (crash : Option Crash) :
    Waits plan (.ok guarded) [⟨.wait plan.wait, false⟩,
        ⟨.cluster (.workload plan.namespaceName plan.echoDeploy), .returned found⟩,
        ⟨.startLog plan.namespaceName (found.toOption.getD plan.echoDeploy), ()⟩,
        ⟨.awaitExit, outcome⟩, ⟨.stopLog, crash⟩]
      (.ok outcome)

theorem Waits.quiet {found : Except Error Guarded} {result : Except Error Outcome}
    (h : Waits plan found steps result) : Quiet steps := by
  cases h <;> simp [Quiet, routeStep?, deletes]

theorem follow_ends_iff {r : Attempt (Outcome × Bool)} : (follow plan).Ends steps r ↔
    (steps = [⟨.wait plan.wait, true⟩] ∧ r = .returned (.interrupted, false)) ∨
    (∃ crash, steps = [⟨.wait plan.wait, false⟩,
        ⟨.cluster (.workload plan.namespaceName plan.echoDeploy), .crashed crash⟩] ∧
      r = .crashed crash) ∨
    ∃ found outcome, steps = [⟨.wait plan.wait, false⟩,
        ⟨.cluster (.workload plan.namespaceName plan.echoDeploy), .returned found⟩,
        ⟨.startLog plan.namespaceName (found.toOption.getD plan.echoDeploy), ()⟩,
        ⟨.awaitExit, outcome⟩] ∧ r = .returned (outcome, true) := by
  constructor
  · rintro ⟨cancelled, rest, rfl, h⟩
    cases cancelled with
    | true =>
      obtain ⟨rfl, rfl⟩ := h
      exact .inl ⟨rfl, rfl⟩
    | false =>
      obtain ⟨found, rest, rfl, h⟩ := h
      rcases found with (e | name) | crash
      · obtain ⟨⟨⟩, rest, rfl, outcome, rest, rfl, rfl, rfl⟩ := h
        exact .inr (.inr ⟨.error e, outcome, rfl, rfl⟩)
      · obtain ⟨⟨⟩, rest, rfl, outcome, rest, rfl, rfl, rfl⟩ := h
        exact .inr (.inr ⟨.ok name, outcome, rfl, rfl⟩)
      · obtain ⟨rfl, rfl⟩ := h
        exact .inr (.inl ⟨crash, rfl, rfl⟩)
  · rintro (⟨rfl, rfl⟩ | ⟨crash, rfl, rfl⟩ | ⟨found, outcome, rfl, rfl⟩)
    · exact ⟨true, [], rfl, rfl, rfl⟩
    · exact ⟨false, _, rfl, .crashed crash, [], rfl, rfl, rfl⟩
    · rcases found with e | name
      · exact ⟨false, _, rfl, .returned (.error e), _, rfl, (), _, rfl, outcome, [], rfl, rfl, rfl⟩
      · exact ⟨false, _, rfl, .returned (.ok name), _, rfl, (), _, rfl, outcome, [], rfl, rfl, rfl⟩

/-! ## Taking down -/

/-- What is only told after a program changes nothing about its steps. -/
theorem ends_bind_told {α : Type} {p : Program stage α} {told : α → Program stage Unit}
    (htold : ∀ a s, (told a).Ends s () ↔ s = []) : (p.bind told).Ends steps () ↔ ∃ a, p.Ends steps a := by
  rw [Program.ends_bind]
  constructor
  · rintro ⟨a, s, t, rfl, hs, ht⟩
    obtain rfl := (htold a t).mp ht
    rw [List.append_nil]
    exact ⟨a, hs⟩
  · rintro ⟨a, hs⟩
    exact ⟨a, steps, [], (List.append_nil steps).symm, hs, (htold a []).mpr rfl⟩

theorem cleanUp_ends_iff {guarded : Option Guarded} :
    (cleanUp plan manifests guarded false).Ends steps () ↔
      ∃ deleted back, steps = ⟨.cluster (.delete manifests), deleted⟩ :: back.map storeStep ∧
        Restores plan.namespaceName guarded back := by
  constructor
  · intro hends
    obtain ⟨deleted, rest, rfl, h⟩ := hends
    rcases guarded with _ | ⟨changed, _ | name, _ | snapshot⟩
    -- without a name and a snapshot nothing follows the deletion
    iterate 4
      · obtain rfl : rest = [] := by rcases deleted with e | ⟨⟩ <;> exact h.1
        exact ⟨deleted, [], rfl, rfl⟩
    · obtain ⟨told, htold, hbind⟩ : ∃ told : Except Error Unit → Program stage Unit,
          (∀ a s, (told a).Ends s () ↔ s = []) ∧
          Program.Ends ((onRoutes (RouteGuard.restore plan.namespaceName name snapshot)).bind told)
            rest () := by
        rcases deleted with e | ⟨⟩
        all_goals
          refine ⟨_, ?_, h⟩
          rintro (e | ⟨⟩) s
          · exact and_iff_left rfl
          · exact and_iff_left rfl
      obtain ⟨r, hback⟩ := (ends_bind_told htold).mp hbind
      obtain ⟨back, rfl, hrestore⟩ := onRoutes_ends_iff.mp hback
      exact ⟨deleted, back, rfl, r, hrestore⟩
  · rintro ⟨deleted, back, rfl, hback⟩
    refine ⟨deleted, back.map storeStep, rfl, ?_⟩
    rcases guarded with _ | ⟨changed, _ | name, _ | snapshot⟩
    iterate 4
      · obtain rfl : back = [] := hback
        rcases deleted with e | ⟨⟩ <;> exact ⟨rfl, rfl⟩
    · obtain ⟨r, hback⟩ := hback
      have hsteps : (onRoutes (RouteGuard.restore plan.namespaceName name snapshot)).Ends
          (back.map storeStep) r := onRoutes_ends_iff.mpr ⟨back, rfl, hback⟩
      rcases deleted with e | ⟨⟩
      all_goals
        change Program.Ends ((onRoutes (RouteGuard.restore plan.namespaceName name snapshot)).bind _) _ ()
        refine (ends_bind_told ?_).mpr ⟨r, hsteps⟩
        rintro (e | ⟨⟩) s
        · exact and_iff_left rfl
        · exact and_iff_left rfl

theorem cleanUp_tailing_ends_iff {guarded : Option Guarded} :
    (cleanUp plan manifests guarded true).Ends steps () ↔
      ∃ crash rest, steps = ⟨.stopLog, crash⟩ :: rest ∧
        (cleanUp plan manifests guarded false).Ends rest () := by
  constructor
  · rintro ⟨crash, rest, rfl, h⟩
    refine ⟨crash, rest, rfl, ?_⟩
    cases crash with
    | none => exact h
    | some crash => exact h
  · rintro ⟨crash, rest, rfl, h⟩
    refine ⟨crash, rest, rfl, ?_⟩
    cases crash with
    | none => exact h
    | some crash => exact h

/-! ## Whole runs -/

/-- What a run asks and is answered, and what it comes to. -/
inductive Course (plan : Plan) : List (Step stage) → Except Error Outcome → Prop where
  /-- There are no manifests. -/
  | unplanned {e : Error} (hplan : plan.manifests = .error e) : Course plan [] (.error e)
  /-- The manifests are not applied. -/
  | unapplied {manifests : List Manifest} {e : Error} (hplan : plan.manifests = .ok manifests) :
    Course plan [⟨.cluster (.apply manifests), .error e⟩] (.error e)
  /-- From the installation on the run takes down what it has put up. -/
  | takenDown {manifests : List Manifest} {asked back : List (Step routeAccess)}
    {found : Except Error Guarded} {waiting : List (Step stage)} {deleted : Except Error Unit}
    {result : Except Error Outcome} (hplan : plan.manifests = .ok manifests)
    (hinstall : (RouteGuard.install plan.namespaceName plan.session).Ends asked found)
    (hwaits : Waits plan found waiting result)
    (hback : Restores plan.namespaceName found.toOption back) :
    Course plan
      (⟨.cluster (.apply manifests), .ok ()⟩ :: (asked.map storeStep ++
        (waiting ++ ⟨.cluster (.delete manifests), deleted⟩ :: back.map storeStep)))
      result

/-- To wait, to stop the task and to clean up. -/
theorem follow_cleanUp_iff {guarded : Guarded} {r : Except Error Outcome}
    {next : Attempt (Outcome × Bool) → Program stage (Except Error Outcome)}
    (hreturned : ∀ outcome tailing s, (next (.returned (outcome, tailing))).Ends s r ↔
      (cleanUp plan manifests (some guarded) tailing).Ends s () ∧ r = .ok outcome)
    (hcrashed : ∀ crash s, (next (.crashed crash)).Ends s r ↔
      (cleanUp plan manifests (some guarded) false).Ends s () ∧
        r = .error (.internal crash.message "wait_and_tail")) :
    ((follow plan).bind next).Ends steps r ↔ ∃ waiting deleted back,
      steps = waiting ++ ⟨.cluster (.delete manifests), deleted⟩ :: back.map storeStep ∧
        Waits plan (.ok guarded) waiting r ∧ Restores plan.namespaceName (some guarded) back := by
  rw [Program.ends_bind]
  constructor
  · rintro ⟨followed, s, t, rfl, hfollow, hnext⟩
    rcases follow_ends_iff.mp hfollow with ⟨rfl, rfl⟩ | ⟨crash, rfl, rfl⟩ | ⟨found, outcome, rfl, rfl⟩
    · obtain ⟨hclean, rfl⟩ := (hreturned _ _ _).mp hnext
      obtain ⟨deleted, back, rfl, hback⟩ := cleanUp_ends_iff.mp hclean
      exact ⟨_, deleted, back, rfl, .cancelled guarded, hback⟩
    · obtain ⟨hclean, rfl⟩ := (hcrashed _ _).mp hnext
      obtain ⟨deleted, back, rfl, hback⟩ := cleanUp_ends_iff.mp hclean
      exact ⟨_, deleted, back, rfl, .crashed guarded crash, hback⟩
    · obtain ⟨hclean, rfl⟩ := (hreturned _ _ _).mp hnext
      obtain ⟨crash, rest, rfl, hrest⟩ := cleanUp_tailing_ends_iff.mp hclean
      obtain ⟨deleted, back, rfl, hback⟩ := cleanUp_ends_iff.mp hrest
      exact ⟨_, deleted, back, rfl, .tailed guarded found outcome crash, hback⟩
  · rintro ⟨waiting, deleted, back, rfl, hwaits, hback⟩
    have hclean : (cleanUp plan manifests (some guarded) false).Ends
        (⟨.cluster (.delete manifests), deleted⟩ :: back.map storeStep) () :=
      cleanUp_ends_iff.mpr ⟨deleted, back, rfl, hback⟩
    cases hwaits with
    | cancelled =>
      exact ⟨_, _, _, rfl, follow_ends_iff.mpr (.inl ⟨rfl, rfl⟩), (hreturned _ _ _).mpr ⟨hclean, rfl⟩⟩
    | crashed _ crash =>
      exact ⟨_, _, _, rfl, follow_ends_iff.mpr (.inr (.inl ⟨crash, rfl, rfl⟩)),
        (hcrashed _ _).mpr ⟨hclean, rfl⟩⟩
    | tailed _ found outcome crash =>
      refine ⟨_, [_, _, _, _], _, rfl, follow_ends_iff.mpr (.inr (.inr ⟨found, outcome, rfl, rfl⟩)), ?_⟩
      exact (hreturned _ _ _).mpr ⟨cleanUp_tailing_ends_iff.mpr ⟨crash, _, rfl, hclean⟩, rfl⟩

theorem course_of_ends {r : Except Error Outcome} (hplan : plan.manifests = .ok manifests)
    (hends : (runManifests plan manifests).Ends steps r) : Course plan steps r := by
  obtain ⟨applied, rest, rfl, h⟩ := hends
  rcases applied with e | ⟨⟩
  · obtain ⟨rfl, rfl⟩ := h
    exact .unapplied hplan
  · change Program.Ends
      ((onRoutes (RouteGuard.install plan.namespaceName plan.session)).bind _) rest r at h
    obtain ⟨found, own, rest, rfl, hown, h⟩ := Program.ends_bind.mp h
    obtain ⟨asked, rfl, hinstall⟩ := onRoutes_ends_iff.mp hown
    rcases found with e | guarded
    · obtain ⟨hclean, rfl⟩ := Program.ends_bind_done.mp h
      obtain ⟨deleted, back, rfl, hback⟩ := cleanUp_ends_iff.mp hclean
      exact .takenDown hplan hinstall (.refused e) hback
    · obtain ⟨waiting, deleted, back, rfl, hwaits, hback⟩ :=
        (follow_cleanUp_iff (fun _ _ _ => Program.ends_bind_done) fun _ _ => Program.ends_bind_done).mp h
      exact .takenDown hplan hinstall hwaits hback

theorem ends_of_course {r : Except Error Outcome} (h : Course plan steps r) : (run plan).Ends steps r := by
  cases h with
  | unplanned hplan =>
    rw [run, hplan]
    exact ⟨rfl, rfl⟩
  | unapplied hplan =>
    rw [run, hplan]
    exact ⟨_, _, rfl, rfl, rfl⟩
  | @takenDown _ asked _ found _ _ _ hplan hinstall hwaits hback =>
    rw [run, hplan]
    refine ⟨.ok (), _, rfl, ?_⟩
    change Program.Ends
      ((onRoutes (RouteGuard.install plan.namespaceName plan.session)).bind _) _ _
    refine Program.ends_bind.mpr ⟨found, _, _, rfl, onRoutes_ends_iff.mpr ⟨asked, rfl, hinstall⟩, ?_⟩
    rcases found with e | guarded
    · cases hwaits
      exact Program.ends_bind_done.mpr ⟨cleanUp_ends_iff.mpr ⟨_, _, rfl, hback⟩, rfl⟩
    · exact (follow_cleanUp_iff (fun _ _ _ => Program.ends_bind_done) fun _ _ => Program.ends_bind_done).mpr
        ⟨_, _, _, rfl, hwaits, hback⟩

/-- The ways through a run are its histories. -/
theorem run_ends_iff {r : Except Error Outcome} : (run plan).Ends steps r ↔ Course plan steps r := by
  constructor
  · intro h
    rw [run] at h
    split at h
    · next hplan =>
      obtain ⟨rfl, rfl⟩ := h
      exact .unplanned hplan
    · next hplan => exact course_of_ends hplan h
  · exact ends_of_course

theorem not_deletes_before (manifests : List Manifest) (asked : List (Step routeAccess))
    {waiting : List (Step stage)} (hquiet : Quiet waiting) (applied : Except Error Unit) :
    ∀ step ∈ ⟨.cluster (.apply manifests), applied⟩ :: (asked.map storeStep ++ waiting),
      deletes step = false := by
  refine List.forall_mem_cons.mpr ⟨rfl, List.forall_mem_append.mpr ⟨not_deletes_storeStep asked, ?_⟩⟩
  exact fun step hstep => (hquiet step hstep).2

/-- The deletion parts the calls of the installation from those of the restoration. -/
theorem takenDown_cut (manifests : List Manifest) {asked back : List (Step routeAccess)}
    {waiting : List (Step stage)} (hquiet : Quiet waiting) (applied deleted : Except Error Unit) :
    installation (⟨.cluster (.apply manifests), applied⟩ :: (asked.map storeStep ++
        (waiting ++ ⟨.cluster (.delete manifests), deleted⟩ :: back.map storeStep))) = asked ∧
      teardown (⟨.cluster (.apply manifests), applied⟩ :: (asked.map storeStep ++
        (waiting ++ ⟨.cluster (.delete manifests), deleted⟩ :: back.map storeStep))) = back := by
  obtain ⟨hinstallation, hteardown⟩ := cut_at_deletion manifests deleted (back.map storeStep)
    (not_deletes_before manifests asked hquiet applied)
  rw [List.cons_append, List.append_assoc] at hinstallation hteardown
  rw [hinstallation, hteardown, filterMap_storeStep]
  refine ⟨?_, rfl⟩
  rw [List.filterMap_cons_none rfl, List.filterMap_append, filterMap_storeStep, hquiet.filterMap,
    List.append_nil]

/-- An installation, a wait and a restoration that belong together are in a history. -/
theorem exists_ends {asked back : List (Step routeAccess)} {found : Except Error Guarded}
    {waiting : List (Step stage)} {r : Except Error Outcome} (hplan : plan.manifests = .ok manifests)
    (hinstall : (RouteGuard.install plan.namespaceName plan.session).Ends asked found)
    (hwaits : Waits plan found waiting r) (hback : Restores plan.namespaceName found.toOption back) :
    ∃ steps, (run plan).Ends steps r ∧ installation steps = asked ∧ teardown steps = back :=
  ⟨_, ends_of_course (.takenDown hplan hinstall hwaits hback),
    takenDown_cut manifests hwaits.quiet (.ok ()) (.ok ())⟩

/-- A run calls the store for one installation, and then for the restoration that belongs to it. -/
theorem run_ends {r : Except Error Outcome} (hends : (run plan).Ends steps r) :
    installation steps = [] ∧ teardown steps = [] ∨
      ∃ found, (RouteGuard.install plan.namespaceName plan.session).Ends (installation steps) found ∧
        Restores plan.namespaceName found.toOption (teardown steps) := by
  cases run_ends_iff.mp hends with
  | unplanned hplan => exact .inl ⟨rfl, rfl⟩
  | unapplied hplan => exact .inl ⟨rfl, rfl⟩
  | @takenDown manifests asked back found waiting deleted _ hplan hinstall hwaits hback =>
    obtain ⟨hinstallation, hteardown⟩ := takenDown_cut manifests hwaits.quiet (.ok ()) deleted
    right
    rw [hinstallation, hteardown]
    exact ⟨found, hinstall, hback⟩

end SessionGate.Intercept
