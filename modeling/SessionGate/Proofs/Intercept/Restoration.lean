import SessionGate.Proofs.Intercept.Course
import SessionGate.Proofs.Intercept.Rehearsal

/-! # A run leaves the routes as it found them

* `LosesEmptyChain`: the one trace that a run may leave.
* `RouteGuard.Installed.restored`: what an installation and its restoration make of the routes.
* `run_restores`: on every way through a run that returns, the routes are in the end what they were.
* `guardableRoute`: the route of a session, with a chain; runs at it are the instances of the theorems.
-/
namespace SessionGate.Intercept
set_option autoImplicit false
open Cluster (Error)
open Program (Step Along)

variable {σ κ : Type} {site : Site σ κ} {view : σ → RouteTable}

/-! ## Installation and restoration -/

/-- The route of the session has an empty chain before, and no chain after. -/
def LosesEmptyChain (session : String) (before after : RouteTable) : Prop :=
  ∃ name route entry route', RouteTable.ofSession? before session = some route ∧
    Route.name? route = some name ∧ Route.firstRule? route = some entry ∧
    Route.snapshot entry = .present [] ∧
    route.alter? (Route.withChain .absent) Route.entryPath = some route' ∧
    after = RouteTable.replaceFirst name route' before

/-- The first entry of the session's route is missing, or its chain is absent or an array. -/
def PlainFirst (session : String) (routes : RouteTable) : Prop :=
  ∀ route entry, RouteTable.ofSession? routes session = some route →
    Route.firstRule? route = some entry → Route.isPlain entry = true

variable {ns session name : String} {before middle after : RouteTable} {route entry : Json}
  {calls : List (Step routeAccess)}

theorem RouteTable.mem_of_ofSession? (h : RouteTable.ofSession? before session = some route) :
    route ∈ before := by
  rw [RouteTable.ofSession?] at h
  cases hfind : RouteTable.find? before (Session.ingressName session) with
  | none =>
    rw [hfind, Option.none_or] at h
    exact List.mem_of_find?_eq_some h
  | some found =>
    rw [hfind, Option.some_or] at h
    obtain rfl := Option.some.inj h
    exact RouteTable.mem_of_find? hfind

/-- A chain that is guarded already is put back as it is. -/
theorem restored_of_already (hfind : RouteTable.find? before name = some route)
    (hentry : Route.firstRule? route = some entry) (hplain : Route.isPlain entry = true)
    (hguarded : Route.isGuarded entry = true)
    (hends : ∃ r, (RouteGuard.restore ns name (Route.snapshot entry)).Ends calls r)
    (ht : Along RouteTable.Takes before calls after) (hanswered : ∀ step ∈ calls, refused step = false) :
    after = before := by
  obtain ⟨r, hends⟩ := hends
  obtain ⟨route', hroute', rfl⟩ := RouteGuard.restore_takes hends ht hanswered hfind hentry
  have hne : Route.snapshot entry ≠ .present [] := by
    intro hempty
    rw [Route.isGuarded, hempty] at hguarded
    cases hguarded
  have hsame : some route' = some route := by
    cases hpatch : RouteGuard.restorePatch? (Route.snapshot entry) (Route.snapshot entry) with
    | none =>
      rw [hpatch] at hroute'
      exact hroute'.symm
    | some patch =>
      rw [hpatch] at hroute'
      rw [← Route.alter?_of_restorePatch hpatch hroute', Route.alter?_withChain_normal hentry hplain hne]
  rw [Option.some.inj hsame]
  exact RouteTable.replaceFirst_of_find? hfind

/-- A chain that was changed is put back as the snapshot has it. -/
theorem restored_of_patched {target : Json} (hfind : RouteTable.find? before name = some route)
    (hpatch : (RouteGuard.guardPatch entry).applyTo? route = some target)
    (hends : ∃ r, (RouteGuard.restore ns name (Route.snapshot entry)).Ends calls r)
    (ht : Along RouteTable.Takes (RouteTable.replaceFirst name target before) calls after)
    (hanswered : ∀ step ∈ calls, refused step = false) :
    ∃ route', route.alter? (Route.withChain (Route.snapshot entry).normal) Route.entryPath =
        some route' ∧ after = RouteTable.replaceFirst name route' before := by
  obtain ⟨r, hends⟩ := hends
  have hname : Route.name? target = some name := by
    rw [Route.name?_alter? (Route.alter?_of_chainPatch hpatch)]
    exact RouteTable.name?_of_find? hfind
  -- the restoration finds the patched route under the same name
  obtain ⟨entry', hentry', hback⟩ :=
    Route.restoration_after_installation (Route.snapshot entry) hpatch
  have hfound := RouteTable.find?_replaceFirst hfind hname
  obtain ⟨route', hroute', rfl⟩ := RouteGuard.restore_takes hends ht hanswered hfound hentry'
  exact ⟨route', hback route' hroute', RouteTable.replaceFirst_replaceFirst hname⟩

/-- After an installation and its restoration the routes are what they were, but for an empty chain. -/
theorem RouteGuard.Installed.restored {found : Except Error Guarded}
    (hinstalled : RouteGuard.Installed session before found middle) (hnames : before.NamesUnique)
    (hplain : PlainFirst session before) (hrestores : Restores ns found.toOption calls)
    (ht : Along RouteTable.Takes middle calls after) (hanswered : ∀ step ∈ calls, refused step = false) :
    (∃ name, found = .ok ⟨true, some name, some (.present [])⟩) ∧ LosesEmptyChain session before after ∨
      (¬ ∃ name, found = .ok ⟨true, some name, some (.present [])⟩) ∧ after = before := by
  cases hinstalled with
  | failed e | noRoute _ | noEntry _ _ _ =>
    obtain rfl : calls = [] := hrestores
    exact .inr ⟨by simp, Program.along_nil.mp ht⟩
  | already hroute hname hentry hfirst =>
    have hfind := RouteTable.find?_of_mem hnames (RouteTable.mem_of_ofSession? hroute) hname
    have hentryPlain := hplain _ _ hroute hentry
    exact .inr ⟨by simp, restored_of_already hfind hentry hentryPlain hfirst hrestores ht hanswered⟩
  | @patched route entry target target' name hroute hname hentry hfirst htarget hpatch =>
    have hfind := RouteTable.find?_of_mem hnames (RouteTable.mem_of_ofSession? hroute) hname
    obtain rfl := Option.some.inj (hfind.symm.trans htarget)
    have hentryPlain := hplain _ _ hroute hentry
    obtain ⟨route', hroute', hafter⟩ :=
      restored_of_patched hfind hpatch hrestores ht hanswered
    by_cases hempty : Route.snapshot entry = .present []
    · left
      rw [hempty] at hroute' ⊢
      exact ⟨⟨name, rfl⟩, name, route, entry, route', hroute, hname, hentry, hempty, hroute', hafter⟩
    · right
      rw [Route.alter?_withChain_normal hentry hentryPlain hempty] at hroute'
      rw [hafter, ← Option.some.inj hroute']
      refine ⟨?_, RouteTable.replaceFirst_of_find? hfind⟩
      rintro ⟨other, hother⟩
      exact hempty (Option.some.inj (Guarded.mk.inj (Except.ok.inj hother)).2.2)

/-! ## Whole runs -/

/-- The installation of a run changed a route whose chain was empty. -/
def FillsEmptyChain (plan : Plan) (steps : List (Step stage)) : Prop :=
  ∃ name, (RouteGuard.install plan.namespaceName plan.session).Ends (installation steps)
    (.ok ⟨true, some name, some (.present [])⟩)

/-- When a run returns and no call of its teardown failed, the routes are what they were before it, but
for the chain that was empty and was filled: that one is absent. -/
theorem run_restores (hsite : site.HoldsRoutes view) {schedule : Schedule} {plan : Plan}
    {m m' : Moment σ κ} {result : Except Error Outcome}
    (hrun : Rehearsal.run site schedule (run plan) m = (some result, m'))
    (hnames : (view m.world).NamesUnique) (hplain : PlainFirst plan.session (view m.world))
    (hanswered : ∀ call ∈ teardown (Rehearsal.steps site schedule (run plan) m), refused call = false) :
    (¬ FillsEmptyChain plan (Rehearsal.steps site schedule (run plan) m) →
        view m'.world = view m.world) ∧
      (FillsEmptyChain plan (Rehearsal.steps site schedule (run plan) m) →
        LosesEmptyChain plan.session (view m.world) (view m'.world)) ∧
      ∀ found, (RouteGuard.install plan.namespaceName plan.session).Ends
          (installation (Rehearsal.steps site schedule (run plan) m)) found →
        (∀ guarded, found = .ok guarded → guarded.changed = false) → view m'.world = view m.world := by
  obtain ⟨hends, halong⟩ := Rehearsal.run_history hsite hrun
  generalize Rehearsal.steps site schedule (run plan) m = steps at *
  -- the table is followed through the installation, and from there through its restoration
  have hmain : FillsEmptyChain plan steps ∧
        LosesEmptyChain plan.session (view m.world) (view m'.world) ∨
      ¬ FillsEmptyChain plan steps ∧ view m'.world = view m.world := by
    rcases run_ends hends with ⟨hinstallation, hteardown⟩ | ⟨found, hinstall, hrestores⟩
    · right
      rw [hinstallation, hteardown] at halong
      refine ⟨?_, Program.along_nil.mp halong⟩
      rintro ⟨name, hfills⟩
      rw [hinstallation] at hfills
      obtain ⟨a, rest, hnil, -⟩ := hfills
      cases hnil
    · obtain ⟨middle, hinstalling, hrestoring⟩ := Program.along_append.mp halong
      have hinstalled := RouteGuard.install_takes hinstall hinstalling
      have hfills : FillsEmptyChain plan steps ↔
          ∃ name, found = .ok ⟨true, some name, some (.present [])⟩ := by
        constructor
        · rintro ⟨name, hname⟩
          exact ⟨name, hinstall.result_unique hname⟩
        · rintro ⟨name, rfl⟩
          exact ⟨name, hinstall⟩
      rw [hfills]
      exact hinstalled.restored hnames hplain hrestores hrestoring hanswered
  rcases hmain with ⟨hfills, hloses⟩ | ⟨hfills, hsame⟩
  · refine ⟨absurd hfills, fun _ => hloses, ?_⟩
    intro found hfound hchanged
    obtain ⟨name, hname⟩ := hfills
    cases hchanged _ (hfound.result_unique hname)
  · exact ⟨fun _ => hsame, fun h => absurd h hfills, fun _ _ _ => hsame⟩

/-- A session's route with this chain. -/
def guardableRoute (session : String) (chain : List Json) : Json :=
  .object [("metadata", .object [("name", .string (Session.ingressName session))]),
    ("spec", .object [("routes", .array [.object [("middlewares", .array chain)]])])]

def guardableEntry (chain : List Json) : Json := .object [("middlewares", .array chain)]

section GuardableRoute
variable (session : String) (chain chain' : List Json) (rest : RouteTable)

theorem name?_guardableRoute :
    Route.name? (guardableRoute session chain) = some (Session.ingressName session) := by
  simp [Route.name?, guardableRoute, Json.pointer?, Json.child?, Json.Members.get?_cons,
    Json.string?]

theorem firstRule?_guardableRoute :
    Route.firstRule? (guardableRoute session chain) = some (guardableEntry chain) := by
  have hindex : Json.Pointer.index? "0" = some 0 := by decide
  simp [Route.firstRule?, Route.entryPath, guardableRoute, guardableEntry, Json.pointer?, Json.child?,
    Json.Members.get?_cons, hindex]

theorem find?_guardableRoute : RouteTable.find? (guardableRoute session chain :: rest)
    (Session.ingressName session) = some (guardableRoute session chain) := by
  rw [RouteTable.find?_cons, name?_guardableRoute, if_pos (beq_self_eq_true _)]

theorem patch_guardableRoute : RouteTable.patch (guardableRoute session chain :: rest)
    (Session.ingressName session) [.replace Route.chainPath (.array chain')] =
      .ok (guardableRoute session chain' :: rest) := by
  have hindex : Json.Pointer.index? "0" = some 0 := by decide
  have happly : Json.Patch.applyTo? [.replace Route.chainPath (.array chain')]
      (guardableRoute session chain) = some (guardableRoute session chain') := by
    rw [Route.applyTo?_replace]
    simp [Route.entryPath, guardableRoute, Json.alter?, Json.child?, Json.setChild?, Json.Members.get?_cons,
      Json.Members.set, Json.Members.replace, hindex, Route.chainKey]
  rw [RouteTable.patch, find?_guardableRoute]
  dsimp only
  rw [happly]
  simp [RouteTable.replaceFirst, name?_guardableRoute]

end GuardableRoute

/-- The deployment's look-up crashes, and the manifests cannot be deleted. -/
def crashingScript : Script :=
  ⟨.ok (), .error (.internal "refused" "delete"), .crashed ⟨some "lost"⟩, none⟩

def crashingPlan : Plan := ⟨"default", "abc", "", ⟨0⟩, "echo"⟩

def crashingStart : Moment RouteDesk SiteCall :=
  .start ⟨[guardableRoute "abc" [.string "limit"], guardableRoute "abcd" []], [], [], []⟩

/-- A run that crashes at a site that does not delete. -/
theorem run_restores_crashing : ∃ m', Rehearsal.run crashingScript.site ⟨200, none⟩ (run crashingPlan)
      crashingStart = (some (.error (.internal "lost" "wait_and_tail")), m') ∧
    m'.world.routes = crashingStart.world.routes := by
  have hrun : (Rehearsal.run crashingScript.site ⟨200, none⟩ (run crashingPlan) crashingStart).1 =
      some (.error (.internal "lost" "wait_and_tail")) := by decide +kernel
  have hroute : RouteTable.ofSession? crashingStart.world.routes crashingPlan.session =
      some (guardableRoute "abc" [.string "limit"]) := by decide +kernel
  have hentry : Route.firstRule? (guardableRoute "abc" [.string "limit"]) =
      some (.object [("middlewares", .array [.string "limit"])]) := by decide +kernel
  refine ⟨_, Prod.ext hrun rfl, ?_⟩
  obtain ⟨hsame, hloses, -⟩ := run_restores crashingScript.site_holdsRoutes (Prod.ext hrun rfl)
    (by unfold RouteTable.NamesUnique; decide +kernel)
    (by
      intro route entry h h'
      obtain rfl := Option.some.inj (hroute.symm.trans h)
      obtain rfl := Option.some.inj (hentry.symm.trans h')
      rfl)
    (by decide +kernel)
  refine hsame ?_
  intro hfills
  obtain ⟨name, route, entry, route', h, -, h', hempty, -⟩ := hloses hfills
  obtain rfl := Option.some.inj (hroute.symm.trans h)
  obtain rfl := Option.some.inj (hentry.symm.trans h')
  cases hempty

/-! ## A route with one middleware -/

/-- The chain of the route, without the gateway's middleware or with it. -/
def limitedChain : Bool → List Json
  | false => [.string "limit"]
  | true => Route.promote [.string "limit"] forwardAuth

def limitedTable (guarded : Bool) : RouteTable := [guardableRoute "abc" (limitedChain guarded)]

def limitedRead (guarded : Bool) : Step routeAccess :=
  ⟨.get "default" (Session.ingressName "abc"), .ok (some (guardableRoute "abc" (limitedChain guarded)))⟩

def limitedWrite (guarded : Bool) (reported : Except Error Unit) : Step routeAccess :=
  ⟨.patch "default" (Session.ingressName "abc") [.replace Route.chainPath (.array (limitedChain guarded))],
    reported⟩

section LimitedRoute
variable (guarded guarded' : Bool)

theorem limitedTable_namesUnique : (limitedTable guarded).NamesUnique := by
  simp [limitedTable, RouteTable.NamesUnique, name?_guardableRoute]

theorem limitedTable_ofSession? : RouteTable.ofSession? (limitedTable guarded) "abc" =
    some (guardableRoute "abc" (limitedChain guarded)) := by
  have hfind := find?_guardableRoute "abc" (limitedChain guarded) []
  rw [RouteTable.ofSession?, limitedTable, hfind, Option.some_or]

theorem limitedTable_patch : RouteTable.patch (limitedTable guarded) (Session.ingressName "abc")
    [.replace Route.chainPath (.array (limitedChain guarded'))] = .ok (limitedTable guarded') :=
  patch_guardableRoute "abc" (limitedChain guarded) (limitedChain guarded') []

theorem takes_limitedRead :
    RouteTable.Takes (limitedTable guarded) (limitedRead guarded) (limitedTable guarded) :=
  .get (find?_guardableRoute "abc" (limitedChain guarded) [])

theorem takes_limitedWrite :
    RouteTable.Takes (limitedTable guarded) (limitedWrite guarded' (.ok ())) (limitedTable guarded') :=
  .patch (limitedTable_patch guarded guarded')

/-- An installation that finds the route not guarded. -/
theorem install_limited : (RouteGuard.install "default" "abc").Ends
    [limitedRead false, limitedWrite true (.ok ())]
    (.ok ⟨true, some (Session.ingressName "abc"), some (.present (limitedChain false))⟩) :=
  RouteGuard.install_of_guards RouteGuard.find_of_get
    (.patched (name?_guardableRoute "abc" _) (firstRule?_guardableRoute "abc" _) rfl)

theorem restore_limited :
    (RouteGuard.restore "default" (Session.ingressName "abc") (.present (limitedChain guarded))).Ends
      [limitedRead guarded', limitedWrite guarded (.ok ())] (.ok ()) :=
  RouteGuard.restore_of_patch (firstRule?_guardableRoute "abc" _) (by cases guarded <;> rfl)

end LimitedRoute

/-- The plan of `crashingPlan` has no manifests. -/
theorem crashingPlan_manifests : crashingPlan.manifests = .ok [] := by decide +kernel

end SessionGate.Intercept
