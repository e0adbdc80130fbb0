import SessionGate.Proofs.Intercept.Restoration
import SessionGate.Proofs.Program.Interleaving

/-! # Runs that overlap

* `RouteTable.Succeeds`: a call of the store that does not fail.
* `Unguarded`: a table with a session's route that the gateway does not guard. While runs on that session
  are under way the route has one of two chains (`Bears`).
* `install_keeps` and `restore_keeps`: whatever the other runs do, an installation keeps to those two
  chains, and a restoration leaves the one that its own installation found.
* `overlap_restored_iff`: after any number of overlapping runs the table is what it was exactly when the
  run of the last call had found the route not guarded.
-/
namespace SessionGate.Intercept
set_option autoImplicit false
open Cluster (Error)
open Program (Step Along Seen Keeps stepsOf)

variable {ns session name : String} {routes before after : RouteTable} {route entry : Json}

/-! ## Calls that succeed -/

/-- The call is answered from the table and does not fail. -/
def RouteTable.Succeeds (routes : RouteTable) (step : Step routeAccess) (routes' : RouteTable) : Prop :=
  RouteTable.Takes routes step routes' ∧ refused step = false

namespace RouteTable
variable {routes' : RouteTable}

theorem succeeds_get {a : Except Error (Option Json)} (h : Succeeds routes ⟨.get ns name, a⟩ routes') :
    routes' = routes ∧ a = .ok (find? routes name) := by
  obtain ⟨htakes, hanswered⟩ := h
  obtain ⟨rfl, ha | ⟨e, rfl⟩⟩ := takes_get htakes
  · exact ⟨rfl, ha⟩
  · cases hanswered

theorem succeeds_list {a : Except Error (List Json)} (h : Succeeds routes ⟨.list ns, a⟩ routes') :
    routes' = routes ∧ a = .ok routes := by
  obtain ⟨htakes, hanswered⟩ := h
  obtain ⟨rfl, ha | ⟨e, rfl⟩⟩ := takes_list htakes
  · exact ⟨rfl, ha⟩
  · cases hanswered

theorem succeeds_patch {p : Json.Patch} {a : Except Error Unit}
    (h : Succeeds routes ⟨.patch ns name p, a⟩ routes') : a = .ok () ∧ ∃ route route',
      find? routes name = some route ∧ p.applyTo? route = some route' ∧
        routes' = replaceFirst name route' routes := by
  obtain ⟨htakes, hanswered⟩ := h
  rcases takes_patch htakes with ⟨e, rfl, -⟩ | hpatched
  · cases hanswered
  · exact hpatched

theorem succeeds_read {step : Step routeAccess} (h : Succeeds routes step routes') (hread : reads step = true) :
    routes' = routes := takes_read h.1 hread

end RouteTable

/-! ## Two chains -/

/-- A table with the route of a session. The chain of its first entry is absent, or it has a first item
that is not the gateway's middleware. -/
structure Unguarded (session name : String) (routes : RouteTable) (route entry : Json) : Prop where
  namesUnique : routes.NamesUnique
  ofSession : RouteTable.ofSession? routes session = some route
  hasName : Route.name? route = some name
  hasEntry : Route.firstRule? route = some entry
  plain : Route.isPlain entry = true
  notGuarded : Route.isGuarded entry = false
  notEmpty : Route.snapshot entry ≠ .present []

/-- The chain of an entry as it is, or with the gateway's middleware in front. -/
def Route.chainIf (entry : Json) (guarded : Bool) : Snapshot :=
  match guarded with
  | false => snapshot entry
  | true => .present (promote (snapshot entry).chain forwardAuth)

/-- The table, with one of the two chains in the route. -/
def Bears (name : String) (routes : RouteTable) (route entry : Json) (guarded : Bool) (t : RouteTable) : Prop :=
  ∃ r, route.alter? (Route.withChain (Route.chainIf entry guarded)) Route.entryPath = some r ∧
    t = RouteTable.replaceFirst name r routes

/-- The table, with any of the two chains in the route. -/
def Within (name : String) (routes : RouteTable) (route entry : Json) (t : RouteTable) : Prop :=
  ∃ guarded, Bears name routes route entry guarded t

namespace Unguarded

variable {guarded : Bool} {r : Json} {t : RouteTable}

theorem find? (h : Unguarded session name routes route entry) : RouteTable.find? routes name = some route :=
  RouteTable.find?_of_mem h.namesUnique (RouteTable.mem_of_ofSession? h.ofSession) h.hasName

/-- Neither of the two chains is empty. -/
theorem normal_chainIf (h : Unguarded session name routes route entry) (guarded : Bool) :
    (Route.chainIf entry guarded).normal = Route.chainIf entry guarded := by
  cases guarded with
  | true => rfl
  | false => exact Route.Snapshot.normal_of_ne h.notEmpty

theorem bears (h : Unguarded session name routes route entry) : Bears name routes route entry false routes :=
  ⟨route, Json.alter?_of_fixed h.hasEntry (Route.withChain_snapshot h.plain),
    (RouteTable.replaceFirst_of_find? h.find?).symm⟩

/-- The route with one of the two chains. -/
theorem posed (h : Unguarded session name routes route entry)
    (hr : route.alter? (Route.withChain (Route.chainIf entry guarded)) Route.entryPath = some r) :
    Route.name? r = some name ∧ ∃ entry', Route.firstRule? r = some entry' ∧
      Route.snapshot entry' = Route.chainIf entry guarded ∧ Route.isGuarded entry' = guarded := by
  refine ⟨(Route.name?_alter? hr).trans h.hasName, ?_⟩
  obtain ⟨first, entry', hfirst, hset, hentry'⟩ := Json.pointer?_alter? hr
  obtain rfl := Option.some.inj (h.hasEntry.symm.trans hfirst)
  refine ⟨entry', hentry', ?_⟩
  cases guarded with
  | true =>
    have hsnapshot := Route.snapshot_withChain_present hset
    refine ⟨hsnapshot, ?_⟩
    rw [Route.isGuarded, hsnapshot]
    rfl
  | false =>
    obtain rfl := Option.some.inj ((Route.withChain_snapshot h.plain).symm.trans hset)
    exact ⟨rfl, h.notGuarded⟩

/-- Under its name the route is found with the chain that the table bears. -/
theorem find?_bears (h : Unguarded session name routes route entry)
    (ht : Bears name routes route entry guarded t) : ∃ r, RouteTable.find? t name = some r ∧
      route.alter? (Route.withChain (Route.chainIf entry guarded)) Route.entryPath = some r := by
  obtain ⟨r, hr, rfl⟩ := ht
  exact ⟨r, RouteTable.find?_replaceFirst h.find? (h.posed hr).1, hr⟩

/-- It is found for the session in the same way, whatever chain the table bears. -/
theorem search_bears (h : Unguarded session name routes route entry)
    (ht : Bears name routes route entry guarded t) : ∃ r,
      route.alter? (Route.withChain (Route.chainIf entry guarded)) Route.entryPath = some r ∧
      (RouteTable.find? routes (Session.ingressName session) = none →
        RouteTable.find? t (Session.ingressName session) = none ∧
          List.find? (Route.serves session) t = some r) ∧
      (RouteTable.find? routes (Session.ingressName session) ≠ none →
        RouteTable.find? t (Session.ingressName session) = some r) := by
  obtain ⟨r, hr, rfl⟩ := ht
  have hroute := h.ofSession
  have hname : (Route.name? r == some (Session.ingressName session)) =
      (Route.name? route == some (Session.ingressName session)) := by rw [Route.name?_alter? hr]
  rw [RouteTable.ofSession?] at hroute
  refine ⟨r, hr, fun hnone => ?_, fun hsome => ?_⟩
  · rw [hnone, Option.none_or] at hroute
    exact ⟨RouteTable.find?_replaceFirst_of_none h.find? hname hnone,
      RouteTable.find?_replaceFirst_of_some h.find? (Route.serves_alter? hr) hroute⟩
  · obtain ⟨found, hfound⟩ := Option.ne_none_iff_exists'.mp hsome
    rw [hfound, Option.some_or] at hroute
    obtain rfl := Option.some.inj hroute
    exact RouteTable.find?_replaceFirst_of_some h.find? hname hfound

/-- A chain that is written leaves nothing of the one that was there. -/
theorem bears_write {guarded' : Bool} {r' : Json} (h : Unguarded session name routes route entry)
    (ht : Bears name routes route entry guarded t) (hfind : RouteTable.find? t name = some r)
    (hr' : r.alter? (Route.withChain (Route.chainIf entry guarded')) Route.entryPath = some r') :
    Bears name routes route entry guarded' (RouteTable.replaceFirst name r' t) := by
  obtain ⟨r₁, hr, rfl⟩ := ht
  have hname := (h.posed hr).1
  obtain rfl := Option.some.inj ((RouteTable.find?_replaceFirst h.find? hname).symm.trans hfind)
  refine ⟨r', ?_, RouteTable.replaceFirst_replaceFirst hname⟩
  rw [Json.alter?_alter? hr] at hr'
  rw [← hr']
  refine Json.alter?_congr h.hasEntry ?_
  cases guarded with
  | true => exact (Route.withChain_present_bind _ _ entry).symm
  | false =>
    rw [Route.chainIf, Route.withChain_snapshot h.plain]
    rfl

/-! ## What one run does among others -/

variable {steps : List (Step routeAccess)}

/-- A look-up comes to the route of the session, with one of the two chains. -/
theorem find_seen {found : Except Error (Option Json)} (h : Unguarded session name routes route entry)
    (hends : (RouteGuard.find ns session).Ends steps found)
    (hseen : ∀ step ∈ steps, Seen RouteTable.Succeeds (Within name routes route entry) step) :
    ∃ guarded r, found = .ok (some r) ∧
      route.alter? (Route.withChain (Route.chainIf entry guarded)) Route.entryPath = some r := by
  rcases RouteGuard.find_ends hends with ⟨e, rfl, rfl⟩ | ⟨x, rfl, rfl⟩ | ⟨e, rfl, rfl⟩ | ⟨listed, rfl, rfl⟩
  · obtain ⟨t, t', -, hget⟩ := List.forall_mem_singleton.mp hseen
    cases (RouteTable.succeeds_get hget).2
  · obtain ⟨t, t', ⟨guarded, ht⟩, hget⟩ := List.forall_mem_singleton.mp hseen
    obtain ⟨-, ha⟩ := RouteTable.succeeds_get hget
    obtain ⟨r, hr, hunnamed, hnamed⟩ := h.search_bears ht
    refine ⟨guarded, r, ?_, hr⟩
    by_cases hown : RouteTable.find? routes (Session.ingressName session) = none
    · rw [(hunnamed hown).1] at ha
      cases ha
    · rw [hnamed hown] at ha
      exact ha
  · obtain ⟨-, hlist⟩ := List.forall_mem_cons.mp hseen
    obtain ⟨t, t', -, hlist⟩ := List.forall_mem_singleton.mp hlist
    cases (RouteTable.succeeds_list hlist).2
  · obtain ⟨hget, hlist⟩ := List.forall_mem_cons.mp hseen
    obtain ⟨t, t', ⟨guarded, ht⟩, hget⟩ := hget
    obtain ⟨u, u', ⟨guarded', hu⟩, hlist⟩ := List.forall_mem_singleton.mp hlist
    obtain ⟨-, ha⟩ := RouteTable.succeeds_get hget
    obtain ⟨-, hb⟩ := RouteTable.succeeds_list hlist
    obtain ⟨r, hr, -, hnamed⟩ := h.search_bears ht
    obtain ⟨r', hr', hunnamed, -⟩ := h.search_bears hu
    by_cases hown : RouteTable.find? routes (Session.ingressName session) = none
    · refine ⟨guarded', r', ?_, hr'⟩
      rw [Except.ok.inj hb, (hunnamed hown).2]
    · rw [hnamed hown] at ha
      cases ha

/-- An installation reports the chain that it has found, and whether that was without the middleware. -/
theorem install_seen {found : Except Error Guarded} (h : Unguarded session name routes route entry)
    (hends : (RouteGuard.install ns session).Ends steps found)
    (hseen : ∀ step ∈ steps, Seen RouteTable.Succeeds (Within name routes route entry) step) :
    ∃ guarded, found = .ok ⟨!guarded, some name, some (Route.chainIf entry guarded)⟩ := by
  obtain ⟨answer, asked, rest, hfind, rfl, hrest⟩ := RouteGuard.install_ends hends
  obtain ⟨hasked, hseen⟩ := List.forall_mem_append.mp hseen
  obtain ⟨guarded, r, rfl, hr⟩ := h.find_seen hfind hasked
  obtain ⟨hname, entry', hentry', hsnapshot, hguarded⟩ := h.posed hr
  rcases hrest with ⟨e, he, -⟩ | ⟨hnone, -⟩ | ⟨r', hr', hguards⟩
  · cases he
  · cases hnone
  · obtain rfl := Option.some.inj (Except.ok.inj hr')
    cases hguards with
    | nameless hname' => cases hname.symm.trans hname'
    | noEntry _ hentry => cases hentry'.symm.trans hentry
    | already hname' hentry hfirst =>
      obtain rfl := Option.some.inj (hname.symm.trans hname')
      obtain rfl := Option.some.inj (hentry'.symm.trans hentry)
      obtain rfl := hguarded.symm.trans hfirst
      exact ⟨true, by rw [hsnapshot]; rfl⟩
    | patched hname' hentry hfirst =>
      obtain rfl := Option.some.inj (hname.symm.trans hname')
      obtain rfl := Option.some.inj (hentry'.symm.trans hentry)
      obtain rfl := hguarded.symm.trans hfirst
      exact ⟨false, by rw [hsnapshot]; rfl⟩
    | refused =>
      obtain ⟨t, t', -, hpatch⟩ := List.forall_mem_singleton.mp hseen
      cases (RouteTable.succeeds_patch hpatch).1

/-- Whatever chain is read by an installation, its patch puts the middleware in front. -/
theorem install_keeps {found : Except Error Guarded} (h : Unguarded session name routes route entry)
    (hends : (RouteGuard.install ns session).Ends steps found) :
    Keeps RouteTable.Succeeds (Within name routes route entry) (fun _ => True) steps := by
  obtain ⟨answer, asked, rest, hfind, rfl, hrest⟩ := RouteGuard.install_ends hends
  have hreads : Keeps RouteTable.Succeeds (Within name routes route entry) (fun _ => True) asked := by
    refine Program.keeps_of_forall fun step hstep t t' ht hsucceeds => ?_
    rw [RouteTable.succeeds_read hsucceeds (RouteGuard.reads_of_find_ends hfind step hstep)]
    exact ht
  have hpatch : ∀ {r entry' : Json} {name' : String} {a : Except Error Unit} {guarded : Bool},
      route.alter? (Route.withChain (Route.chainIf entry guarded)) Route.entryPath = some r →
      Route.name? r = some name' → Route.firstRule? r = some entry' → Route.isGuarded entry' = false →
      Keeps RouteTable.Succeeds (Within name routes route entry) (fun _ => True)
        [⟨.patch ns name' (RouteGuard.guardPatch entry'), a⟩] := by
    intro r entry' name' a guarded hr hname' hentry' hfirst
    obtain ⟨hname, first, hfirst', hsnapshot, hguarded⟩ := h.posed hr
    obtain rfl := Option.some.inj (hname.symm.trans hname')
    obtain rfl := Option.some.inj (hfirst'.symm.trans hentry')
    obtain rfl := hguarded.symm.trans hfirst
    refine Program.keeps_singleton fun t t' ht hstep => ⟨?_, trivial⟩
    obtain ⟨guarded', ht⟩ := ht
    obtain ⟨-, r', r'', hfind', happly, rfl⟩ := RouteTable.succeeds_patch hstep
    rw [RouteGuard.guardPatch, hsnapshot] at happly
    exact ⟨true, h.bears_write ht hfind' (Route.alter?_of_chainPatch happly)⟩
  refine hreads.append (fun hseen => ?_) fun _ _ => trivial
  obtain ⟨guarded, r, rfl, hr⟩ := h.find_seen hfind hseen
  rcases hrest with ⟨e, he, -⟩ | ⟨hnone, -⟩ | ⟨r', hr', hguards⟩
  · cases he
  · cases hnone
  · obtain rfl := Option.some.inj (Except.ok.inj hr')
    cases hguards with
    | nameless | noEntry | already => exact Program.keeps_nil
    | patched hname hentry hfirst => exact hpatch hr hname hentry hfirst
    | refused hname hentry hfirst => exact hpatch hr hname hentry hfirst

/-- A restoration leaves the chain of its snapshot, whatever chain it reads. -/
theorem restore_keeps {guarded : Bool} {result : Except Error Unit}
    (h : Unguarded session name routes route entry)
    (hends : (RouteGuard.restore ns name (Route.chainIf entry guarded)).Ends steps result) :
    Keeps RouteTable.Succeeds (Within name routes route entry) (Bears name routes route entry guarded) steps := by
  obtain ⟨answer, rest, rfl, hrest⟩ := RouteGuard.restore_ends hends
  -- the route is there, with one of the two chains
  have hget : ∀ t t', Within name routes route entry t → RouteTable.Succeeds t ⟨.get ns name, answer⟩ t' →
      t' = t ∧ ∃ guarded' r entry', Bears name routes route entry guarded' t ∧ answer = .ok (some r) ∧
        Route.firstRule? r = some entry' ∧ Route.snapshot entry' = Route.chainIf entry guarded' := by
    rintro t t' ⟨guarded', ht⟩ hstep
    obtain ⟨rfl, ha⟩ := RouteTable.succeeds_get hstep
    obtain ⟨r, hfind, hr⟩ := h.find?_bears ht
    obtain ⟨-, entry', hentry', hsnapshot, -⟩ := h.posed hr
    exact ⟨rfl, guarded', r, entry', ht, ha.trans (congrArg Except.ok hfind), hentry', hsnapshot⟩
  rcases hrest with ⟨e, rfl, rfl, -⟩ | ⟨rfl, rfl, -⟩ | ⟨r, rfl, hrest⟩
  · refine Program.keeps_singleton fun t t' ht hstep => ?_
    obtain ⟨-, guarded', r, entry', -, ha, -⟩ := hget t t' ht hstep
    cases ha
  · refine Program.keeps_singleton fun t t' ht hstep => ?_
    obtain ⟨-, guarded', r, entry', -, ha, -⟩ := hget t t' ht hstep
    cases ha
  · rcases hrest with ⟨hnone, rfl, -⟩ | ⟨entry', hentry', ⟨hpatch, rfl, -⟩ | ⟨patch, hpatch, rfl⟩⟩
    · refine Program.keeps_singleton fun t t' ht hstep => ?_
      obtain ⟨-, guarded', r', entry', -, ha, hentry', -⟩ := hget t t' ht hstep
      obtain rfl := Option.some.inj (Except.ok.inj ha)
      cases hnone.symm.trans hentry'
    · -- nothing is written only where the chain is the one that is wanted
      refine Program.keeps_singleton fun t t' ht hstep => ?_
      obtain ⟨rfl, guarded', r', first, hbears, ha, hfirst, hsnapshot⟩ := hget t t' ht hstep
      obtain rfl := Option.some.inj (Except.ok.inj ha)
      obtain rfl := Option.some.inj (hentry'.symm.trans hfirst)
      obtain ⟨hwanted, hcurrent⟩ := Route.restorePatch?_eq_none.mp hpatch
      rw [h.normal_chainIf] at hwanted
      refine ⟨ht, ?_⟩
      rw [Bears, hwanted, ← hcurrent, hsnapshot]
      exact hbears
    · rw [← List.singleton_append]
      refine Program.Keeps.append ?_ (fun _ => ?_) (by simp)
      · refine Program.keeps_singleton fun t t' ht hstep => ⟨?_, trivial⟩
        rw [(hget t t' ht hstep).1]
        exact ht
      · refine Program.keeps_singleton fun t t' ht hstep => ?_
        obtain ⟨guarded', ht⟩ := ht
        obtain ⟨-, r', r'', hfind, happly, rfl⟩ := RouteTable.succeeds_patch hstep
        have hwrite := Route.alter?_of_restorePatch hpatch happly
        rw [h.normal_chainIf] at hwrite
        have hbears := h.bears_write ht hfind hwrite
        exact ⟨⟨guarded, hbears⟩, hbears⟩

end Unguarded

/-! ## Any number of runs -/

/-- Runs on one session, each of which makes its calls of the store somewhere among these calls. No call
fails, and nobody else writes. -/
structure Overlap {ι : Type} [DecidableEq ι] (ns session : String) (plans : ι → Plan)
    (histories : ι → List (Step stage)) (calls : List (ι × Step routeAccess)) (before after : RouteTable) :
    Prop where
  sameSession : ∀ i, (plans i).namespaceName = ns ∧ (plans i).session = session
  runs : ∀ i, ∃ result, (run (plans i)).Ends (histories i) result
  order : ∀ i, stepsOf i calls = installation (histories i) ++ teardown (histories i)
  along : Along RouteTable.Succeeds before (calls.map (·.2)) after

variable {ι : Type} [DecidableEq ι] {plans : ι → Plan} {histories : ι → List (Step stage)}
  {calls : List (ι × Step routeAccess)}

/-- The calls of one run keep to the two chains and end with the one that the run has found. -/
theorem Unguarded.run_keeps {plan : Plan} {steps : List (Step stage)} {result : Except Error Outcome}
    (h : Unguarded plan.session name routes route entry) (hends : (run plan).Ends steps result) :
    Keeps RouteTable.Succeeds (Within name routes route entry)
      (fun t => ∀ guarded, (RouteGuard.install plan.namespaceName plan.session).Ends (installation steps)
        (.ok ⟨!guarded, some name, some (Route.chainIf entry guarded)⟩) →
          Bears name routes route entry guarded t)
      (installation steps ++ teardown steps) := by
  rcases run_ends hends with ⟨hinstallation, hteardown⟩ | ⟨found, hinstall, hrestores⟩
  · rw [hinstallation, hteardown]
    exact Program.keeps_nil
  · refine (h.install_keeps hinstall).append (fun hseen => ?_) ?_
    · obtain ⟨guarded, rfl⟩ := h.install_seen hinstall hseen
      obtain ⟨r, hrestore⟩ := hrestores
      refine (h.restore_keeps hrestore).imp fun t ht guarded' hinstall' => ?_
      have hsame := Except.ok.inj (hinstall.result_unique hinstall')
      obtain rfl : guarded = guarded' := Bool.not_inj (Guarded.mk.inj hsame).1
      exact ht
    · -- a run that has found the route asks something of the store at its end
      intro hnil t guarded hinstall'
      obtain rfl := hinstall.result_unique hinstall'
      obtain ⟨r, hrestore⟩ := hrestores
      obtain ⟨answer, rest, hsteps, -⟩ := RouteGuard.restore_ends hrestore
      rw [hnil] at hsteps
      cases hsteps

/-- After runs that overlap the table is what it was exactly when the run of the last call had found the
route not guarded. Otherwise the middleware is left in front. -/
theorem overlap_restored_iff {earlier : List (ι × Step routeAccess)} {last : ι} {step : Step routeAccess}
    (hover : Overlap ns session plans histories calls before after)
    (hroute : Unguarded session name before route entry) (hlast : calls = earlier ++ [(last, step)]) :
    ∃ found, (RouteGuard.install ns session).Ends (installation (histories last)) (.ok found) ∧
      (after = before ↔ found.changed = true) ∧
      (found.changed = false → ∃ target,
        route.alter? (Route.withChain (.present (Route.promote (Route.snapshot entry).chain forwardAuth)))
          Route.entryPath = some target ∧ after = RouteTable.replaceFirst name target before) := by
  have hkeeps : ∀ i, Keeps RouteTable.Succeeds (Within name before route entry)
      (fun t => ∀ guarded, (RouteGuard.install ns session).Ends (installation (histories i))
        (.ok ⟨!guarded, some name, some (Route.chainIf entry guarded)⟩) →
          Bears name before route entry guarded t) (stepsOf i calls) := by
    intro i
    obtain ⟨result, hends⟩ := hover.runs i
    obtain ⟨rfl, rfl⟩ := hover.sameSession i
    rw [hover.order i]
    exact hroute.run_keeps hends
  obtain ⟨hseen, hends⟩ := Program.keeps_interleaved hkeeps ⟨false, hroute.bears⟩ hover.along
  -- the run of the last call has found the route with one of the two chains
  obtain ⟨guarded, hinstall⟩ : ∃ guarded, (RouteGuard.install ns session).Ends (installation (histories last))
      (.ok ⟨!guarded, some name, some (Route.chainIf entry guarded)⟩) := by
    obtain ⟨result, hrun⟩ := hover.runs last
    have horder := hover.order last
    obtain ⟨rfl, rfl⟩ := hover.sameSession last
    rcases run_ends hrun with ⟨hinstallation, hteardown⟩ | ⟨found, hinstall, -⟩
    · rw [hinstallation, hteardown, hlast, Program.stepsOf_append, Program.stepsOf_cons_self] at horder
      cases (List.append_eq_nil_iff.mp horder).2
    · obtain ⟨guarded, rfl⟩ := hroute.install_seen hinstall fun s hs => by
        refine hseen _ (Program.mem_of_mem_stepsOf (i := last) ?_)
        rw [horder]
        exact List.mem_append_left _ hs
      exact ⟨guarded, hinstall⟩
  obtain ⟨r, hr, hafter⟩ := hends earlier last step hlast guarded hinstall
  refine ⟨_, hinstall, ?_⟩
  cases guarded with
  | false =>
    obtain rfl := Option.some.inj ((Json.alter?_of_fixed hroute.hasEntry
      (Route.withChain_snapshot hroute.plain)).symm.trans hr)
    refine ⟨iff_of_true (hafter.trans (RouteTable.replaceFirst_of_find? hroute.find?)) rfl, ?_⟩
    intro h
    cases h
  | true =>
    refine ⟨iff_of_false ?_ (by simp), fun _ => ⟨r, hr, hafter⟩⟩
    intro hsame
    obtain ⟨hname, entry', hentry', -, hguarded⟩ := hroute.posed hr
    have hfind := RouteTable.find?_replaceFirst hroute.find? hname
    rw [← hafter, hsame, hroute.find?] at hfind
    obtain rfl := Option.some.inj hfind
    obtain rfl := Option.some.inj (hroute.hasEntry.symm.trans hentry')
    cases hroute.notGuarded.symm.trans hguarded

/-! ## Two runs -/

theorem limitedTable_unguarded : Unguarded "abc" (Session.ingressName "abc") (limitedTable false)
    (guardableRoute "abc" (limitedChain false)) (guardableEntry (limitedChain false)) where
  namesUnique := limitedTable_namesUnique false
  ofSession := limitedTable_ofSession? false
  hasName := name?_guardableRoute "abc" _
  hasEntry := firstRule?_guardableRoute "abc" _
  plain := rfl
  notGuarded := rfl
  notEmpty := by
    intro h
    cases h

theorem succeeds_limitedRead (guarded : Bool) :
    RouteTable.Succeeds (limitedTable guarded) (limitedRead guarded) (limitedTable guarded) :=
  ⟨takes_limitedRead guarded, rfl⟩

theorem succeeds_limitedWrite (guarded guarded' : Bool) : RouteTable.Succeeds (limitedTable guarded)
    (limitedWrite guarded' (.ok ())) (limitedTable guarded') :=
  ⟨takes_limitedWrite guarded guarded', rfl⟩

/-- Two runs, of which the second one finds the middleware of the first. At its end each reads the route
once more, with this chain, before it puts back what it has found. -/
theorem limited_overlap (first second : Bool) (calls : List (Bool × Step routeAccess))
    (hfirst : stepsOf false calls =
      [limitedRead false, limitedWrite true (.ok ()), limitedRead first, limitedWrite false (.ok ())])
    (hsecond : stepsOf true calls = [limitedRead true, limitedRead second, limitedWrite true (.ok ())])
    (halong : Along RouteTable.Succeeds (limitedTable false) (calls.map (·.2)) after) :
    ∃ histories, Overlap "default" "abc" (fun _ => crashingPlan) histories calls (limitedTable false) after := by
  have hfinds : (RouteGuard.install "default" "abc").Ends [limitedRead true]
      (.ok ⟨false, some (Session.ingressName "abc"), some (.present (limitedChain true))⟩) :=
    RouteGuard.install_of_guards RouteGuard.find_of_get
      (.already (name?_guardableRoute "abc" _) (firstRule?_guardableRoute "abc" _) rfl)
  obtain ⟨steps, hends, hinstallation, hteardown⟩ := exists_ends crashingPlan_manifests install_limited
    (.cancelled _) ⟨_, restore_limited false first⟩
  obtain ⟨steps', hends', hinstallation', hteardown'⟩ := exists_ends crashingPlan_manifests hfinds
    (.cancelled _) ⟨_, restore_limited true second⟩
  refine ⟨fun i => if i then steps' else steps, fun _ => ⟨rfl, rfl⟩, ?_, ?_, halong⟩
  · rintro (_ | _)
    · exact ⟨_, hends⟩
    · exact ⟨_, hends'⟩
  · rintro (_ | _)
    · change stepsOf false calls = installation steps ++ teardown steps
      rw [hfirst, hinstallation, hteardown]
      rfl
    · change stepsOf true calls = installation steps' ++ teardown steps'
      rw [hsecond, hinstallation', hteardown']
      rfl

/-- The run that has found the route not guarded ends last. -/
theorem overlap_restored_iff_nested : ∃ histories calls found,
    Overlap "default" "abc" (fun _ : Bool => crashingPlan) histories calls (limitedTable false)
      (limitedTable false) ∧
    (RouteGuard.install "default" "abc").Ends (installation (histories false)) (.ok found) ∧
      found.changed = true := by
  have halong : Along RouteTable.Succeeds (limitedTable false) _ (limitedTable false) :=
    .cons (succeeds_limitedRead false) (.cons (succeeds_limitedWrite false true)
      (.cons (succeeds_limitedRead true) (.cons (succeeds_limitedRead true)
        (.cons (succeeds_limitedWrite true true) (.cons (succeeds_limitedRead true)
          (.cons (succeeds_limitedWrite true false) (.nil _)))))))
  obtain ⟨histories, hover⟩ := limited_overlap true true
    ([(false, limitedRead false), (false, limitedWrite true (.ok ())), (true, limitedRead true),
      (true, limitedRead true), (true, limitedWrite true (.ok ())), (false, limitedRead true)] ++
      [(false, limitedWrite false (.ok ()))]) rfl rfl halong
  obtain ⟨found, hinstall, hrestored, -⟩ := overlap_restored_iff hover limitedTable_unguarded rfl
  exact ⟨histories, _, found, hover, hinstall, hrestored.mp rfl⟩

/-- The run that has found the middleware of the other one ends last, and leaves it in front. -/
theorem overlap_keeps_guard : ∃ histories calls,
    Overlap "default" "abc" (fun _ : Bool => crashingPlan) histories calls (limitedTable false)
      (limitedTable true) ∧
    Unguarded "abc" (Session.ingressName "abc") (limitedTable false)
      (guardableRoute "abc" (limitedChain false)) (guardableEntry (limitedChain false)) ∧
    limitedTable true ≠ limitedTable false := by
  have halong : Along RouteTable.Succeeds (limitedTable false) _ (limitedTable true) :=
    .cons (succeeds_limitedRead false) (.cons (succeeds_limitedWrite false true)
      (.cons (succeeds_limitedRead true) (.cons (succeeds_limitedRead true)
        (.cons (succeeds_limitedWrite true false) (.cons (succeeds_limitedRead false)
          (.cons (succeeds_limitedWrite false true) (.nil _)))))))
  obtain ⟨histories, hover⟩ := limited_overlap true false
    [(false, limitedRead false), (false, limitedWrite true (.ok ())), (true, limitedRead true),
      (false, limitedRead true), (false, limitedWrite false (.ok ())), (true, limitedRead false),
      (true, limitedWrite true (.ok ()))] rfl rfl halong
  exact ⟨histories, _, hover, limitedTable_unguarded, by decide +kernel⟩

end SessionGate.Intercept
