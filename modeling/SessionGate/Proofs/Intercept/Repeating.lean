import SessionGate.Proofs.Intercept.Desk
import SessionGate.Proofs.Intercept.Overwriting

/-! # Installations one after the other

* `Route.promote`: the gateway's middleware is in the chain once (`countP_promote`).
* `RouteTable.Secured`: the session's route is there, and its chain is guarded.
* `RouteTable.Secured.install`: one more installation changes nothing, and `RouteTable.Secured.installs`: nor do
  any more.
* `install_repeats`: what the first installation does, and that it is the only one that does anything.
-/
namespace SessionGate.Intercept
set_option autoImplicit false
open Cluster (Error)
open Json (Members)

variable {desk : RouteDesk} {ns session name : String} {routes : RouteTable} {route entry : Json}
  {members : Members} {chain : List Json}

/-! ## Chains that are guarded -/

/-- The item that sends a request to the gateway. -/
def Route.guardItem : Json := .object [("name", .string forwardAuth)]

theorem Route.countP_promote : (promote chain forwardAuth).countP (isNamed forwardAuth) = 1 := by
  have hothers : (chain.filter (!isNamed forwardAuth ·)).countP (isNamed forwardAuth) = 0 := by
    rw [List.countP_eq_zero]
    intro item hitem
    simpa using (List.mem_filter.mp hitem).2
  have hitem : isNamed forwardAuth guardItem = true := rfl
  rw [promote, ← guardItem, List.countP_cons_of_pos hitem, hothers]

/-- A guarded entry has a chain, and the middleware is the first of it. -/
theorem Route.isGuarded_iff : isGuarded entry = true ↔
    ∃ first rest, snapshot entry = .present (first :: rest) ∧ isNamed forwardAuth first = true := by
  rw [isGuarded]
  rcases snapshot entry with _ | _ | ⟨first, rest⟩
  · simp [Snapshot.chain]
  · simp [Snapshot.chain]
  · simp [Snapshot.chain]

/-- The session's route, which this name leads to as well, has this chain, with the gateway's middleware
first. -/
structure RouteTable.Secured (session name : String) (route : Json) (chain : List Json) (routes : RouteTable) :
    Prop where
  found : RouteTable.ofSession? routes session = some route
  named : RouteTable.find? routes name = some route
  entry : ∃ members, Route.firstRule? route = some (.object members) ∧
    Route.snapshot (.object members) = .present chain
  first : ∃ item rest, chain = item :: rest ∧ Route.isNamed forwardAuth item = true

theorem RouteTable.Secured.of_isGuarded (hroute : ofSession? routes session = some route)
    (hnamed : find? routes name = some route) (hentry : Route.firstRule? route = some (.object members))
    (hguarded : Route.isGuarded (.object members) = true) :
    ∃ item rest, Route.snapshot (.object members) = .present (item :: rest) ∧
      Secured session name route (item :: rest) routes := by
  obtain ⟨item, rest, hchain, hitem⟩ := Route.isGuarded_iff.mp hguarded
  exact ⟨item, rest, hchain, hroute, hnamed, ⟨members, hentry, hchain⟩, item, rest, rfl, hitem⟩

/-- The patch of an installation leaves the session's route in its place, guarded. -/
theorem RouteTable.Secured.of_guardPatch {target : Json} (hroute : ofSession? routes session = some route)
    (hnamed : find? routes name = some route)
    (happly : (RouteGuard.guardPatch entry).applyTo? route = some target) :
    Secured session name target (Route.promote (Route.snapshot entry).chain forwardAuth)
      (replaceFirst name target routes) := by
  have halter := Route.alter?_of_chainPatch happly
  obtain ⟨first, first', -, hset, hfirst'⟩ := Json.pointer?_alter? halter
  obtain ⟨-, members', rfl⟩ := Route.objects_of_withChain hset
  have hname := Route.name?_alter? halter
  refine ⟨ofSession?_replaceFirst hnamed hroute hname (Route.serves_alter? halter),
    find?_replaceFirst hnamed (hname.trans (name?_of_find? hnamed)),
    ⟨members', hfirst', Route.snapshot_withChain_present hset⟩, Route.guardItem, _, rfl, rfl⟩

/-! ## Installations -/

theorem RouteCall.kind_of_reads {step : Program.Step routeAccess} (h : reads step = true) :
    RouteCall.kind step.1 ≠ .patch := by
  obtain ⟨call, a⟩ := step
  cases call with
  | get ns name | list ns => exact RouteCall.Kind.noConfusion
  | patch ns name p => cases h

theorem RouteGuard.find_run (hfaults : desk.faults = []) :
    (RouteDesk.run (find ns session) desk).1 = .ok (RouteTable.ofSession? desk.routes session) := by
  obtain ⟨steps, hends, hserved, -⟩ := RouteDesk.run_served hfaults (find ns session)
  exact (find_served hends hserved).1

/-- One installation, on a route whose first entry is an object. -/
theorem RouteGuard.install_run (ns : String) (hfaults : desk.faults = [])
    (hroute : RouteTable.ofSession? desk.routes session = some route)
    (hnamed : RouteTable.find? desk.routes name = some route)
    (hentry : Route.firstRule? route = some (.object members)) :
    ∃ desk' sent, RouteDesk.run (install ns session) desk = (.ok ⟨!Route.isGuarded (.object members),
        some name, some (Route.snapshot (.object members))⟩, desk') ∧
      desk'.faults = [] ∧ desk'.calls = desk.calls ++ sent ∧
      (Route.isGuarded (.object members) = true ∧ desk'.routes = desk.routes ∧
          (∀ call ∈ sent, RouteCall.kind call ≠ .patch) ∨
        Route.isGuarded (.object members) = false ∧ ∃ route',
          (guardPatch (.object members)).applyTo? route = some route' ∧
            desk'.routes = RouteTable.replaceFirst name route' desk.routes) := by
  obtain ⟨steps, hends, hserved, hcalls, hafter⟩ :=
    RouteDesk.run_served hfaults (install ns session)
  rcases install_served hends hserved hroute hnamed hentry with
    ⟨hguarded, hresult, hroutes, hreads⟩ | ⟨hguarded, hresult, route', happly, hroutes⟩
  · refine ⟨_, _, Prod.ext (by rw [hresult, hguarded]; rfl) rfl, hafter, hcalls,
      .inl ⟨hguarded, hroutes, ?_⟩⟩
    intro call hcall
    obtain ⟨step, hstep, rfl⟩ := List.mem_map.mp hcall
    exact RouteCall.kind_of_reads (hreads step hstep)
  · exact ⟨_, _, Prod.ext (by rw [hresult, hguarded]; rfl) rfl, hafter, hcalls,
      .inr ⟨hguarded, route', happly, hroutes⟩⟩

/-- One more installation finds the route guarded. -/
theorem RouteTable.Secured.install (h : Secured session name route chain desk.routes)
    (hfaults : desk.faults = []) (ns : String) :
    ∃ desk', RouteDesk.run (RouteGuard.install ns session) desk =
        (.ok ⟨false, some name, some (.present chain)⟩, desk') ∧
      desk'.faults = [] ∧ desk'.routes = desk.routes := by
  obtain ⟨members, hentry, hchain⟩ := h.entry
  obtain ⟨item, rest, rfl, hitem⟩ := h.first
  have hguarded : Route.isGuarded (.object members) = true :=
    Route.isGuarded_iff.mpr ⟨item, rest, hchain, hitem⟩
  obtain ⟨desk', sent, hrun, hfaults', hcalls, hroutes⟩ :=
    RouteGuard.install_run ns hfaults h.found h.named hentry
  rw [hguarded, hchain] at hrun
  rcases hroutes with ⟨-, hroutes, -⟩ | ⟨hne, -⟩
  · exact ⟨desk', hrun, hfaults', hroutes⟩
  · cases hguarded.symm.trans hne

/-- The desk after so many installations. -/
def RouteDesk.installs (ns session : String) : Nat → RouteDesk → RouteDesk
  | 0, desk => desk
  | n + 1, desk => installs ns session n (run (RouteGuard.install ns session) desk).2

/-- However many installations follow, the routes stay. -/
theorem RouteTable.Secured.installs (h : Secured session name route chain desk.routes)
    (hfaults : desk.faults = []) (ns : String) (n : Nat) :
    (RouteDesk.installs ns session n desk).faults = [] ∧
      (RouteDesk.installs ns session n desk).routes = desk.routes := by
  induction n generalizing desk with
  | zero => exact ⟨hfaults, rfl⟩
  | succ n ih =>
    obtain ⟨desk', hrun, hfaults', hroutes⟩ := h.install hfaults ns
    rw [RouteDesk.installs, hrun, ← hroutes]
    exact ih (hroutes ▸ h) hfaults'

/-- An installation whose calls succeed reports the name of the session's route and the chain that it found.
Afterwards the gateway's middleware is first. If it was first before, nothing is patched; if not, the chain
is the middleware and then everything else in its order. Every further installation finds the same route,
reports no change and makes none. -/
theorem install_repeats (hfaults : desk.faults = []) (hnames : desk.routes.NamesUnique)
    (hfound : (RouteDesk.run (RouteGuard.find ns session) desk).1 = .ok (some route))
    (hname : Route.name? route = some name) (hentry : Route.firstRule? route = some (.object members)) :
    ∃ desk' sent route' front back first rest,
      RouteDesk.run (RouteGuard.install ns session) desk = (.ok ⟨!Route.isGuarded (.object members),
        some name, some (Route.snapshot (.object members))⟩, desk') ∧
      desk.routes = front ++ route :: back ∧ desk'.routes = front ++ route' :: back ∧
      desk'.calls = desk.calls ++ sent ∧
      RouteTable.chain? desk'.routes name = some (first :: rest) ∧ Route.isNamed forwardAuth first = true ∧
      (Route.isGuarded (.object members) = true →
        route' = route ∧ Route.snapshot (.object members) = .present (first :: rest) ∧
          ∀ call ∈ sent, RouteCall.kind call ≠ .patch) ∧
      (Route.isGuarded (.object members) = false →
        first = Route.guardItem ∧
          rest = (Route.snapshot (.object members)).chain.filter (!Route.isNamed forwardAuth ·) ∧
          (first :: rest).countP (Route.isNamed forwardAuth) = 1) ∧
      ∀ n, (RouteDesk.run (RouteGuard.find ns session) (RouteDesk.installs ns session n desk')).1 =
          .ok (some route') ∧ Route.name? route' = some name ∧
        ∃ desk'', RouteDesk.run (RouteGuard.install ns session) (RouteDesk.installs ns session n desk') =
            (.ok ⟨false, some name, some (.present (first :: rest))⟩, desk'') ∧
          desk''.routes = desk'.routes := by
  have hroute : RouteTable.ofSession? desk.routes session = some route :=
    Except.ok.inj ((RouteGuard.find_run hfaults).symm.trans hfound)
  have hnamed := RouteTable.find?_of_ofSession? hnames hroute hname
  obtain ⟨desk', sent, hrun, hfaults', hcalls, hdone⟩ :=
    RouteGuard.install_run ns hfaults hroute hnamed hentry
  obtain ⟨front, back, hsplit, hreplace⟩ := RouteTable.replaceFirst_eq hnamed
  -- in both cases the table is guarded afterwards, and then it stays
  obtain ⟨route', first, rest, hroutes, hguards, hsame, hchanged⟩ : ∃ route' first rest,
      desk'.routes = RouteTable.replaceFirst name route' desk.routes ∧
      RouteTable.Secured session name route' (first :: rest) desk'.routes ∧
      (Route.isGuarded (.object members) = true →
        route' = route ∧ Route.snapshot (.object members) = .present (first :: rest) ∧
          ∀ call ∈ sent, RouteCall.kind call ≠ .patch) ∧
      (Route.isGuarded (.object members) = false →
        first = Route.guardItem ∧
          rest = (Route.snapshot (.object members)).chain.filter (!Route.isNamed forwardAuth ·) ∧
          (first :: rest).countP (Route.isNamed forwardAuth) = 1) := by
    rcases hdone with ⟨hguarded, hroutes, hreads⟩ | ⟨hguarded, route', happly, hroutes⟩
    · obtain ⟨item, rest, hchain, hguards⟩ := RouteTable.Secured.of_isGuarded hroute hnamed hentry hguarded
      refine ⟨route, item, rest, ?_, hroutes ▸ hguards, fun _ => ⟨rfl, hchain, hreads⟩, ?_⟩
      · rw [hroutes, RouteTable.replaceFirst_of_find? hnamed]
      · intro hne
        cases hguarded.symm.trans hne
    · have hguards := RouteTable.Secured.of_guardPatch hroute hnamed happly
      refine ⟨route', _, _, hroutes, hroutes ▸ hguards, ?_, fun _ => ⟨rfl, rfl, Route.countP_promote⟩⟩
      intro hne
      cases hguarded.symm.trans hne
  obtain ⟨members', hentry', hchain'⟩ := hguards.entry
  obtain ⟨item, more, hfirst, hitem⟩ := hguards.first
  obtain ⟨rfl, rfl⟩ := List.cons.inj hfirst
  refine ⟨desk', sent, route', front, back, first, rest, hrun, hsplit, hroutes.trans (hreplace route'), hcalls,
    ?_, hitem, hsame, hchanged, ?_⟩
  · rw [RouteTable.chain?_of_find? hguards.named hentry', hchain']
    rfl
  · intro n
    obtain ⟨hfaultsLater, hroutesLater⟩ := hguards.installs hfaults' ns n
    have hlater := hguards
    rw [← hroutesLater] at hlater
    obtain ⟨desk'', hrun', -, hroutes'⟩ := hlater.install hfaultsLater ns
    refine ⟨?_, RouteTable.name?_of_find? hguards.named, desk'', hrun', hroutes'.trans hroutesLater⟩
    rw [RouteGuard.find_run hfaultsLater, hlater.found]

/-- The middleware stands in the chain twice, but not first. -/
def crowdedChain : List Json := [.string "limit", Route.guardItem, .object [("name", .null)], Route.guardItem]

def crowdedDesk : RouteDesk := ⟨[guardableRoute "abc" crowdedChain], [], [], []⟩

theorem install_repeats_crowded : ∃ desk' desk'' route,
    RouteDesk.run (RouteGuard.install "default" "abc") crowdedDesk =
      (.ok ⟨true, some (Session.ingressName "abc"), some (.present crowdedChain)⟩, desk') ∧
    RouteTable.chain? desk'.routes (Session.ingressName "abc") =
      some [Route.guardItem, .string "limit", .object [("name", .null)]] ∧
    (RouteDesk.run (RouteGuard.find "default" "abc") (RouteDesk.installs "default" "abc" 3 desk')).1 =
      .ok (some route) ∧
    RouteDesk.run (RouteGuard.install "default" "abc") (RouteDesk.installs "default" "abc" 3 desk') =
      (.ok ⟨false, some (Session.ingressName "abc"),
        some (.present [Route.guardItem, .string "limit", .object [("name", .null)]])⟩, desk'') ∧
    desk''.routes = desk'.routes := by
  have hfound : (RouteDesk.run (RouteGuard.find "default" "abc") crowdedDesk).1 =
      .ok (some (guardableRoute "abc" crowdedChain)) := by decide +kernel
  have hnames : crowdedDesk.routes.NamesUnique := by
    simp [crowdedDesk, RouteTable.NamesUnique, name?_guardableRoute]
  obtain ⟨desk', sent, route', front, back, first, rest, hrun, -, -, -, hchain, -, -, hchanged, hlater⟩ :=
    install_repeats rfl hnames hfound (name?_guardableRoute "abc" _) (firstRule?_guardableRoute "abc" _)
  obtain ⟨rfl, rfl, -⟩ := hchanged rfl
  obtain ⟨hagain, -, desk'', hrun', hroutes⟩ := hlater 3
  exact ⟨desk', desk'', route', hrun, hchain, hagain, hrun', hroutes⟩

end SessionGate.Intercept
