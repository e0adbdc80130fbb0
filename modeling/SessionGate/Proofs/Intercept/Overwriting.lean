import SessionGate.Proofs.Intercept.LostAnswer

/-! # Writes between the read and the patch of an installation

* `Visit`: a call of the store, with the routes that it met and the routes that it left. From one call to
  the next anybody may have written anything.
* `RouteTable.chain?`: the chain of a route; `Route.others` leaves the gateway's middleware out of it.
* `RouteGuard.install_overwrites`: a patch that succeeds leaves the chain that was read, with the
  middleware in front, whatever chain it met. What it met is kept exactly if it had been read.
-/
namespace SessionGate.Intercept
set_option autoImplicit false
open Cluster (Error)
open Program (Step)

variable {ns session name : String} {before after : RouteTable} {route target entry : Json}

/-! ## Chains -/

/-- A chain without the gateway's middleware. -/
def Route.others (chain : List Json) : List Json := chain.filter (!isNamed forwardAuth ·)

/-- The chain of the first entry of the route of this name. -/
def RouteTable.chain? (routes : RouteTable) (name : String) : Option (List Json) :=
  ((RouteTable.find? routes name).bind Route.firstRule?).map fun entry => (Route.snapshot entry).chain

/-- The middleware in front is none of the others. -/
theorem Route.others_sublist_promote {chain chain' : List Json} :
    (others chain).Sublist (promote chain' forwardAuth) ↔ (others chain).Sublist (others chain') := by
  constructor
  · intro h
    rcases List.sublist_cons_iff.mp h with hothers | ⟨rest, hcons, -⟩
    · exact hothers
    · have hmem : .object [("name", .string forwardAuth)] ∈ others chain := by
        rw [hcons]
        exact List.mem_cons_self
      cases (List.mem_filter.mp hmem).2
  · exact fun h => h.cons _

theorem RouteTable.chain?_of_find? (hfind : find? before name = some route)
    (hentry : Route.firstRule? route = some entry) :
    chain? before name = some (Route.snapshot entry).chain := by
  rw [chain?, hfind, Option.bind_some, hentry]
  rfl

/-- A patch that guards a chain leaves that chain, guarded, in the place of the one that it meets. -/
theorem RouteTable.chain?_of_guardPatch (hfind : find? before name = some route)
    (hpatch : (RouteGuard.guardPatch entry).applyTo? route = some target) :
    (∃ chain, chain? before name = some chain) ∧ chain? (replaceFirst name target before) name =
      some (Route.promote (Route.snapshot entry).chain forwardAuth) := by
  have halter := Route.alter?_of_chainPatch hpatch
  obtain ⟨met, changed, hmet, hset, hchanged⟩ := Json.pointer?_alter? halter
  have hname : Route.name? target = some name := (Route.name?_alter? halter).trans (name?_of_find? hfind)
  refine ⟨⟨_, chain?_of_find? hfind hmet⟩, ?_⟩
  rw [chain?_of_find? (find?_replaceFirst hfind hname) hchanged, Route.snapshot_withChain_present hset]
  rfl

/-! ## Calls that others write between -/

/-- A call, with the routes that it met and left. -/
structure Visit where
  before : RouteTable
  step : Step routeAccess
  after : RouteTable

/-- The store answers the call, or loses it or its answer. -/
def Visit.Valid (visit : Visit) : Prop := Meets visit.before visit.step visit.after

variable {visits : List Visit} {visit write : Visit}

theorem Visit.Valid.takes (h : visit.Valid) (hread : reads visit.step = true) :
    RouteTable.Takes visit.before visit.step visit.after := Meets.takes_of_reads h hread

/-- A patch that reports success has guarded the chain that it was made for. -/
theorem Visit.Valid.guards (h : visit.Valid)
    (hpatch : visit.step = ⟨.patch ns name (RouteGuard.guardPatch entry), .ok ()⟩) :
    (∃ chain, RouteTable.chain? visit.before name = some chain) ∧
      RouteTable.chain? visit.after name =
        some (Route.promote (Route.snapshot entry).chain forwardAuth) := by
  obtain ⟨before, step, after⟩ := visit
  subst hpatch
  cases h with
  | takes htakes =>
    obtain ⟨e, he, -⟩ | ⟨-, route, target, hfind, happly, hafter⟩ := RouteTable.takes_patch htakes
    · cases he
    · dsimp only at hafter ⊢
      rw [hafter]
      exact RouteTable.chain?_of_guardPatch hfind happly

/-- The route that a look-up comes to was there when its last call was made. -/
theorem RouteGuard.find_visits (hends : (find ns session).Ends (visits.map (·.step)) (.ok (some route)))
    (hvalid : ∀ visit ∈ visits, visit.Valid) :
    ∃ past read, visits = past ++ [read] ∧ route ∈ read.before := by
  rcases find_ends hends with ⟨e, -, he⟩ | ⟨x, hsteps, hx⟩ | ⟨e, -, he⟩ | ⟨listed, hsteps, hlisted⟩
  · cases he
  · obtain ⟨⟨before, step, after⟩, rfl, rfl⟩ := List.map_eq_singleton_iff.mp hsteps
    obtain rfl := Option.some.inj (Except.ok.inj hx)
    refine ⟨[], _, rfl, ?_⟩
    obtain ⟨-, ha | ⟨e, he⟩⟩ := RouteTable.takes_get ((List.forall_mem_singleton.mp hvalid).takes rfl)
    · exact RouteTable.mem_of_find? (Except.ok.inj ha).symm
    · cases he
  · cases he
  · obtain ⟨get, rest, rfl, -, hrest⟩ := List.map_eq_cons_iff.mp hsteps
    obtain ⟨⟨before, step, after⟩, rfl, rfl⟩ := List.map_eq_singleton_iff.mp hrest
    refine ⟨[get], _, rfl, ?_⟩
    have hlist := (List.forall_mem_cons.mp hvalid).2
    obtain ⟨-, ha | ⟨e, he⟩⟩ := RouteTable.takes_list ((List.forall_mem_singleton.mp hlist).takes rfl)
    · obtain rfl := Except.ok.inj ha
      exact List.mem_of_find?_eq_some (Except.ok.inj hlisted).symm
    · cases he

/-! ## What a patch leaves -/

/-- Whatever is written between the calls of an installation, its patch is its last call, and the first that
writes. If it succeeds, it leaves the chain that the call before it has read, with the middleware in front:
what it meets is kept, in its order, exactly if it was in the chain that was read, in that order. If it
fails without an effect, the installation fails and leaves the routes alone. -/
theorem RouteGuard.install_overwrites {found : Except Error Guarded} {patchNs : String} {p : Json.Patch}
    {reported : Except Error Unit} (hends : (install ns session).Ends (visits.map (·.step)) found)
    (hvalid : ∀ visit ∈ visits, visit.Valid) (hwrite : write ∈ visits)
    (hpatch : write.step = ⟨.patch patchNs name p, reported⟩) :
    ∃ past read route entry, visits = past ++ [read, write] ∧
      (∀ visit ∈ past ++ [read], visit.after = visit.before) ∧
      route ∈ read.before ∧ Route.name? route = some name ∧ Route.firstRule? route = some entry ∧
      ((found = .ok ⟨true, some name, some (Route.snapshot entry)⟩ ∧
          ∃ chain, RouteTable.chain? write.before name = some chain ∧
            RouteTable.chain? write.after name =
              some (Route.promote (Route.snapshot entry).chain forwardAuth) ∧
            ((Route.others chain).Sublist (Route.promote (Route.snapshot entry).chain forwardAuth) ↔
              (Route.others chain).Sublist (Route.others (Route.snapshot entry).chain))) ∨
        ∃ e, found = .error e ∧ reported = .error e ∧
          (RouteTable.Takes write.before write.step write.after → write.after = write.before)) := by
  have hmem : ⟨.patch patchNs name p, reported⟩ ∈ visits.map (·.step) := by
    rw [← hpatch]
    exact List.mem_map_of_mem hwrite
  obtain ⟨asked, route, entry, hfind, hsteps, hname, hentry, -, rfl, hreported⟩ := install_writes hends hmem
  obtain ⟨before, last, rfl, rfl, hlast⟩ := List.map_eq_append_iff.mp hsteps
  obtain ⟨write', rfl, -⟩ := List.map_eq_singleton_iff.mp hlast
  obtain ⟨hbefore, hlast⟩ := List.forall_mem_append.mp hvalid
  have hreads : ∀ visit ∈ before, reads visit.step = true :=
    fun visit hvisit => reads_of_find_ends hfind _ (List.mem_map_of_mem hvisit)
  -- the look-up does not write, so the patch comes after it
  obtain rfl : write = write' := by
    rcases List.mem_append.mp hwrite with hmem | hmem
    · have hread := hreads write hmem
      rw [hpatch] at hread
      cases hread
    · exact List.mem_singleton.mp hmem
  have hmeets := List.forall_mem_singleton.mp hlast
  obtain ⟨past, read, rfl, hroute⟩ := find_visits hfind hbefore
  refine ⟨past, read, route, entry, by simp, ?_, hroute, hname, hentry, ?_⟩
  · intro visit hvisit
    have hread := hreads visit hvisit
    exact RouteTable.takes_read ((hbefore visit hvisit).takes hread) hread
  rcases hreported with ⟨rfl, rfl⟩ | ⟨e, rfl, rfl⟩
  · left
    obtain ⟨⟨chain, hchain⟩, hleft⟩ := hmeets.guards hpatch
    exact ⟨rfl, chain, hchain, hleft, Route.others_sublist_promote⟩
  · right
    refine ⟨e, rfl, rfl, fun htakes => ?_⟩
    rw [hpatch] at htakes
    obtain ⟨-, -, hsame⟩ | ⟨he, -⟩ := RouteTable.takes_patch htakes
    · exact hsame
    · cases he

/-- While the route with one middleware is guarded, somebody else adds an item to its chain. -/
def editedTable (added : Json) : RouteTable := [guardableRoute "abc" [.string "limit", added]]

def editedVisits (added : Json) : List Visit :=
  [⟨limitedTable false, limitedRead false, limitedTable false⟩,
    ⟨editedTable added, limitedWrite true (.ok ()), limitedTable true⟩]

theorem editedVisits_valid (added : Json) : ∀ visit ∈ editedVisits added, visit.Valid := by
  have hwrite := patch_guardableRoute "abc" [.string "limit", added] (limitedChain true) []
  refine List.forall_mem_cons.mpr ⟨Meets.takes (takes_limitedRead false), ?_⟩
  exact List.forall_mem_singleton.mpr (Meets.takes (RouteTable.Takes.patch hwrite))

theorem chain?_guardableRoute (chain : List Json) :
    RouteTable.chain? [guardableRoute "abc" chain] (Session.ingressName "abc") = some chain :=
  RouteTable.chain?_of_find? (find?_guardableRoute "abc" chain []) (firstRule?_guardableRoute "abc" chain)

/-- Somebody else adds the gateway's middleware at the end: the rest of the chain had been read. -/
theorem install_overwrites_guarded :
    ∃ chain, RouteTable.chain? (editedTable (.object [("name", .string forwardAuth)]))
        (Session.ingressName "abc") = some chain ∧
      (Route.others chain).Sublist (Route.promote (limitedChain false) forwardAuth) := by
  obtain ⟨past, read, route, entry, hvisits, -, -, -, -, h⟩ :=
    RouteGuard.install_overwrites install_limited (editedVisits_valid (.object [("name", .string forwardAuth)]))
      (List.mem_cons_of_mem _ List.mem_cons_self) rfl
  rcases h with ⟨hfound, chain, hchain, hleft, hkept⟩ | ⟨e, he, -⟩
  · have hread := Option.some.inj (Guarded.mk.inj (Except.ok.inj hfound)).2.2
    rw [← hread] at hkept
    obtain rfl := Option.some.inj ((chain?_guardableRoute _).symm.trans hchain)
    exact ⟨_, hchain, hkept.mpr (by decide +kernel)⟩
  · cases he

/-- Somebody else adds another middleware: the installation reports success, and the middleware is gone. -/
theorem edit_between_is_lost :
    ∃ (visits : List Visit) (write : Visit) (found : Guarded) (chain chain' : List Json),
    (RouteGuard.install "default" "abc").Ends (visits.map (·.step)) (.ok found) ∧ found.changed = true ∧
      (∀ visit ∈ visits, visit.Valid) ∧
      visits = [⟨limitedTable false, limitedRead false, limitedTable false⟩, write] ∧
      RouteTable.patch (limitedTable false) (Session.ingressName "abc")
        [.replace Route.chainPath (.array [.string "limit", .string "audit"])] = .ok write.before ∧
      RouteTable.chain? write.before (Session.ingressName "abc") = some chain ∧
      RouteTable.chain? write.after (Session.ingressName "abc") = some chain' ∧
      .string "audit" ∈ Route.others chain ∧ .string "audit" ∉ chain' := by
  refine ⟨editedVisits (.string "audit"), _, _, _, _, install_limited, rfl, editedVisits_valid _, rfl,
    patch_guardableRoute "abc" _ _ [], chain?_guardableRoute _, chain?_guardableRoute _, ?_, ?_⟩
  · decide +kernel
  · decide +kernel

end SessionGate.Intercept
