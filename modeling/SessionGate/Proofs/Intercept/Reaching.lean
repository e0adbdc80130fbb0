import SessionGate.Proofs.Intercept.Desk
import SessionGate.Proofs.Intercept.Restoration

/-! # A restoration reaches its snapshot

* `Route.Restored`: what a restoration makes of a route whose first entry is an object, whatever chain or
  other value somebody left there.
* `Route.Restored.again`: what it has made of a route it leaves as it is.
* `restore_reaches`: from any table, at a desk without faults.
-/
namespace SessionGate.Intercept
set_option autoImplicit false
open Json (Members)

namespace Route

variable {route route' entry : Json} {members : Members} {target : Snapshot} {chain : List Json}

/-! ## One route -/

/-- What a restoration makes of a route with this first entry. -/
def Restored (target : Snapshot) (entry route route' : Json) : Prop :=
  RouteGuard.restorePatch? target (snapshot entry) = none ∧ route' = route ∨
    ∃ patch, RouteGuard.restorePatch? target (snapshot entry) = some patch ∧
      patch.applyTo? route = some route'

theorem Restored.rechained (h : Restored target entry route route') : Rechained route route' := by
  rcases h with ⟨-, rfl⟩ | ⟨patch, hpatch, happly⟩
  · exact .inl rfl
  · exact .inr ⟨_, alter?_of_restorePatch hpatch happly⟩

/-- The entry shows the chain of the snapshot, and an array that the snapshot has none for is gone. -/
theorem Restored.shows (h : Restored target (.object members) route route')
    (hentry : firstRule? route = some (.object members)) (hmembers : members.Distinct) :
    ∃ members', firstRule? route' = some (.object members') ∧ snapshot (.object members') = target.normal ∧
      (target.normal = .absent → snapshot (.object members) ≠ .absent →
        (Json.object members').field? chainKey = none) := by
  rcases h with ⟨hpatch, rfl⟩ | ⟨patch, hpatch, happly⟩
  · obtain ⟨hnormal, habsent⟩ := restorePatch?_eq_none.mp hpatch
    exact ⟨members, hentry, habsent.trans hnormal.symm, fun _ hne => absurd habsent hne⟩
  · obtain ⟨first, entry', hfirst, hset, hentry'⟩ := Json.pointer?_alter? (alter?_of_restorePatch hpatch happly)
    obtain rfl := Option.some.inj (hentry.symm.trans hfirst)
    obtain ⟨-, members', rfl⟩ := objects_of_withChain hset
    refine ⟨members', hentry', snapshot_withChain hmembers hset, fun hnormal _ => ?_⟩
    rw [hnormal] at hset
    exact field?_withChain_absent hmembers hset

theorem isPlain_of_snapshot (h : snapshot entry = .present chain) : isPlain entry = true := by
  have hfield := field?_of_snapshot h
  cases entry with
  | object members =>
    have hmember : Members.get? members chainKey = some (.array chain) := hfield
    rw [isPlain, hmember]
  | _ => cases hfield

/-- A route that shows the chain of the snapshot stays as it is. -/
theorem Restored.again (h : Restored target entry route route') (hentry : firstRule? route = some entry)
    (hchain : snapshot entry = target.normal) : route' = route := by
  rcases h with ⟨-, rfl⟩ | ⟨patch, hpatch, happly⟩
  · rfl
  · have halter := alter?_of_restorePatch hpatch happly
    cases hn : target.normal with
    | absent =>
      rw [restorePatch?_eq_none.mpr ⟨hn, hchain.trans hn⟩] at hpatch
      cases hpatch
    | present chain =>
      have hplain := isPlain_of_snapshot (hchain.trans hn)
      rw [← hchain, Json.alter?_of_fixed hentry (withChain_snapshot hplain)] at halter
      exact (Option.some.inj halter).symm

/-- The name of a route is beside its chain. -/
theorem Rechained.name? (h : Rechained route route') : Route.name? route' = Route.name? route := by
  rcases h with rfl | ⟨target, halter⟩
  · rfl
  · exact name?_alter? halter

end Route

/-! ## Whole tables -/

variable {desk : RouteDesk} {name : String} {route : Json} {members : Members}

/-- One restoration of a route whose first entry is an object. -/
theorem RouteGuard.restore_run (ns : String) (snapshot : Route.Snapshot) (hfaults : desk.faults = [])
    (hroute : RouteTable.find? desk.routes name = some route)
    (hentry : Route.firstRule? route = some (.object members)) :
    ∃ desk' route' sent, RouteDesk.run (restore ns name snapshot) desk = (.ok (), desk') ∧
      desk'.faults = [] ∧ desk'.routes = RouteTable.replaceFirst name route' desk.routes ∧
      desk'.calls = desk.calls ++ sent ∧ Route.Restored snapshot (.object members) route route' ∧
      ∀ ns' name' patch, .patch ns' name' patch ∈ sent → patch.applyTo? route = some route' := by
  obtain ⟨steps, hends, hserved, hcalls, hafter⟩ :=
    RouteDesk.run_served hfaults (restore ns name snapshot)
  obtain ⟨hresult, route', hroutes, hrestored⟩ := restore_served hends hserved hroute hentry
  refine ⟨_, route', _, Prod.ext hresult rfl, hafter, hroutes, hcalls, ?_⟩
  rcases hrestored with ⟨hpatch, rfl, hsent⟩ | ⟨patch, hpatch, happly, hsent⟩
  · refine ⟨.inl ⟨hpatch, rfl⟩, ?_⟩
    intro ns' name' patch hmem
    rw [hsent] at hmem
    cases List.mem_singleton.mp hmem
  · refine ⟨.inr ⟨patch, hpatch, happly⟩, ?_⟩
    intro ns' name' patch' hmem
    rw [hsent] at hmem
    rcases List.mem_cons.mp hmem with hget | hmem
    · cases hget
    · cases List.mem_singleton.mp hmem
      exact happly

/-- A restoration whose calls succeed leaves a table alone in which the route, or its first entry, is gone.
If the entry is an object, whatever its chain has become, the entry shows the snapshot afterwards, an empty
chain as an absent one, and nothing beside the chain has changed. What it sends applies to the route that
it was made from, and a second restoration changes nothing. -/
theorem restore_reaches (hfaults : desk.faults = []) (ns name : String) (snapshot : Route.Snapshot) :
    ((RouteTable.find? desk.routes name).bind Route.firstRule? = none →
      ∃ desk', RouteDesk.run (RouteGuard.restore ns name snapshot) desk = (.ok (), desk') ∧
        desk'.routes = desk.routes) ∧
    ∀ route members, RouteTable.find? desk.routes name = some route →
      Route.firstRule? route = some (.object members) → Members.Distinct members →
      ∃ desk' route' entry' sent front back,
        RouteDesk.run (RouteGuard.restore ns name snapshot) desk = (.ok (), desk') ∧
        desk.routes = front ++ route :: back ∧ desk'.routes = front ++ route' :: back ∧
        Route.firstRule? route' = some entry' ∧ Route.snapshot entry' = snapshot.normal ∧
        (snapshot.normal = .absent → Route.snapshot (.object members) ≠ .absent →
          entry'.field? Route.chainKey = none) ∧
        Route.Rechained route route' ∧
        (∀ place, ¬ Route.chainPath <+: place → ¬ place <+: Route.chainPath →
          route'.pointer? place = route.pointer? place) ∧
        desk'.calls = desk.calls ++ sent ∧
        (∀ ns' name' patch, .patch ns' name' patch ∈ sent → patch.applyTo? route = some route') ∧
        ∃ desk'', RouteDesk.run (RouteGuard.restore ns name snapshot) desk' = (.ok (), desk'') ∧
          desk''.routes = desk'.routes := by
  constructor
  · intro hnone
    obtain ⟨steps, hends, hserved, -⟩ := RouteDesk.run_served hfaults (RouteGuard.restore ns name snapshot)
    obtain ⟨hresult, hroutes⟩ := RouteGuard.restore_served_none hends hserved hnone
    exact ⟨_, Prod.ext hresult rfl, hroutes⟩
  · intro route members hroute hentry hmembers
    obtain ⟨desk', route', sent, hrun, hfaults', hroutes, hcalls, hrestored, hsent⟩ :=
      RouteGuard.restore_run ns snapshot hfaults hroute hentry
    obtain ⟨front, back, hsplit, hreplace⟩ := RouteTable.replaceFirst_eq hroute
    obtain ⟨members', hentry', hshown, hgone⟩ := hrestored.shows hentry hmembers
    refine ⟨desk', route', _, sent, front, back, hrun, hsplit, hroutes.trans (hreplace route'), hentry', hshown,
      hgone, hrestored.rechained, fun _ => hrestored.rechained.pointer?_beside, hcalls, hsent, ?_⟩
    -- the second restoration finds what the first one has left, under the same name
    have hname : Route.name? route' = some name :=
      hrestored.rechained.name?.trans (RouteTable.name?_of_find? hroute)
    have hroute' : RouteTable.find? desk'.routes name = some route' := by
      rw [hroutes]
      exact RouteTable.find?_replaceFirst hroute hname
    obtain ⟨desk'', route'', -, hrun', -, hroutes', -, hagain, -⟩ :=
      RouteGuard.restore_run ns snapshot hfaults' hroute' hentry'
    refine ⟨desk'', hrun', ?_⟩
    rw [hroutes', hagain.again hentry' hshown, RouteTable.replaceFirst_of_find? hroute']

/-- A desk whose route has something else in the place of its chain, beside another field. -/
def strangeMembers : Members := [("kind", .string "Rule"), ("middlewares", .string "limit")]

def strangeRoute : Json :=
  .object [("metadata", .object [("name", .string "gate")]),
    ("spec", .object [("routes", .array [.object strangeMembers])])]

def strangeDesk : RouteDesk := ⟨[strangeRoute], [], [], []⟩

/-- A chain is put into the place of something else, and a route that is not there is left alone. -/
theorem restore_reaches_strange :
    (∃ desk', RouteDesk.run (RouteGuard.restore "default" "other" .absent) strangeDesk = (.ok (), desk') ∧
      desk'.routes = strangeDesk.routes) ∧
    ∃ desk' route' entry',
      RouteDesk.run (RouteGuard.restore "default" "gate" (.present [.string "audit"])) strangeDesk =
        (.ok (), desk') ∧
      desk'.routes = [route'] ∧ Route.firstRule? route' = some entry' ∧
      Route.snapshot entry' = .present [.string "audit"] := by
  refine ⟨(restore_reaches rfl "default" "other" .absent).1 (by decide +kernel), ?_⟩
  obtain ⟨desk', route', entry', sent, front, back, hrun, hsplit, hroutes, hentry', hshown, -⟩ :=
    (restore_reaches rfl "default" "gate" (.present [.string "audit"])).2 strangeRoute strangeMembers
      (by decide +kernel : RouteTable.find? strangeDesk.routes "gate" = some strangeRoute) (by decide +kernel)
      (by unfold Members.Distinct; decide +kernel)
  refine ⟨desk', route', entry', hrun, ?_, hentry', hshown⟩
  -- one route, so nothing stands before it or behind it
  have hlength := congrArg List.length hsplit
  have hone : strangeDesk.routes.length = 1 := rfl
  rw [hone, List.length_append, List.length_cons] at hlength
  obtain rfl := List.length_eq_zero_iff.mp (by omega : front.length = 0)
  obtain rfl := List.length_eq_zero_iff.mp (by omega : back.length = 0)
  exact hroutes

end SessionGate.Intercept
