import SessionGate.Proofs.Intercept.Applying

/-! # Operations at a desk without faults

* `RouteTable.Serves`: the table itself answers a call. `Serves.takes` is the link to a store that may
  also fail.
* `RouteDesk.run_served`: a run at a desk without faults has a history that the table serves, and the desk
  has recorded its calls.
* `find_served`, `install_served`, `restore_served`: what the three operations come to.
-/
namespace SessionGate.Intercept
set_option autoImplicit false
open Cluster (Error)
open Json (Members)
open Program (Step Along)

namespace RouteTable

variable {routes routes' : RouteTable} {ns name : String} {step : Step routeAccess}

/-! ## Calls -/

/-- The table answers the call. -/
def Serves (routes : RouteTable) (step : Step routeAccess) (routes' : RouteTable) : Prop :=
  answer step.1 routes = (step.2, routes')

theorem Serves.takes (h : Serves routes step routes') : Takes routes step routes' := by
  obtain ⟨call, a⟩ := step
  have htakes := Takes.answered call routes
  rwa [show answer call routes = (a, routes') from h] at htakes

theorem serves_get {a : Except Error (Option Json)} (h : Serves routes ⟨.get ns name, a⟩ routes') :
    a = .ok (find? routes name) ∧ routes' = routes := by
  obtain ⟨ha, hroutes⟩ := Prod.mk.inj h
  exact ⟨ha.symm, hroutes.symm⟩

theorem serves_list {a : Except Error (List Json)} (h : Serves routes ⟨.list ns, a⟩ routes') :
    a = .ok routes ∧ routes' = routes := by
  obtain ⟨ha, hroutes⟩ := Prod.mk.inj h
  exact ⟨ha.symm, hroutes.symm⟩

/-- A patch that applies is reported to do so. -/
theorem serves_patch {p : Json.Patch} {a : Except Error Unit} {route route' : Json}
    (h : Serves routes ⟨.patch ns name p, a⟩ routes') (hroute : find? routes name = some route)
    (happly : p.applyTo? route = some route') : a = .ok () ∧ routes' = replaceFirst name route' routes := by
  have hpatch : patch routes name p = .ok (replaceFirst name route' routes) := by
    rw [patch, hroute]
    dsimp only
    rw [happly]
  have hanswer : answer (.patch ns name p) routes = (.ok (), replaceFirst name route' routes) := by
    rw [answer, hpatch]
  obtain ⟨ha, hroutes⟩ := Prod.mk.inj (hanswer.symm.trans h)
  exact ⟨ha.symm, hroutes.symm⟩

end RouteTable

namespace RouteDesk

/-! ## Runs -/

/-- The calls of a history. -/
def received (steps : List (Step routeAccess)) : List RouteCall := steps.map (·.1)

theorem answer_served {desk : RouteDesk} (hfaults : desk.faults = []) (call : RouteCall) :
    answer call desk = ((RouteTable.answer call desk.routes).1,
      { desk with routes := (RouteTable.answer call desk.routes).2, calls := desk.calls ++ [call] }) := by
  simp only [answer, hfaults, Fault.find?, List.find?_nil, Option.map_none]

theorem run_served {α : Type} {desk : RouteDesk} (hfaults : desk.faults = []) (p : Program routeAccess α) :
    ∃ steps, p.Ends steps (run p desk).1 ∧
      Along RouteTable.Serves desk.routes steps (run p desk).2.routes ∧
      (run p desk).2.calls = desk.calls ++ received steps ∧ (run p desk).2.faults = [] := by
  induction p generalizing desk with
  | done result => exact ⟨[], ⟨rfl, rfl⟩, .nil _, (List.append_nil _).symm, hfaults⟩
  | note event next ih =>
    have hnoted : (note event desk).faults = [] := hfaults
    exact ih hnoted
  | ask query next ih =>
    have hanswer := answer_served hfaults query
    have hafter : (answer query desk).2.faults = [] := by
      rw [hanswer]
      exact hfaults
    obtain ⟨steps, hends, halong, hcalls, hrest⟩ := ih (answer query desk).1 hafter
    refine ⟨⟨query, (answer query desk).1⟩ :: steps, ⟨_, steps, rfl, hends⟩, .cons ?_ halong, ?_, hrest⟩
    · rw [hanswer]
      rfl
    · have hcall : (answer query desk).2.calls = desk.calls ++ ([query] : List RouteCall) := by rw [hanswer]
      rw [hcall, List.append_assoc] at hcalls
      exact hcalls

end RouteDesk

namespace RouteGuard

variable {ns session name : String} {steps : List (Step routeAccess)} {routes routes' : RouteTable}
  {route : Json} {members : Members} {snapshot : Route.Snapshot}

/-! ## Operations -/

theorem find_served {r : Except Error (Option Json)} (hends : (find ns session).Ends steps r)
    (hserved : Along RouteTable.Serves routes steps routes') :
    r = .ok (RouteTable.ofSession? routes session) ∧ routes' = routes := by
  rcases find_ends hends with ⟨e, rfl, rfl⟩ | ⟨found, rfl, rfl⟩ | ⟨e, rfl, rfl⟩ | ⟨listed, rfl, rfl⟩
  · obtain ⟨u, hget, -⟩ := Program.along_cons.mp hserved
    cases (RouteTable.serves_get hget).1
  · obtain ⟨u, hget, hrest⟩ := Program.along_cons.mp hserved
    obtain rfl := Program.along_nil.mp hrest
    obtain ⟨ha, hroutes⟩ := RouteTable.serves_get hget
    refine ⟨?_, hroutes⟩
    rw [RouteTable.ofSession?, ← Except.ok.inj ha, Option.some_or]
  · obtain ⟨u, hget, hrest⟩ := Program.along_cons.mp hserved
    obtain ⟨v, hlist, -⟩ := Program.along_cons.mp hrest
    cases (RouteTable.serves_list hlist).1
  · obtain ⟨u, hget, hrest⟩ := Program.along_cons.mp hserved
    obtain ⟨v, hlist, hrest⟩ := Program.along_cons.mp hrest
    obtain rfl := Program.along_nil.mp hrest
    obtain ⟨ha, rfl⟩ := RouteTable.serves_get hget
    obtain ⟨hb, hroutes⟩ := RouteTable.serves_list hlist
    refine ⟨?_, hroutes⟩
    rw [RouteTable.ofSession?, ← Except.ok.inj ha, Option.none_or, Except.ok.inj hb]

/-- An installation leaves a route alone that is guarded, and guards any other one. -/
theorem install_served {r : Except Error Guarded} (hends : (install ns session).Ends steps r)
    (hserved : Along RouteTable.Serves routes steps routes')
    (hroute : RouteTable.ofSession? routes session = some route)
    (hfound : RouteTable.find? routes name = some route)
    (hentry : Route.firstRule? route = some (.object members)) :
    (Route.isGuarded (.object members) = true ∧
        r = .ok ⟨false, some name, some (Route.snapshot (.object members))⟩ ∧ routes' = routes ∧
        ∀ step ∈ steps, reads step = true) ∨
      Route.isGuarded (.object members) = false ∧
        r = .ok ⟨true, some name, some (Route.snapshot (.object members))⟩ ∧
        ∃ route', (guardPatch (.object members)).applyTo? route = some route' ∧
          routes' = RouteTable.replaceFirst name route' routes := by
  obtain ⟨found, asked, rest, hfind, rfl, h⟩ := install_ends hends
  obtain ⟨middle, hasked, hrest⟩ := Program.along_append.mp hserved
  obtain ⟨ha, rfl⟩ := find_served hfind hasked
  rw [hroute] at ha
  rcases h with ⟨e, rfl, -⟩ | ⟨rfl, -⟩ | ⟨found, rfl, hguards⟩
  · cases ha
  · cases ha
  · obtain rfl := Option.some.inj (Except.ok.inj ha)
    -- the patch is made from the entry that it meets
    have happlies := Route.exists_chainPatch hentry
      (Route.promote (Route.snapshot (.object members)).chain forwardAuth)
    have hname := RouteTable.name?_of_find? hfound
    cases hguards with
    | nameless hname' => cases hname'.symm.trans hname
    | noEntry hname' hentry' => cases hentry'.symm.trans hentry
    | already hname' hentry' hfirst =>
      obtain rfl := Option.some.inj (hname'.symm.trans hname)
      obtain rfl := Option.some.inj (hentry'.symm.trans hentry)
      refine .inl ⟨hfirst, rfl, Program.along_nil.mp hrest, ?_⟩
      rw [List.append_nil]
      exact reads_of_find_ends hfind
    | patched hname' hentry' hfirst =>
      obtain rfl := Option.some.inj (hname'.symm.trans hname)
      obtain rfl := Option.some.inj (hentry'.symm.trans hentry)
      obtain ⟨after, hpatch, hnil⟩ := Program.along_cons.mp hrest
      obtain rfl := Program.along_nil.mp hnil
      obtain ⟨route', happly⟩ := happlies
      exact .inr ⟨hfirst, rfl, route', happly, (RouteTable.serves_patch hpatch hfound happly).2⟩
    | refused hname' hentry' hfirst =>
      obtain rfl := Option.some.inj (hname'.symm.trans hname)
      obtain rfl := Option.some.inj (hentry'.symm.trans hentry)
      obtain ⟨after, hpatch, -⟩ := Program.along_cons.mp hrest
      obtain ⟨route', happly⟩ := happlies
      cases (RouteTable.serves_patch hpatch hfound happly).1

/-- Where there is no entry, a restoration has nothing to do. -/
theorem restore_served_none {r : Except Error Unit} (hends : (restore ns name snapshot).Ends steps r)
    (hserved : Along RouteTable.Serves routes steps routes')
    (hnone : (RouteTable.find? routes name).bind Route.firstRule? = none) : r = .ok () ∧ routes' = routes := by
  obtain ⟨answer, rest, rfl, h⟩ := restore_ends hends
  obtain ⟨middle, hget, hrest⟩ := Program.along_cons.mp hserved
  obtain ⟨ha, rfl⟩ := RouteTable.serves_get hget
  rcases h with ⟨e, rfl, -⟩ | ⟨-, rfl, rfl⟩ | ⟨route, rfl, h⟩
  · cases ha
  · exact ⟨rfl, Program.along_nil.mp hrest⟩
  · rw [← Except.ok.inj ha, Option.bind_some] at hnone
    rcases h with ⟨-, rfl, rfl⟩ | ⟨entry, hentry, -⟩
    · exact ⟨rfl, Program.along_nil.mp hrest⟩
    · cases hnone.symm.trans hentry

/-- Where the entry is an object, a restoration does what its patch says. -/
theorem restore_served {r : Except Error Unit} (hends : (restore ns name snapshot).Ends steps r)
    (hserved : Along RouteTable.Serves routes steps routes')
    (hroute : RouteTable.find? routes name = some route)
    (hentry : Route.firstRule? route = some (.object members)) : r = .ok () ∧
      ∃ route', routes' = RouteTable.replaceFirst name route' routes ∧
        (restorePatch? snapshot (Route.snapshot (.object members)) = none ∧ route' = route ∧
            RouteDesk.received steps = [.get ns name] ∨
          ∃ patch, restorePatch? snapshot (Route.snapshot (.object members)) = some patch ∧
            patch.applyTo? route = some route' ∧
            RouteDesk.received steps = [.get ns name, .patch ns name patch]) := by
  obtain ⟨answer, rest, rfl, h⟩ := restore_ends hends
  obtain ⟨middle, hget, hrest⟩ := Program.along_cons.mp hserved
  obtain ⟨ha, rfl⟩ := RouteTable.serves_get hget
  rw [hroute] at ha
  rcases h with ⟨e, rfl, -⟩ | ⟨rfl, -⟩ | ⟨found, rfl, h⟩
  · cases ha
  · cases ha
  · obtain rfl := Option.some.inj (Except.ok.inj ha)
    rcases h with ⟨hnone, -⟩ | ⟨entry, hentry', h⟩
    · cases hnone.symm.trans hentry
    · obtain rfl := Option.some.inj (hentry'.symm.trans hentry)
      rcases h with ⟨hpatch, rfl, rfl⟩ | ⟨patch, hpatch, rfl⟩
      · refine ⟨rfl, found, ?_, .inl ⟨hpatch, rfl, rfl⟩⟩
        rw [RouteTable.replaceFirst_of_find? hroute]
        exact Program.along_nil.mp hrest
      · obtain ⟨after, hstep, hnil⟩ := Program.along_cons.mp hrest
        obtain rfl := Program.along_nil.mp hnil
        obtain ⟨route', happly⟩ := Route.exists_restorePatch hentry hpatch
        obtain ⟨rfl, hroutes⟩ := RouteTable.serves_patch hstep hroute happly
        exact ⟨rfl, route', hroutes, .inr ⟨patch, hpatch, happly, rfl⟩⟩

end RouteGuard
end SessionGate.Intercept
