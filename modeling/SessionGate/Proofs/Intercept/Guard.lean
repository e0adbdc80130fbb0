import SessionGate.Proofs.Intercept.Table

/-! # What an installation and a restoration ask, and what becomes of the routes

`find_ends`, `install_ends` and `restore_ends` list every way through the three operations, whatever
the store answers. `find_takes`, `install_takes` and `restore_takes` say what a table of routes is
afterwards when nobody else writes it. -/
namespace SessionGate.Intercept
set_option autoImplicit false
open Cluster (Error)
open Program (Step Along)

/-- The call reported a failure. -/
def refused : Step routeAccess → Bool
  | ⟨.get .., .error _⟩ | ⟨.list .., .error _⟩ | ⟨.patch .., .error _⟩ => true
  | _ => false

/-- The call writes nothing. -/
def reads : Step routeAccess → Bool
  | ⟨.patch .., _⟩ => false
  | _ => true

/-- The gateway's middleware is the first one of the chain. -/
def Route.isGuarded (entry : Json) : Bool :=
  (Route.snapshot entry).chain.head?.any (Route.isNamed forwardAuth)

/-- The route of a session: the one that bears its name, else the first one that mentions its path. -/
def RouteTable.ofSession? (routes : RouteTable) (session : String) : Option Json :=
  (RouteTable.find? routes (Session.ingressName session)).or (List.find? (Route.serves session) routes)

namespace RouteTable

variable {routes : RouteTable} {route route' : Json} {name : String} {p : Json → Bool}

theorem takes_read {routes' : RouteTable} {step : Step routeAccess} (h : Takes routes step routes')
    (hread : reads step = true) : routes' = routes := by
  obtain ⟨call, a⟩ := step
  cases call with
  | get ns name => exact (takes_get h).1
  | list ns => exact (takes_list h).1
  | patch ns name p => cases hread

theorem mem_replaceFirst {r : Json} (h : r ∈ replaceFirst name route' routes) : r = route' ∨ r ∈ routes := by
  induction routes with
  | nil => cases h
  | cons first rest ih =>
    rw [replaceFirst] at h
    split at h
    · rcases List.mem_cons.mp h with rfl | hrest
      · exact .inl rfl
      · exact .inr (List.mem_cons_of_mem first hrest)
    · rcases List.mem_cons.mp h with rfl | hrest
      · exact .inr List.mem_cons_self
      · exact (ih hrest).imp_right (List.mem_cons_of_mem first)

/-- The search that comes to a route comes to the one in its place, if the search does not tell the two
apart. -/
theorem find?_replaceFirst_of_some (hfind : find? routes name = some route) (hp : p route' = p route)
    (hfound : List.find? p routes = some route) :
    List.find? p (replaceFirst name route' routes) = some route' := by
  have hroute : p route = true := List.find?_some hfound
  induction routes with
  | nil => cases hfound
  | cons first rest ih =>
    rw [find?_cons] at hfind
    rw [replaceFirst]
    split at hfind
    · next hname =>
      obtain rfl := Option.some.inj hfind
      rw [if_pos hname, List.find?_cons_of_pos (hp.trans hroute)]
    · next hname =>
      have hfirst : ¬ p first = true := by
        intro hfirst
        rw [List.find?_cons_of_pos hfirst] at hfound
        obtain rfl := Option.some.inj hfound
        exact hname (beq_iff_eq.mpr (name?_of_find? hfind))
      rw [List.find?_cons_of_neg hfirst] at hfound
      rw [if_neg hname, List.find?_cons_of_neg hfirst]
      exact ih hfind hfound

theorem find?_replaceFirst_of_none (hfind : find? routes name = some route) (hp : p route' = p route)
    (hfound : List.find? p routes = none) : List.find? p (replaceFirst name route' routes) = none := by
  rw [List.find?_eq_none] at hfound ⊢
  intro r hr
  rcases mem_replaceFirst hr with rfl | hr
  · rw [hp]
    exact hfound route (mem_of_find? hfind)
  · exact hfound r hr

end RouteTable

namespace RouteGuard

variable {ns session name : String} {steps : List (Step routeAccess)} {routes routes' : RouteTable}
  {route route' entry : Json} {snapshot : Route.Snapshot}

/-! ## Finding the route of a session -/

theorem find_ends {r : Except Error (Option Json)} (h : (find ns session).Ends steps r) :
    (∃ e, steps = [⟨.get ns (Session.ingressName session), .error e⟩] ∧ r = .error e) ∨
    (∃ route, steps = [⟨.get ns (Session.ingressName session), .ok (some route)⟩] ∧
      r = .ok (some route)) ∨
    (∃ e, steps = [⟨.get ns (Session.ingressName session), .ok none⟩, ⟨.list ns, .error e⟩] ∧
      r = .error e) ∨
    ∃ routes, steps = [⟨.get ns (Session.ingressName session), .ok none⟩, ⟨.list ns, .ok routes⟩] ∧
      r = .ok (List.find? (Route.serves session) routes) := by
  obtain ⟨a, rest, rfl, h⟩ := h
  rcases a with e | _ | route
  · obtain ⟨rfl, rfl⟩ := h
    exact .inl ⟨e, rfl, rfl⟩
  · obtain ⟨b, rest, rfl, h⟩ := h
    rcases b with e | routes
    · obtain ⟨rfl, rfl⟩ := h
      exact .inr (.inr (.inl ⟨e, rfl, rfl⟩))
    · obtain ⟨rfl, rfl⟩ := h
      exact .inr (.inr (.inr ⟨routes, rfl, rfl⟩))
  · obtain ⟨rfl, rfl⟩ := h
    exact .inr (.inl ⟨route, rfl, rfl⟩)

theorem reads_of_find_ends {r : Except Error (Option Json)} (h : (find ns session).Ends steps r) :
    ∀ step ∈ steps, reads step = true := by
  rcases find_ends h with ⟨e, rfl, -⟩ | ⟨route, rfl, -⟩ | ⟨e, rfl, -⟩ | ⟨routes, rfl, -⟩
  all_goals simp [reads]

/-- A route that bears the session's name is found at once. -/
theorem find_of_get : (find ns session).Ends
    [⟨.get ns (Session.ingressName session), .ok (some route)⟩] (.ok (some route)) :=
  ⟨.ok (some route), [], rfl, rfl, rfl⟩

theorem find_takes {r : Except Error (Option Json)} (h : (find ns session).Ends steps r)
    (ht : Along RouteTable.Takes routes steps routes') :
    routes' = routes ∧ ((∃ e, r = .error e) ∨ r = .ok (RouteTable.ofSession? routes session)) := by
  rcases find_ends h with ⟨e, rfl, rfl⟩ | ⟨route, rfl, rfl⟩ | ⟨e, rfl, rfl⟩ | ⟨listed, rfl, rfl⟩
  · obtain ⟨u, hget, hrest⟩ := Program.along_cons.mp ht
    obtain rfl := Program.along_nil.mp hrest
    exact ⟨(RouteTable.takes_get hget).1, .inl ⟨e, rfl⟩⟩
  · obtain ⟨u, hget, hrest⟩ := Program.along_cons.mp ht
    obtain rfl := Program.along_nil.mp hrest
    obtain ⟨rfl, ha | ⟨e, he⟩⟩ := RouteTable.takes_get hget
    · refine ⟨rfl, .inr ?_⟩
      rw [RouteTable.ofSession?, ← Except.ok.inj ha, Option.some_or]
    · cases he
  · obtain ⟨u, hget, hrest⟩ := Program.along_cons.mp ht
    obtain ⟨v, hlist, hrest⟩ := Program.along_cons.mp hrest
    obtain rfl := Program.along_nil.mp hrest
    exact ⟨(RouteTable.takes_list hlist).1.trans (RouteTable.takes_get hget).1, .inl ⟨e, rfl⟩⟩
  · obtain ⟨u, hget, hrest⟩ := Program.along_cons.mp ht
    obtain ⟨v, hlist, hrest⟩ := Program.along_cons.mp hrest
    obtain rfl := Program.along_nil.mp hrest
    obtain ⟨rfl, ha | ⟨e, he⟩⟩ := RouteTable.takes_get hget
    · obtain ⟨rfl, hb | ⟨e, he⟩⟩ := RouteTable.takes_list hlist
      · refine ⟨rfl, .inr ?_⟩
        rw [RouteTable.ofSession?, ← Except.ok.inj ha, Option.none_or, Except.ok.inj hb]
      · cases he
    · cases he

theorem find_takes_ok {found : Option Json} (h : (find ns session).Ends steps (.ok found))
    (ht : Along RouteTable.Takes routes steps routes') :
    routes' = routes ∧ RouteTable.ofSession? routes session = found := by
  obtain ⟨hsame, ⟨e, he⟩ | hfound⟩ := find_takes h ht
  · cases he
  · exact ⟨hsame, (Except.ok.inj hfound).symm⟩

/-! ## Putting the middleware first -/

/-- The patch that puts the gateway's middleware first. -/
def guardPatch (entry : Json) : Json.Patch :=
  chainPatch (Route.snapshot entry) (Route.promote (Route.snapshot entry).chain forwardAuth)

/-- What an installation does with the route that it found. -/
inductive Guards (ns : String) (route : Json) : List (Step routeAccess) → Except Error Guarded → Prop where
  | nameless (hname : Route.name? route = none) :
    Guards ns route [] (.error (.manifest "missing metadata.name" (some "IngressRoute")))
  | noEntry {name : String} (hname : Route.name? route = some name)
    (hentry : Route.firstRule? route = none) : Guards ns route [] (.ok ⟨false, some name, none⟩)
  | already {name : String} {entry : Json} (hname : Route.name? route = some name)
    (hentry : Route.firstRule? route = some entry) (hfirst : Route.isGuarded entry = true) :
    Guards ns route [] (.ok ⟨false, some name, some (Route.snapshot entry)⟩)
  | patched {name : String} {entry : Json} (hname : Route.name? route = some name)
    (hentry : Route.firstRule? route = some entry) (hfirst : Route.isGuarded entry = false) :
    Guards ns route [⟨.patch ns name (guardPatch entry), .ok ()⟩]
      (.ok ⟨true, some name, some (Route.snapshot entry)⟩)
  | refused {name : String} {entry : Json} {e : Error} (hname : Route.name? route = some name)
    (hentry : Route.firstRule? route = some entry) (hfirst : Route.isGuarded entry = false) :
    Guards ns route [⟨.patch ns name (guardPatch entry), .error e⟩] (.error e)

theorem install_ends {r : Except Error Guarded} (hends : (install ns session).Ends steps r) :
    ∃ found asked rest, (find ns session).Ends asked found ∧ steps = asked ++ rest ∧
      ((∃ e, found = .error e ∧ rest = [] ∧ r = .error e) ∨
        (found = .ok none ∧ rest = [] ∧ r = .ok ⟨false, none, none⟩) ∨
        ∃ route, found = .ok (some route) ∧ Guards ns route rest r) := by
  obtain ⟨found, asked, rest, rfl, hfind, h⟩ := Program.ends_bind.mp hends
  refine ⟨found, asked, rest, hfind, rfl, ?_⟩
  rcases found with e | _ | route
  · obtain ⟨rfl, rfl⟩ := h
    exact .inl ⟨e, rfl, rfl, rfl⟩
  · obtain ⟨rfl, rfl⟩ := h
    exact .inr (.inl ⟨rfl, rfl, rfl⟩)
  · refine .inr (.inr ⟨route, rfl, ?_⟩)
    dsimp only at h
    split at h
    · next hname =>
      obtain ⟨rfl, rfl⟩ := h
      exact .nameless hname
    · next name hname =>
      split at h
      · next hentry =>
        obtain ⟨rfl, rfl⟩ := h
        exact .noEntry hname hentry
      · next entry hentry =>
        split at h
        · next hfirst =>
          obtain ⟨rfl, rfl⟩ := h
          exact .already hname hentry hfirst
        · next hfirst =>
          have hfirst : Route.isGuarded entry = false := Bool.eq_false_iff.mpr hfirst
          obtain ⟨a, rest, rfl, h⟩ := h
          rcases a with e | ⟨⟩
          · obtain ⟨rfl, rfl⟩ := h
            exact .refused hname hentry hfirst
          · obtain ⟨rfl, rfl⟩ := h
            exact .patched hname hentry hfirst

/-- An installation writes at most once, at its end: the chain that it has read, with the middleware in
front. -/
theorem install_writes {patchNs : String} {p : Json.Patch} {reported : Except Error Unit}
    {r : Except Error Guarded} (hends : (install ns session).Ends steps r)
    (hpatch : ⟨.patch patchNs name p, reported⟩ ∈ steps) :
    ∃ asked route entry, (find ns session).Ends asked (.ok (some route)) ∧
      steps = asked ++ [⟨.patch patchNs name p, reported⟩] ∧ Route.name? route = some name ∧
      Route.firstRule? route = some entry ∧ Route.isGuarded entry = false ∧ p = guardPatch entry ∧
      (reported = .ok () ∧ r = .ok ⟨true, some name, some (Route.snapshot entry)⟩ ∨
        ∃ e, reported = .error e ∧ r = .error e) := by
  obtain ⟨found, asked, rest, hfind, rfl, h⟩ := install_ends hends
  -- no read is a patch, so it is the call that follows the look-up
  have hrest : ⟨.patch patchNs name p, reported⟩ ∈ rest := by
    rcases List.mem_append.mp hpatch with hmem | hmem
    · cases reads_of_find_ends hfind _ hmem
    · exact hmem
  rcases h with ⟨e, rfl, rfl, rfl⟩ | ⟨rfl, rfl, rfl⟩ | ⟨route, rfl, hguards⟩
  · cases hrest
  · cases hrest
  · cases hguards with
    | nameless | noEntry | already => cases hrest
    | patched hname hentry hfirst =>
      cases List.mem_singleton.mp hrest
      exact ⟨asked, route, _, hfind, rfl, hname, hentry, hfirst, rfl, .inl ⟨rfl, rfl⟩⟩
    | refused hname hentry hfirst =>
      cases List.mem_singleton.mp hrest
      exact ⟨asked, route, _, hfind, rfl, hname, hentry, hfirst, rfl, .inr ⟨_, rfl, rfl⟩⟩

/-- What is done with the route that was found is a way through the installation. -/
theorem install_of_guards {asked rest : List (Step routeAccess)} {r : Except Error Guarded}
    (hfind : (find ns session).Ends asked (.ok (some route))) (hguards : Guards ns route rest r) :
    (install ns session).Ends (asked ++ rest) r := by
  refine Program.ends_bind.mpr ⟨.ok (some route), asked, rest, rfl, hfind, ?_⟩
  dsimp only
  cases hguards with
  | nameless hname =>
    rw [hname]
    exact ⟨rfl, rfl⟩
  | noEntry hname hentry =>
    rw [hname]
    dsimp only
    rw [hentry]
    exact ⟨rfl, rfl⟩
  | already hname hentry hfirst =>
    rw [Route.isGuarded] at hfirst
    rw [hname]
    dsimp only
    rw [hentry]
    dsimp only
    rw [if_pos hfirst]
    exact ⟨rfl, rfl⟩
  | patched hname hentry hfirst =>
    rw [Route.isGuarded] at hfirst
    rw [hname]
    dsimp only
    rw [hentry]
    dsimp only
    rw [if_neg (Bool.eq_false_iff.mp hfirst)]
    exact ⟨.ok (), [], rfl, rfl, rfl⟩
  | refused hname hentry hfirst =>
    rw [Route.isGuarded] at hfirst
    rw [hname]
    dsimp only
    rw [hentry]
    dsimp only
    rw [if_neg (Bool.eq_false_iff.mp hfirst)]
    exact ⟨.error _, [], rfl, rfl, rfl⟩

/-- The result of an installation and the routes after it. -/
inductive Installed (session : String) (routes : RouteTable) :
    Except Error Guarded → RouteTable → Prop where
  | failed (e : Error) : Installed session routes (.error e) routes
  | noRoute (hroute : RouteTable.ofSession? routes session = none) :
    Installed session routes (.ok ⟨false, none, none⟩) routes
  | noEntry {route : Json} {name : String} (hroute : RouteTable.ofSession? routes session = some route)
    (hname : Route.name? route = some name) (hentry : Route.firstRule? route = none) :
    Installed session routes (.ok ⟨false, some name, none⟩) routes
  | already {route entry : Json} {name : String}
    (hroute : RouteTable.ofSession? routes session = some route)
    (hname : Route.name? route = some name) (hentry : Route.firstRule? route = some entry)
    (hfirst : Route.isGuarded entry = true) :
    Installed session routes (.ok ⟨false, some name, some (Route.snapshot entry)⟩) routes
  | patched {route entry target target' : Json} {name : String}
    (hroute : RouteTable.ofSession? routes session = some route)
    (hname : Route.name? route = some name) (hentry : Route.firstRule? route = some entry)
    (hfirst : Route.isGuarded entry = false) (htarget : RouteTable.find? routes name = some target)
    (hpatch : (guardPatch entry).applyTo? target = some target') :
    Installed session routes (.ok ⟨true, some name, some (Route.snapshot entry)⟩)
      (RouteTable.replaceFirst name target' routes)

theorem install_takes {r : Except Error Guarded} (hends : (install ns session).Ends steps r)
    (ht : Along RouteTable.Takes routes steps routes') : Installed session routes r routes' := by
  obtain ⟨found, asked, rest, hfind, rfl, h⟩ := install_ends hends
  obtain ⟨middle, hasked, hrest⟩ := Program.along_append.mp ht
  rcases h with ⟨e, rfl, rfl, rfl⟩ | ⟨rfl, rfl, rfl⟩ | ⟨route, rfl, hguards⟩
  · obtain ⟨rfl, -⟩ := find_takes hfind hasked
    obtain rfl := Program.along_nil.mp hrest
    exact .failed e
  · obtain ⟨rfl, hroute⟩ := find_takes_ok hfind hasked
    obtain rfl := Program.along_nil.mp hrest
    exact .noRoute hroute
  · obtain ⟨rfl, hroute⟩ := find_takes_ok hfind hasked
    cases hguards with
    | nameless hname =>
      obtain rfl := Program.along_nil.mp hrest
      exact .failed _
    | noEntry hname hentry =>
      obtain rfl := Program.along_nil.mp hrest
      exact .noEntry hroute hname hentry
    | already hname hentry hfirst =>
      obtain rfl := Program.along_nil.mp hrest
      exact .already hroute hname hentry hfirst
    | patched hname hentry hfirst =>
      obtain ⟨after, hpatch, hnil⟩ := Program.along_cons.mp hrest
      obtain rfl := Program.along_nil.mp hnil
      obtain ⟨e, he, -⟩ | ⟨-, target, target', htarget, happly, rfl⟩ := RouteTable.takes_patch hpatch
      · cases he
      · exact .patched hroute hname hentry hfirst htarget happly
    | refused hname hentry hfirst =>
      obtain ⟨after, hpatch, hnil⟩ := Program.along_cons.mp hrest
      obtain rfl := Program.along_nil.mp hnil
      obtain ⟨e, -, rfl⟩ | ⟨he, -⟩ := RouteTable.takes_patch hpatch
      · exact .failed _
      · cases he

/-! ## Putting the chain back -/

theorem restore_ends {r : Except Error Unit} (hends : (restore ns name snapshot).Ends steps r) :
    ∃ answer rest, steps = ⟨.get ns name, answer⟩ :: rest ∧
      ((∃ e, answer = .error e ∧ rest = [] ∧ r = .error e) ∨
        (answer = .ok none ∧ rest = [] ∧ r = .ok ()) ∨
        ∃ route, answer = .ok (some route) ∧
          (Route.firstRule? route = none ∧ rest = [] ∧ r = .ok () ∨
            ∃ entry, Route.firstRule? route = some entry ∧
              (restorePatch? snapshot (Route.snapshot entry) = none ∧ rest = [] ∧ r = .ok () ∨
                ∃ patch, restorePatch? snapshot (Route.snapshot entry) = some patch ∧
                  rest = [⟨.patch ns name patch, r⟩]))) := by
  obtain ⟨answer, rest, rfl, h⟩ := Program.ends_ask_bind.mp hends
  refine ⟨answer, rest, rfl, ?_⟩
  rcases answer with e | _ | route
  · obtain ⟨rfl, rfl⟩ := h
    exact .inl ⟨e, rfl, rfl, rfl⟩
  · obtain ⟨rfl, rfl⟩ := h
    exact .inr (.inl ⟨rfl, rfl, rfl⟩)
  · refine .inr (.inr ⟨route, rfl, ?_⟩)
    dsimp only at h
    split at h
    · next hentry =>
      obtain ⟨rfl, rfl⟩ := h
      exact .inl ⟨hentry, rfl, rfl⟩
    · next entry hentry =>
      refine .inr ⟨entry, hentry, ?_⟩
      split at h
      · next hpatch =>
        obtain ⟨rfl, rfl⟩ := h
        exact .inl ⟨hpatch, rfl, rfl⟩
      · next patch hpatch =>
        refine .inr ⟨patch, hpatch, ?_⟩
        obtain ⟨a, rest, rfl, h⟩ := h
        rcases a with e | ⟨⟩
        · obtain ⟨rfl, rfl⟩ := h
          rfl
        · obtain ⟨rfl, rfl⟩ := h
          rfl

/-- Where there is something to restore, to read the route and to patch it is a way through. -/
theorem restore_of_patch {patch : Json.Patch} {r : Except Error Unit}
    (hentry : Route.firstRule? route = some entry)
    (hpatch : restorePatch? snapshot (Route.snapshot entry) = some patch) :
    (restore ns name snapshot).Ends [⟨.get ns name, .ok (some route)⟩, ⟨.patch ns name patch, r⟩] r := by
  refine Program.ends_ask_bind.mpr ⟨.ok (some route), _, rfl, ?_⟩
  dsimp only
  rw [hentry]
  dsimp only
  rw [hpatch]
  refine ⟨r, [], rfl, ?_⟩
  cases r with
  | ok => exact ⟨rfl, rfl⟩
  | error e => exact ⟨rfl, rfl⟩

/-- A restoration whose calls are answered brings the route to where its patch leads. -/
theorem restore_takes {r : Except Error Unit} (hends : (restore ns name snapshot).Ends steps r)
    (ht : Along RouteTable.Takes routes steps routes') (hanswered : ∀ step ∈ steps, refused step = false)
    (hroute : RouteTable.find? routes name = some route) (hentry : Route.firstRule? route = some entry) :
    ∃ route', ((restorePatch? snapshot (Route.snapshot entry)).map
        (·.applyTo? route)).getD (some route) = some route' ∧
      routes' = RouteTable.replaceFirst name route' routes := by
  obtain ⟨answer, rest, rfl, h⟩ := restore_ends hends
  obtain ⟨middle, hget, hrest⟩ := Program.along_cons.mp ht
  obtain ⟨rfl, ha | ⟨e, rfl⟩⟩ := RouteTable.takes_get hget
  · rw [hroute] at ha
    rcases h with ⟨e, rfl, -⟩ | ⟨rfl, -⟩ | ⟨found, rfl, h⟩
    · cases ha
    · cases ha
    · obtain rfl := Option.some.inj (Except.ok.inj ha)
      rcases h with ⟨hnone, -⟩ | ⟨entry', hentry', h⟩
      · rw [hentry] at hnone
        cases hnone
      · obtain rfl := Option.some.inj (hentry.symm.trans hentry')
        rcases h with ⟨hpatch, rfl, -⟩ | ⟨patch, hpatch, rfl⟩
        · obtain rfl := Program.along_nil.mp hrest
          refine ⟨found, by rw [hpatch]; rfl, ?_⟩
          rw [RouteTable.replaceFirst_of_find? hroute]
        · obtain ⟨after, hstep, hnil⟩ := Program.along_cons.mp hrest
          obtain rfl := Program.along_nil.mp hnil
          obtain ⟨e, rfl, -⟩ | ⟨-, target, route', htarget, happly, rfl⟩ := RouteTable.takes_patch hstep
          · cases hanswered ⟨.patch ns name patch, .error e⟩ (by simp)
          · obtain rfl := Option.some.inj (hroute.symm.trans htarget)
            exact ⟨route', by rw [hpatch]; exact happly, rfl⟩
  · cases hanswered ⟨.get ns name, .error e⟩ (by simp)

end RouteGuard
end SessionGate.Intercept
