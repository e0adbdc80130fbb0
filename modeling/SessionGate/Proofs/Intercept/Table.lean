import SessionGate.Intercept.RouteTable
import SessionGate.Proofs.Intercept.Chain
import SessionGate.Proofs.Program.History

/-! # A table of routes that answers or fails

`Takes routes step routes'` is one call of the store while nobody else writes: it is answered from
the table, or it fails and has no effect. The table then changes by a patch alone
(`takes_get`, `takes_list`, `takes_patch`). -/
namespace SessionGate.Intercept.RouteTable
set_option autoImplicit false
open Cluster (Error)
open Program (Step)

variable {routes routes' : RouteTable} {name ns : String} {route route' : Json}

/-! ## Names -/

/-- No two routes have one name. -/
def NamesUnique (routes : RouteTable) : Prop := (List.filterMap Route.name? routes).Nodup

theorem name?_of_find? (h : find? routes name = some route) : Route.name? route = some name := by
  simpa using List.find?_some h

theorem mem_of_find? (h : find? routes name = some route) : route ∈ routes := List.mem_of_find?_eq_some h

theorem find?_cons (r : Json) (rest : RouteTable) :
    find? (r :: rest) name = if Route.name? r == some name then some r else find? rest name := by
  rw [find?, List.find?_cons]
  split <;> simp_all [find?]

/-- With unique names a route is the one that is found under its name. -/
theorem find?_of_mem (hnames : NamesUnique routes) (hmem : route ∈ routes)
    (hname : Route.name? route = some name) : find? routes name = some route := by
  induction routes with
  | nil => cases hmem
  | cons r rest ih =>
    rw [find?_cons]
    rcases List.mem_cons.mp hmem with rfl | hrest
    · simp [hname]
    · cases hr : Route.name? r with
      | none =>
        rw [NamesUnique, List.filterMap_cons_none hr] at hnames
        simpa using ih hnames hrest
      | some other =>
        rw [NamesUnique, List.filterMap_cons_some hr, List.nodup_cons] at hnames
        have hne : other ≠ name := by
          rintro rfl
          exact hnames.1 (List.mem_filterMap.mpr ⟨route, hrest, hname⟩)
        simpa [hne] using ih hnames.2 hrest

/-! ## Replacing a route -/

theorem find?_replaceFirst (h : find? routes name = some route) (hname : Route.name? route' = some name) :
    find? (replaceFirst name route' routes) name = some route' := by
  induction routes with
  | nil => cases h
  | cons r rest ih =>
    rw [find?_cons] at h
    rw [replaceFirst]
    split at h
    · next hr => simp [hr, find?_cons, hname]
    · next hr => simp [hr, find?_cons, ih h]

theorem replaceFirst_replaceFirst {route'' : Json} (hname : Route.name? route' = some name) :
    replaceFirst name route'' (replaceFirst name route' routes) = replaceFirst name route'' routes := by
  induction routes with
  | nil => rfl
  | cons r rest ih =>
    by_cases hr : (Route.name? r == some name) = true
    · simp [replaceFirst, hr, hname]
    · simp [replaceFirst, hr, ih]

theorem replaceFirst_of_find? (h : find? routes name = some route) :
    replaceFirst name route routes = routes := by
  induction routes with
  | nil => rfl
  | cons r rest ih =>
    rw [find?_cons] at h
    rw [replaceFirst]
    split at h
    · next hr =>
      obtain rfl := Option.some.inj h
      rw [if_pos hr]
    · next hr => rw [if_neg hr, ih h]

/-! ## One call -/

/-- A call is answered from the table, or it fails without an effect. -/
inductive Takes : RouteTable → Step routeAccess → RouteTable → Prop where
  | answered (call : RouteCall) (routes : RouteTable) :
    Takes routes ⟨call, (answer call routes).1⟩ (answer call routes).2
  | failed (call : RouteCall) (e : Error) (routes : RouteTable) :
    Takes routes ⟨call, call.failure e⟩ routes

theorem Takes.get {found : Option Json} (h : find? routes name = found) :
    Takes routes ⟨.get ns name, .ok found⟩ routes := by
  subst h
  exact .answered (.get ns name) routes

theorem Takes.patch {p : Json.Patch} (h : RouteTable.patch routes name p = .ok routes') :
    Takes routes ⟨.patch ns name p, .ok ()⟩ routes' := by
  have hanswer : RouteTable.answer (.patch ns name p) routes = (.ok (), routes') := by
    rw [answer, h]
  have htakes := Takes.answered (.patch ns name p) routes
  rwa [hanswer] at htakes

theorem takes_get {a : Except Error (Option Json)} (h : Takes routes ⟨.get ns name, a⟩ routes') :
    routes' = routes ∧ (a = .ok (find? routes name) ∨ ∃ e, a = .error e) := by
  cases h with
  | answered => exact ⟨rfl, .inl rfl⟩
  | failed _ e => exact ⟨rfl, .inr ⟨e, rfl⟩⟩

theorem takes_list {a : Except Error (List Json)} (h : Takes routes ⟨.list ns, a⟩ routes') :
    routes' = routes ∧ (a = .ok routes ∨ ∃ e, a = .error e) := by
  cases h with
  | answered => exact ⟨rfl, .inl rfl⟩
  | failed _ e => exact ⟨rfl, .inr ⟨e, rfl⟩⟩

/-- A patch that reports success changed the route, one that reports a failure changed nothing. -/
theorem takes_patch {p : Json.Patch} {a : Except Error Unit}
    (h : Takes routes ⟨.patch ns name p, a⟩ routes') :
    (∃ e, a = .error e ∧ routes' = routes) ∨ a = .ok () ∧ ∃ route route',
      find? routes name = some route ∧ p.applyTo? route = some route' ∧
        routes' = replaceFirst name route' routes := by
  cases h with
  | failed _ e => exact .inl ⟨e, rfl, rfl⟩
  | answered =>
    cases hf : find? routes name with
    | none =>
      left
      exact ⟨internal "not found", by simp [answer, patch, hf], by simp [answer, patch, hf]⟩
    | some route =>
      cases hp : p.applyTo? route with
      | none =>
        left
        exact ⟨internal "patch failed", by simp [answer, patch, hf, hp], by simp [answer, patch, hf, hp]⟩
      | some route' =>
        right
        exact ⟨by simp [answer, patch, hf, hp], route, route', rfl, hp, by simp [answer, patch, hf, hp]⟩

end SessionGate.Intercept.RouteTable
