import Mathlib.Tactic.ByContra
import SessionGate.Proofs.Intercept.Guard

/-! # Routes that are found by their match expression

The scan takes the first route whose expression mentions the path of the session. That path may go on
to the path of a session with a longer id.

* `Route.names`: the path of the session ends where it is mentioned.
* `Touches`: an installation reports the route, or asks to patch it.
* `touches_iff`: that is the route of the session, whenever it has a name.
* `scan_keeps_iff`: an installation keeps off the routes of other sessions exactly when a route for a
  longer id stands behind another one that mentions the path.
-/
namespace SessionGate.Intercept
set_option autoImplicit false
open Cluster (Error)
open Program (Step Along)

namespace Route

/-! ## Paths in expressions -/

/-- The match expression of the first entry. -/
def expression? (route : Json) : Option String :=
  ((firstRule? route).bind (·.field? "match")).bind Json.string?

/-- Whether a text occurs in another one without a further character of an id behind it. -/
def endsIn (needle : List Char) : List Char → Bool
  | [] => needle.isEmpty
  | c :: rest =>
    needle.isPrefixOf (c :: rest) &&
        (List.head? (List.drop needle.length (c :: rest))).all (!Session.isIdChar ·) ||
      endsIn needle rest

/-- Whether the expression of a route has the path of this session, and not only that of a longer id. -/
def names (session : String) (route : Json) : Bool :=
  (expression? route).any fun expression => endsIn (Session.publicPath session).toList expression.toList

variable {needle text : List Char} {session : String} {route : Json}

theorem occursIn_iff : occursIn needle text = true ↔ needle <:+: text := by
  induction text with
  | nil => simp [occursIn]
  | cons c rest ih => rw [occursIn, Bool.or_eq_true, List.isPrefixOf_iff_prefix, ih, List.infix_cons_iff]

theorem endsIn_iff : endsIn needle text = true ↔ ∃ before after, text = before ++ needle ++ after ∧
    ∀ c, after.head? = some c → Session.isIdChar c = false := by
  induction text with
  | nil =>
    rw [endsIn, List.isEmpty_iff]
    constructor
    · rintro rfl
      exact ⟨[], [], rfl, by simp⟩
    · rintro ⟨before, after, hnil, -⟩
      have := List.append_eq_nil_iff.mp hnil.symm
      exact (List.append_eq_nil_iff.mp this.1).2
  | cons c rest ih =>
    rw [endsIn, Bool.or_eq_true, Bool.and_eq_true, List.isPrefixOf_iff_prefix, ih]
    constructor
    · rintro (⟨⟨after, hafter⟩, hend⟩ | ⟨before, after, rfl, hend⟩)
      · rw [← hafter, List.drop_left] at hend
        refine ⟨[], after, hafter.symm, fun c hc => ?_⟩
        rw [hc] at hend
        simpa using hend
      · exact ⟨c :: before, after, rfl, hend⟩
    · rintro ⟨_ | ⟨b, before⟩, after, htext, hend⟩
      · left
        refine ⟨⟨after, htext.symm⟩, ?_⟩
        rw [htext, List.nil_append, List.drop_left]
        cases hhead : after.head? with
        | none => rfl
        | some c =>
          rw [Option.all_some, hend c hhead]
          rfl
      · right
        obtain ⟨rfl, rfl⟩ := List.cons.inj htext
        exact ⟨before, after, rfl, hend⟩

theorem serves_iff : serves session route = true ↔
    ∃ expression, expression? route = some expression ∧
      (Session.publicPath session).toList <:+: expression.toList := by
  have hexpression : ((firstRule? route).bind (·.field? "match")).bind Json.string? =
      expression? route := rfl
  rw [serves, hexpression]
  cases expression? route with
  | none => simp
  | some expression => simp [occursIn_iff]

theorem names_iff : names session route = true ↔
    ∃ expression before after, expression? route = some expression ∧
      expression.toList = before ++ (Session.publicPath session).toList ++ after ∧
      ∀ c, after.head? = some c → Session.isIdChar c = false := by
  rw [names, Option.any_eq_true]
  constructor
  · rintro ⟨expression, hexpression, hends⟩
    obtain ⟨before, after, htext, hend⟩ := endsIn_iff.mp hends
    exact ⟨expression, before, after, hexpression, htext, hend⟩
  · rintro ⟨expression, before, after, hexpression, htext, hend⟩
    exact ⟨expression, hexpression, endsIn_iff.mpr ⟨before, after, htext, hend⟩⟩

end Route

namespace RouteGuard

variable {ns session name : String} {routes : RouteTable} {route : Json}

/-! ## The route that an installation touches -/

/-- An installation at these routes reports the name, or asks to patch the route that bears it. -/
def Touches (ns session : String) (routes : RouteTable) (name : String) : Prop :=
  ∃ steps result routes', (install ns session).Ends steps result ∧
    Along RouteTable.Takes routes steps routes' ∧
      ((∃ changed snapshot, result = .ok ⟨changed, some name, snapshot⟩) ∨
        ∃ patch answer, ⟨.patch ns name patch, answer⟩ ∈ steps)

/-- A look-up whose calls are all answered. -/
theorem find_answered (ns session : String) (routes : RouteTable) :
    ∃ asked, (find ns session).Ends asked (.ok (RouteTable.ofSession? routes session)) ∧
      Along RouteTable.Takes routes asked routes := by
  have hget := RouteTable.Takes.answered (.get ns (Session.ingressName session)) routes
  cases hfind : RouteTable.find? routes (Session.ingressName session) with
  | some route =>
    refine ⟨[⟨.get ns (Session.ingressName session), .ok (some route)⟩], ?_, ?_⟩
    · rw [RouteTable.ofSession?, hfind, Option.some_or]
      exact ⟨_, [], rfl, rfl, rfl⟩
    · rw [← hfind]
      exact .cons hget (.nil routes)
  | none =>
    refine ⟨[⟨.get ns (Session.ingressName session), .ok none⟩, ⟨.list ns, .ok routes⟩], ?_, ?_⟩
    · rw [RouteTable.ofSession?, hfind, Option.none_or]
      exact ⟨_, _, rfl, _, [], rfl, rfl, rfl⟩
    · rw [← hfind]
      exact .cons hget (.cons (.answered (.list ns) routes) (.nil routes))

/-- An installation whose calls reach the table does something about a route with a name. -/
theorem touches_of_ofSession? (hroute : RouteTable.ofSession? routes session = some route)
    (hname : Route.name? route = some name) : Touches ns session routes name := by
  obtain ⟨asked, hfind, hasked⟩ := find_answered ns session routes
  rw [hroute] at hfind
  cases hentry : Route.firstRule? route with
  | none =>
    refine ⟨asked ++ [], _, routes, install_of_guards hfind (.noEntry hname hentry), ?_, .inl ⟨false, none, rfl⟩⟩
    rwa [List.append_nil]
  | some entry =>
    cases hfirst : Route.isGuarded entry with
    | true =>
      refine ⟨asked ++ [], _, routes, install_of_guards hfind (.already hname hentry hfirst), ?_,
        .inl ⟨false, _, rfl⟩⟩
      rwa [List.append_nil]
    | false =>
      let call : RouteCall := .patch ns name (guardPatch entry)
      have hpatch := RouteTable.Takes.answered call routes
      have halong : Along RouteTable.Takes routes (asked ++ [⟨call, (RouteTable.answer call routes).1⟩])
          (RouteTable.answer call routes).2 :=
        Program.along_append.mpr ⟨routes, hasked, .cons hpatch (.nil _)⟩
      have hguards : ∃ result, Guards ns route [⟨call, (RouteTable.answer call routes).1⟩] result := by
        rcases (RouteTable.answer call routes).1 with e | ⟨⟩
        · exact ⟨_, .refused hname hentry hfirst⟩
        · exact ⟨_, .patched hname hentry hfirst⟩
      obtain ⟨result, hguards⟩ := hguards
      exact ⟨_, result, _, install_of_guards hfind hguards, halong,
        .inr ⟨_, _, List.mem_append_right _ (List.mem_singleton_self _)⟩⟩

/-- A look-up does not patch. -/
theorem not_mem_find {steps : List (Step routeAccess)} {found : Except Error (Option Json)}
    (h : (find ns session).Ends steps found) (patch : Json.Patch) (answer : Except Error Unit) :
    (⟨.patch ns name patch, answer⟩ : Step routeAccess) ∉ steps := by
  intro hmem
  rcases find_ends h with ⟨e, rfl, -⟩ | ⟨route, rfl, -⟩ | ⟨e, rfl, -⟩ | ⟨listed, rfl, -⟩
  · cases List.mem_singleton.mp hmem
  · cases List.mem_singleton.mp hmem
  · rcases List.mem_cons.mp hmem with hmem | hmem
    · cases hmem
    · cases List.mem_singleton.mp hmem
  · rcases List.mem_cons.mp hmem with hmem | hmem
    · cases hmem
    · cases List.mem_singleton.mp hmem

/-- What is done with a route that was found is done under its name. -/
theorem Guards.name?_eq {rest : List (Step routeAccess)} {result : Except Error Guarded}
    (h : Guards ns route rest result)
    (htouch : (∃ changed snapshot, result = .ok ⟨changed, some name, snapshot⟩) ∨
      ∃ patch answer, (⟨.patch ns name patch, answer⟩ : Step routeAccess) ∈ rest) :
    Route.name? route = some name := by
  rcases htouch with ⟨changed, snapshot, rfl⟩ | ⟨patch, answer, hmem⟩
  · cases h with
    | noEntry hname _ | already hname _ _ | patched hname _ _ => exact hname
  · cases h with
    | nameless _ | noEntry _ _ | already _ _ _ => cases hmem
    | patched hname _ _ | refused hname _ _ =>
      cases List.mem_singleton.mp hmem
      exact hname

theorem touches_iff : Touches ns session routes name ↔
    ∃ route, RouteTable.ofSession? routes session = some route ∧ Route.name? route = some name := by
  constructor
  · rintro ⟨steps, result, routes', hends, halong, htouch⟩
    obtain ⟨found, asked, rest, hfind, rfl, hrest⟩ := install_ends hends
    obtain ⟨middle, hasked, -⟩ := Program.along_append.mp halong
    obtain ⟨-, hfound⟩ := find_takes hfind hasked
    have htouch : (∃ changed snapshot, result = .ok ⟨changed, some name, snapshot⟩) ∨
        ∃ patch answer, (⟨.patch ns name patch, answer⟩ : Step routeAccess) ∈ rest := by
      refine htouch.imp_right ?_
      rintro ⟨patch, answer, hmem⟩
      exact ⟨patch, answer, (List.mem_append.mp hmem).resolve_left (not_mem_find hfind patch answer)⟩
    rcases hrest with ⟨e, -, rfl, rfl⟩ | ⟨-, rfl, rfl⟩ | ⟨route, rfl, hguards⟩
    · simp at htouch
    · simp at htouch
    · rcases hfound with ⟨e, he⟩ | hroute
      · cases he
      · exact ⟨route, (Except.ok.inj hroute).symm, hguards.name?_eq htouch⟩
  · rintro ⟨route, hroute, hname⟩
    exact touches_of_ofSession? hroute hname

/-! ## Routes of other sessions -/

/-- Without a route of the session's name, what an installation touches is the session's own, exactly
when a route that has the path for a longer id only stands behind another one that has it. -/
theorem scan_keeps_iff (ns session : String) (routes : RouteTable)
    (hnone : RouteTable.find? routes (Session.ingressName session) = none) :
    (∀ route name, List.find? (Route.serves session) routes = some route →
        Route.name? route = some name → Touches ns session routes name →
        Route.names session route = true) ↔
      ∀ before route rest, routes = before ++ route :: rest → (Route.name? route).isSome = true →
        Route.serves session route = true → Route.names session route = false →
        ∃ other ∈ before, Route.serves session other = true := by
  have hscan : RouteTable.ofSession? routes session = List.find? (Route.serves session) routes := by
    rw [RouteTable.ofSession?, hnone, Option.none_or]
  constructor
  · intro hkeeps before route rest hroutes hname hserves hother
    by_contra hfirst
    obtain ⟨name, hname⟩ := Option.isSome_iff_exists.mp hname
    have hfind : List.find? (Route.serves session) routes = some route := by
      refine List.find?_eq_some_iff_append.mpr ⟨hserves, before, rest, hroutes, fun other hmem => ?_⟩
      by_contra hmentions
      exact hfirst ⟨other, hmem, by simpa using hmentions⟩
    have htouches : Touches ns session routes name := touches_iff.mpr ⟨route, hscan.trans hfind, hname⟩
    rw [hkeeps route name hfind hname htouches] at hother
    cases hother
  · intro hbehind route name hfind hname _
    obtain ⟨hserves, before, rest, hroutes, hfirst⟩ := List.find?_eq_some_iff_append.mp hfind
    by_contra hother
    obtain ⟨other, hmem, hmentions⟩ :=
      hbehind before route rest hroutes (by rw [hname]; rfl) hserves (by simpa using hother)
    have hsilent := hfirst other hmem
    rw [hmentions] at hsilent
    cases hsilent

/-- A route of this name whose expression has the path of a session. -/
def pathRoute (name session : String) : Json :=
  .object [("metadata", .object [("name", .string name)]),
    ("spec", .object [("routes", .array [.object
      [("match", .string ("PathPrefix(`" ++ Session.publicPath session ++ "`)"))]])])]

/-- A renamed route in front keeps an installation off the route of a longer id. -/
theorem scan_keeps_behind_own :
    RouteTable.find? [pathRoute "renamed" "abc", pathRoute "other" "abc123"]
        (Session.ingressName "abc") = none ∧
      ∀ route name,
        List.find? (Route.serves "abc") [pathRoute "renamed" "abc", pathRoute "other" "abc123"] =
          some route → Route.name? route = some name →
        Touches "default" "abc" [pathRoute "renamed" "abc", pathRoute "other" "abc123"] name →
        Route.names "abc" route = true := by
  have hnone : RouteTable.find? [pathRoute "renamed" "abc", pathRoute "other" "abc123"]
      (Session.ingressName "abc") = none := by decide +kernel
  refine ⟨hnone, (scan_keeps_iff "default" "abc" _ hnone).mpr ?_⟩
  intro before route rest hroutes _ _ hother
  have hown : Route.names "abc" (pathRoute "renamed" "abc") = true := by decide +kernel
  cases before with
  | nil =>
    rw [← (List.cons.inj hroutes).1, hown] at hother
    cases hother
  | cons first before =>
    rw [← (List.cons.inj hroutes).1]
    exact ⟨_, List.mem_cons_self .., by decide +kernel⟩

/-- The route of `abc123` is the one that an installation for `abc` guards. -/
theorem scan_touches_longer_id : (Session.Token.parse? "abc").isSome = true ∧
    RouteTable.find? [pathRoute "other" "abc123"] (Session.ingressName "abc") = none ∧
    List.find? (Route.serves "abc") [pathRoute "other" "abc123"] = some (pathRoute "other" "abc123") ∧
    Touches "default" "abc" [pathRoute "other" "abc123"] "other" ∧
    (RouteDesk.run (install "default" "abc") ⟨[pathRoute "other" "abc123"], [], [], []⟩).1.toOption =
      some ⟨true, some "other", some .absent⟩ ∧
    Route.names "abc" (pathRoute "other" "abc123") = false ∧
    Route.names "abc123" (pathRoute "other" "abc123") = true := by
  have hnone : RouteTable.find? [pathRoute "other" "abc123"] (Session.ingressName "abc") = none := by
    decide +kernel
  have hfind : List.find? (Route.serves "abc") [pathRoute "other" "abc123"] =
      some (pathRoute "other" "abc123") := by decide +kernel
  have htouches : Touches "default" "abc" [pathRoute "other" "abc123"] "other" := by
    refine touches_iff.mpr ⟨pathRoute "other" "abc123", ?_, by decide +kernel⟩
    rw [RouteTable.ofSession?, hnone, Option.none_or, hfind]
  exact ⟨by decide +kernel, hnone, hfind, htouches, by decide +kernel, by decide +kernel,
    by decide +kernel⟩

end RouteGuard
end SessionGate.Intercept
