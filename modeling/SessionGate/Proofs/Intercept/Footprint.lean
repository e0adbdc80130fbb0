import SessionGate.Proofs.Intercept.Desk
import SessionGate.Proofs.Intercept.LostAnswer

/-! # What an operation may touch

* `RouteTable.Atomic`: reads are answered anything and write nothing, a patch is applied as a whole or fails
  without an effect.
* `WritesOnce`: the calls of an operation that only reads, but for one patch of a chain at its end;
  `install_writesOnce`, `restore_writesOnce`.
* `Footprint`: what such calls send, and what becomes of the routes.
* `install_error_iff`: when an installation fails.
* `operations_footprint`: all of this for both operations.
-/
namespace SessionGate.Intercept
set_option autoImplicit false
open Cluster (Error)
open Json (Members PatchOperation)
open Program (Step Along)

variable {ns session name : String} {routes routes' : RouteTable} {route route' entry : Json}
  {steps asked : List (Step routeAccess)} {p : Json.Patch} {failed : Prop} {snapshot : Route.Snapshot}

/-! ## Stores -/

namespace RouteTable

/-- Whatever a read is answered, it writes nothing. A patch is applied as a whole, or it fails and is not
applied. -/
inductive Atomic : RouteTable → Step routeAccess → RouteTable → Prop where
  | read {routes : RouteTable} {step : Step routeAccess} (hread : reads step = true) : Atomic routes step routes
  | applied {routes : RouteTable} {ns name : String} {p : Json.Patch} {route route' : Json}
    (hfind : find? routes name = some route) (happly : p.applyTo? route = some route') :
    Atomic routes ⟨.patch ns name p, .ok ()⟩ (replaceFirst name route' routes)
  | refused {routes : RouteTable} {ns name : String} {p : Json.Patch} (e : Error) :
    Atomic routes ⟨.patch ns name p, .error e⟩ routes

theorem Takes.atomic {step : Step routeAccess} (h : Takes routes step routes') : Atomic routes step routes' := by
  obtain ⟨call, a⟩ := step
  cases call with
  | get ns name =>
    obtain ⟨rfl, -⟩ := takes_get h
    exact .read rfl
  | list ns =>
    obtain ⟨rfl, -⟩ := takes_list h
    exact .read rfl
  | patch ns name p =>
    obtain ⟨e, rfl, rfl⟩ | ⟨rfl, route, route', hfind, happly, rfl⟩ := takes_patch h
    · exact .refused e
    · exact .applied hfind happly

theorem along_atomic_of_reads (h : Along Atomic routes steps routes') (hreads : ∀ step ∈ steps, reads step = true) :
    routes' = routes := by
  induction h with
  | nil t => rfl
  | cons hstep _ ih =>
    obtain ⟨hread, hrest⟩ := List.forall_mem_cons.mp hreads
    cases hstep with
    | read => exact ih hrest
    | applied | refused => cases hread

/-- The call was not answered as the table answers it. -/
def Fails (routes : RouteTable) (step : Step routeAccess) : Prop := step.2 ≠ (answer step.1 routes).1

/-- A call that reports no failure is answered by the table. -/
theorem Takes.not_fails {step : Step routeAccess} (h : Takes routes step routes') (hanswered : refused step = false) :
    ¬ Fails routes step := by
  cases h with
  | answered call => exact fun hfails => hfails rfl
  | failed call e => cases call <;> cases hanswered

end RouteTable

/-! ## Calls -/

/-- Place at which an operation acts. -/
def PatchOperation.path : PatchOperation → Json.Pointer
  | .add path _ | .remove path | .replace path _ | .move _ path | .copy _ path | .test path _ => path

/-- A patch of one operation, at the chain. -/
structure ChainPatch (p : Json.Patch) : Prop where
  single : ∃ op, p = [op] ∧ PatchOperation.path op = Route.chainPath
  rechains : ∀ route route', p.applyTo? route = some route' → Route.Rechained route route'

theorem chainPatch_guardPatch (entry : Json) : ChainPatch (RouteGuard.guardPatch entry) where
  single := by
    rw [RouteGuard.guardPatch]
    cases Route.snapshot entry with
    | absent => exact ⟨_, rfl, rfl⟩
    | present chain => exact ⟨_, rfl, rfl⟩
  rechains _ _ happly := .inr ⟨_, Route.alter?_of_chainPatch happly⟩

theorem chainPatch_restorePatch {current : Route.Snapshot}
    (h : RouteGuard.restorePatch? snapshot current = some p) : ChainPatch p where
  single := by
    unfold RouteGuard.restorePatch? at h
    split at h
    · cases h
    all_goals
      obtain rfl := Option.some.inj h
      exact ⟨_, rfl, rfl⟩
  rechains _ _ happly := .inr ⟨_, Route.alter?_of_restorePatch h happly⟩

/-- Calls that only read, but for one patch of a chain at their end. Where the operation has failed, so has
the patch. -/
inductive WritesOnce (failed : Prop) : List (Step routeAccess) → Prop where
  | reads {steps : List (Step routeAccess)} (hreads : ∀ step ∈ steps, reads step = true) : WritesOnce failed steps
  | patch {asked : List (Step routeAccess)} {ns name : String} {p : Json.Patch} {reported : Except Error Unit}
    (hreads : ∀ step ∈ asked, Intercept.reads step = true) (hpatch : ChainPatch p)
    (hfailed : failed → ∃ e, reported = .error e) : WritesOnce failed (asked ++ [⟨.patch ns name p, reported⟩])

theorem RouteGuard.install_writesOnce {r : Except Error Guarded} (hends : (install ns session).Ends steps r) :
    WritesOnce (∃ e, r = .error e) steps := by
  obtain ⟨found, asked, rest, hfind, rfl, h⟩ := install_ends hends
  have hreads := reads_of_find_ends hfind
  have hasked : ∀ step ∈ asked ++ [], reads step = true := by rwa [List.append_nil]
  rcases h with ⟨e, -, rfl, -⟩ | ⟨-, rfl, -⟩ | ⟨route, -, hguards⟩
  · exact .reads hasked
  · exact .reads hasked
  · cases hguards with
    | nameless | noEntry | already => exact .reads hasked
    | patched => exact .patch hreads (chainPatch_guardPatch _) (by rintro ⟨e, he⟩; cases he)
    | refused => exact .patch hreads (chainPatch_guardPatch _) fun _ => ⟨_, rfl⟩

theorem RouteGuard.restore_writesOnce {r : Except Error Unit} (hends : (restore ns name snapshot).Ends steps r) :
    WritesOnce (∃ e, r = .error e) steps := by
  obtain ⟨answer, rest, rfl, h⟩ := restore_ends hends
  have hget : ∀ step ∈ [(⟨.get ns name, answer⟩ : Step routeAccess)], reads step = true :=
    List.forall_mem_singleton.mpr rfl
  rcases h with ⟨e, -, rfl, -⟩ | ⟨-, rfl, -⟩ | ⟨route, -, ⟨-, rfl, -⟩ | ⟨entry, -, h⟩⟩
  · exact .reads hget
  · exact .reads hget
  · exact .reads hget
  · rcases h with ⟨-, rfl, -⟩ | ⟨patch, hpatch, rfl⟩
    · exact .reads hget
    · exact .patch hget (chainPatch_restorePatch hpatch) id

/-! ## Footprints -/

/-- One patch at most is sent, of one operation at the chain of the first entry, and the chain of one route
at most is changed. -/
structure Footprint (routes : RouteTable) (steps : List (Step routeAccess)) (routes' : RouteTable) : Prop where
  once : (steps.filter (!reads ·)).length ≤ 1
  single : ∀ ns name p reported, ⟨.patch ns name p, reported⟩ ∈ steps →
    ∃ op, p = [op] ∧ (PatchOperation.path op).toText = "/spec/routes/0/middlewares"
  change : routes' = routes ∨ ∃ front route route' back, routes = front ++ route :: back ∧
    routes' = front ++ route' :: back ∧ Route.Rechained route route' ∧
    ∀ place, ¬ Route.chainPath <+: place → ¬ place <+: Route.chainPath →
      route'.pointer? place = route.pointer? place

theorem filter_reads (hreads : ∀ step ∈ steps, reads step = true) : steps.filter (!reads ·) = [] := by
  rw [List.filter_eq_nil_iff]
  intro step hstep
  rw [hreads step hstep]
  exact Bool.noConfusion

theorem not_mem_of_reads {reported : Except Error Unit} (hreads : ∀ step ∈ steps, reads step = true) :
    (⟨.patch ns name p, reported⟩ : Step routeAccess) ∉ steps := fun hmem => Bool.noConfusion (hreads _ hmem)

theorem WritesOnce.footprint (h : WritesOnce failed steps)
    (hatomic : Along RouteTable.Atomic routes steps routes') :
    Footprint routes steps routes' ∧ (failed → routes' = routes) := by
  cases h with
  | reads hreads =>
    have hsame := RouteTable.along_atomic_of_reads hatomic hreads
    refine ⟨⟨?_, ?_, .inl hsame⟩, fun _ => hsame⟩
    · rw [filter_reads hreads]
      exact Nat.zero_le 1
    · exact fun ns name p reported hmem => absurd hmem (not_mem_of_reads hreads)
  | @patch asked ns name p reported hreads hpatch hfailed =>
    obtain ⟨middle, hasked, hrest⟩ := Program.along_append.mp hatomic
    -- the reads have left the table to the patch as it was
    obtain rfl := RouteTable.along_atomic_of_reads hasked hreads
    obtain ⟨after, hstep, hnil⟩ := Program.along_cons.mp hrest
    obtain rfl := Program.along_nil.mp hnil
    have honce :
        ((asked ++ [(⟨.patch ns name p, reported⟩ : Step routeAccess)]).filter (!Intercept.reads ·)).length ≤ 1 := by
      rw [List.filter_append, filter_reads hreads, List.nil_append]
      exact List.length_filter_le _ _
    have hsingle : ∀ ns' name' p' reported',
        ⟨.patch ns' name' p', reported'⟩ ∈ asked ++ [(⟨.patch ns name p, reported⟩ : Step routeAccess)] →
          ∃ op, p' = [op] ∧ (PatchOperation.path op).toText = "/spec/routes/0/middlewares" := by
      intro ns' name' p' reported' hmem
      rcases List.mem_append.mp hmem with hmem | hmem
      · exact absurd hmem (not_mem_of_reads hreads)
      · cases List.mem_singleton.mp hmem
        obtain ⟨op, hop, hpath⟩ := hpatch.single
        exact ⟨op, hop, by rw [hpath]; rfl⟩
    cases hstep with
    | read hread => cases hread
    | refused e => exact ⟨⟨honce, hsingle, .inl rfl⟩, fun _ => rfl⟩
    | applied hfind happly =>
      have hrechained := hpatch.rechains _ _ happly
      obtain ⟨front, back, hsplit, hreplace⟩ := RouteTable.replaceFirst_eq hfind
      refine ⟨⟨honce, hsingle, .inr ⟨front, _, _, back, hsplit, hreplace _, hrechained,
        fun _ => hrechained.pointer?_beside⟩⟩, fun hf => ?_⟩
      obtain ⟨e, he⟩ := hfailed hf
      cases he

/-! ## Failures of an installation -/

namespace RouteGuard

theorem snapshot_of_no_members (h : entry.members? = none) : Route.snapshot entry = .absent := by
  cases entry with
  | object members => cases h
  | _ => rfl

theorem isGuarded_of_no_members (h : entry.members? = none) : Route.isGuarded entry = false := by
  rw [Route.isGuarded, snapshot_of_no_members h]
  rfl

theorem find_not_refused {found : Option Json} (hends : (find ns session).Ends steps (.ok found)) :
    ∀ step ∈ steps, refused step = false := by
  rcases find_ends hends with ⟨e, -, he⟩ | ⟨route, rfl, -⟩ | ⟨e, -, he⟩ | ⟨listed, rfl, -⟩
  · cases he
  · simp [refused]
  · cases he
  · simp [refused]

theorem install_not_refused {guarded : Guarded} (hends : (install ns session).Ends steps (.ok guarded)) :
    ∀ step ∈ steps, refused step = false := by
  obtain ⟨found, asked, rest, hfind, rfl, h⟩ := install_ends hends
  rcases h with ⟨e, -, -, he⟩ | ⟨rfl, rfl, -⟩ | ⟨route, rfl, hguards⟩
  · cases he
  · rw [List.append_nil]
    exact find_not_refused hfind
  · refine List.forall_mem_append.mpr ⟨find_not_refused hfind, ?_⟩
    cases hguards with
    | noEntry | already => exact List.forall_mem_nil _
    | patched => exact List.forall_mem_singleton.mpr rfl

/-- The look-up fails with a call of the store only. -/
theorem fails_of_find_error {e : Error} (hends : (find ns session).Ends steps (.error e)) (routes : RouteTable) :
    ∃ step ∈ steps, RouteTable.Fails routes step := by
  rcases find_ends hends with ⟨e', rfl, -⟩ | ⟨route, -, he⟩ | ⟨e', rfl, -⟩ | ⟨listed, -, he⟩
  · refine ⟨_, List.mem_singleton_self _, ?_⟩
    intro hsame
    cases hsame
  · cases he
  · refine ⟨_, List.mem_cons_of_mem _ (List.mem_singleton_self _), ?_⟩
    intro hsame
    cases hsame
  · cases he

/-- Reads that are answered are answered by the table that was there before all of them. -/
theorem not_fails_of_reads (ht : Along RouteTable.Takes routes steps routes')
    (hreads : ∀ step ∈ steps, reads step = true) (hanswered : ∀ step ∈ steps, refused step = false) :
    ∀ step ∈ steps, ¬ RouteTable.Fails routes step := by
  induction ht with
  | nil t => exact List.forall_mem_nil _
  | cons hstep _ ih =>
    obtain ⟨hread, hrestReads⟩ := List.forall_mem_cons.mp hreads
    obtain ⟨hnot, hrestAnswered⟩ := List.forall_mem_cons.mp hanswered
    obtain rfl := RouteTable.takes_read hstep hread
    exact List.forall_mem_cons.mpr ⟨hstep.not_fails hnot, ih hrestReads hrestAnswered⟩

/-- An installation that succeeds was answered by the table throughout. -/
theorem install_not_fails {guarded : Guarded} (hends : (install ns session).Ends steps (.ok guarded))
    (ht : Along RouteTable.Takes routes steps routes') : ∀ step ∈ steps, ¬ RouteTable.Fails routes step := by
  have hanswered := install_not_refused hends
  cases install_writesOnce hends with
  | reads hreads => exact not_fails_of_reads ht hreads hanswered
  | patch hreads hpatch _ =>
    obtain ⟨middle, hasked, hrest⟩ := Program.along_append.mp ht
    obtain ⟨hbefore, hlast⟩ := List.forall_mem_append.mp hanswered
    obtain rfl := RouteTable.along_atomic_of_reads (hasked.imp fun _ _ _ => RouteTable.Takes.atomic) hreads
    obtain ⟨after, hstep, -⟩ := Program.along_cons.mp hrest
    refine List.forall_mem_append.mpr ⟨not_fails_of_reads hasked hreads hbefore, ?_⟩
    exact List.forall_mem_singleton.mpr (hstep.not_fails (hlast _ (List.mem_singleton_self _)))

/-- A patch that is refused for an object is refused by the store alone. -/
theorem fails_of_refused {members : Members} {e : Error} (hfound : RouteTable.find? routes name = some route)
    (hentry : Route.firstRule? route = some (.object members)) :
    RouteTable.Fails routes ⟨.patch ns name (guardPatch (.object members)), .error e⟩ := by
  obtain ⟨route', happly⟩ := Route.exists_chainPatch hentry
    (Route.promote (Route.snapshot (.object members)).chain forwardAuth)
  intro hserved
  have hanswer : RouteTable.Serves routes ⟨.patch ns name (guardPatch (.object members)), .error e⟩
      (RouteTable.answer (.patch ns name (guardPatch (.object members))) routes).2 := Prod.ext hserved.symm rfl
  cases (RouteTable.serves_patch hanswer hfound happly).1

/-- A route that an installation succeeds with has a name, and its first entry is missing or an object. -/
theorem Guards.wellFormed {guarded : Guarded} (hguards : Guards ns route steps (.ok guarded))
    (ht : Along RouteTable.Takes routes steps routes')
    (hfound : ∀ name, Route.name? route = some name → RouteTable.find? routes name = some route) :
    Route.name? route ≠ none ∧ ∀ entry, Route.firstRule? route = some entry → entry.members? ≠ none := by
  cases hguards with
  | noEntry hname hentry =>
    refine ⟨Option.ne_none_iff_exists'.mpr ⟨_, hname⟩, fun entry hentry' => ?_⟩
    cases hentry.symm.trans hentry'
  | already hname hentry hfirst =>
    refine ⟨Option.ne_none_iff_exists'.mpr ⟨_, hname⟩, fun entry hentry' hmembers => ?_⟩
    obtain rfl := Option.some.inj (hentry.symm.trans hentry')
    cases hfirst.symm.trans (isGuarded_of_no_members hmembers)
  | patched hname hentry hfirst =>
    refine ⟨Option.ne_none_iff_exists'.mpr ⟨_, hname⟩, fun entry hentry' hmembers => ?_⟩
    obtain rfl := Option.some.inj (hentry.symm.trans hentry')
    obtain ⟨after, hpatch, -⟩ := Program.along_cons.mp ht
    obtain ⟨e, he, -⟩ | ⟨-, target, target', htarget, happly, -⟩ := RouteTable.takes_patch hpatch
    · cases he
    · obtain rfl := Option.some.inj ((hfound _ hname).symm.trans htarget)
      obtain ⟨members, rfl⟩ := Route.members_of_chainPatch hentry happly
      cases hmembers

theorem cause_of_error {e : Error} (hends : (install ns session).Ends steps (.error e))
    (ht : Along RouteTable.Takes routes steps routes') (hnames : routes.NamesUnique) :
    (∃ step ∈ steps, RouteTable.Fails routes step) ∨
      ∃ route, RouteTable.ofSession? routes session = some route ∧
        (Route.name? route = none ∨ ∃ entry, Route.firstRule? route = some entry ∧ entry.members? = none) := by
  obtain ⟨found, asked, rest, hfind, rfl, h⟩ := install_ends hends
  obtain ⟨middle, hasked, hrest⟩ := Program.along_append.mp ht
  rcases h with ⟨e', rfl, -, -⟩ | ⟨-, -, he⟩ | ⟨route, rfl, hguards⟩
  · obtain ⟨step, hstep, hfails⟩ := fails_of_find_error hfind routes
    exact .inl ⟨step, List.mem_append_left _ hstep, hfails⟩
  · cases he
  · obtain ⟨rfl, hroute⟩ := find_takes_ok hfind hasked
    cases hguards with
    | nameless hname => exact .inr ⟨route, hroute, .inl hname⟩
    | @refused name entry _ hname hentry hfirst =>
      cases entry with
      | object members =>
        -- the patch would have applied, so the store has refused it
        have hfound := RouteTable.find?_of_ofSession? hnames hroute hname
        exact .inl ⟨_, List.mem_append_right _ (List.mem_singleton_self _), fails_of_refused hfound hentry⟩
      | _ => exact .inr ⟨route, hroute, .inr ⟨_, hentry, rfl⟩⟩

/-- An installation fails exactly if a call of the store fails, or the route that it finds has no name, or the
first entry of that route is no object. -/
theorem install_error_iff {r : Except Error Guarded} (hends : (install ns session).Ends steps r)
    (ht : Along RouteTable.Takes routes steps routes') (hnames : routes.NamesUnique) :
    (∃ e, r = .error e) ↔ (∃ step ∈ steps, RouteTable.Fails routes step) ∨
      ∃ route, RouteTable.ofSession? routes session = some route ∧
        (Route.name? route = none ∨ ∃ entry, Route.firstRule? route = some entry ∧ entry.members? = none) := by
  constructor
  · rintro ⟨e, rfl⟩
    exact cause_of_error hends ht hnames
  · intro hcause
    rcases r with e | guarded
    · exact ⟨e, rfl⟩
    exfalso
    rcases hcause with ⟨step, hstep, hfails⟩ | ⟨route, hroute, hroute'⟩
    · exact install_not_fails hends ht step hstep hfails
    · obtain ⟨found, asked, rest, hfind, rfl, h⟩ := install_ends hends
      obtain ⟨middle, hasked, hrest⟩ := Program.along_append.mp ht
      rcases h with ⟨e', -, -, he⟩ | ⟨rfl, -, -⟩ | ⟨found, rfl, hguards⟩
      · cases he
      · cases hroute.symm.trans (find_takes_ok hfind hasked).2
      · obtain ⟨rfl, hfound⟩ := find_takes_ok hfind hasked
        obtain rfl := Option.some.inj (hroute.symm.trans hfound)
        obtain ⟨hnamed, hobject⟩ := hguards.wellFormed hrest
          fun name hname => RouteTable.find?_of_ofSession? hnames hroute hname
        rcases hroute' with hname | ⟨entry, hentry, hmembers⟩
        · exact hnamed hname
        · exact hobject entry hentry hmembers

end RouteGuard

/-! ## Both operations -/

/-- Whatever its calls are answered, as long as a patch takes effect exactly if it reports success, an
installation or a restoration sends one patch at most, of one operation at the chain of the first entry. It
changes that chain of one route at most, and if it fails it changes nothing. An installation on routes with
unique names fails exactly if a call of the store failed, or the route that was found has no name, or the
first entry of that route is there and is no object. -/
theorem operations_footprint (ns session name : String) (snapshot : Route.Snapshot) (routes routes' : RouteTable)
    (steps : List (Step routeAccess)) :
    (∀ r, (RouteGuard.install ns session).Ends steps r → Along RouteTable.Atomic routes steps routes' →
      Footprint routes steps routes' ∧ ((∃ e, r = .error e) → routes' = routes)) ∧
    (∀ r, (RouteGuard.restore ns name snapshot).Ends steps r → Along RouteTable.Atomic routes steps routes' →
      Footprint routes steps routes' ∧ ((∃ e, r = .error e) → routes' = routes)) ∧
    ∀ r, (RouteGuard.install ns session).Ends steps r → Along RouteTable.Takes routes steps routes' →
      routes.NamesUnique →
      ((∃ e, r = .error e) ↔ (∃ step ∈ steps, RouteTable.Fails routes step) ∨
        ∃ route, RouteTable.ofSession? routes session = some route ∧
          (Route.name? route = none ∨
            ∃ entry, Route.firstRule? route = some entry ∧ entry.members? = none)) := by
  refine ⟨?_, ?_, ?_⟩
  · intro r hends hatomic
    exact (RouteGuard.install_writesOnce hends).footprint hatomic
  · intro r hends hatomic
    exact (RouteGuard.restore_writesOnce hends).footprint hatomic
  · intro r hends ht hnames
    exact RouteGuard.install_error_iff hends ht hnames

theorem along_limited (guarded guarded' : Bool) : Along RouteTable.Takes (limitedTable guarded)
    [limitedRead guarded, limitedWrite guarded' (.ok ())] (limitedTable guarded') :=
  .cons (takes_limitedRead guarded) (.cons (takes_limitedWrite guarded guarded') (.nil _))

/-- The route with one middleware is guarded, and put back: no call has failed. -/
theorem operations_footprint_limited :
    Footprint (limitedTable false) [limitedRead false, limitedWrite true (.ok ())] (limitedTable true) ∧
      Footprint (limitedTable true) [limitedRead true, limitedWrite false (.ok ())] (limitedTable false) ∧
      ∀ step ∈ [limitedRead false, limitedWrite true (.ok ())], ¬ RouteTable.Fails (limitedTable false) step := by
  have hatomic := fun guarded guarded' => (along_limited guarded guarded').imp fun _ _ _ => RouteTable.Takes.atomic
  obtain ⟨hinstall, -, herror⟩ := operations_footprint "default" "abc" (Session.ingressName "abc") .absent
    (limitedTable false) (limitedTable true) [limitedRead false, limitedWrite true (.ok ())]
  obtain ⟨-, hrestore, -⟩ := operations_footprint "default" "abc" (Session.ingressName "abc")
    (.present (limitedChain false)) (limitedTable true) (limitedTable false)
    [limitedRead true, limitedWrite false (.ok ())]
  refine ⟨(hinstall _ install_limited (hatomic false true)).1,
    (hrestore _ (restore_limited false true) (hatomic true false)).1, ?_⟩
  intro step hstep hfails
  obtain ⟨e, he⟩ := (herror _ install_limited (along_limited false true) (limitedTable_namesUnique false)).mpr
    (.inl ⟨step, hstep, hfails⟩)
  cases he

end SessionGate.Intercept
