import SessionGate.Proofs.Intercept.Guard
import SessionGate.Proofs.Json.Beside

/-! # Where the patches of a chain apply, and what they leave alone

* `Route.Rechained`: the chain of the first entry is the only difference. What lies beside it is the same
  (`Rechained.pointer?_beside`).
* `exists_chainPatch`, `exists_restorePatch`: a patch that was made from an entry applies to it, if the
  entry is an object. To any other value no patch of a chain applies (`members_of_chainPatch`).
* `RouteTable.replaceFirst_eq`: a table with a route replaced, cut at that route.
-/
namespace SessionGate.Intercept
set_option autoImplicit false
open Json (Members PatchOperation Pointer)

namespace Route

variable {route route' entry entry' : Json} {members : Members} {target before : Snapshot} {chain : List Json}

/-! ## Entries -/

theorem field?_of_snapshot (h : snapshot entry = .present chain) :
    entry.field? chainKey = some (.array chain) := by
  rw [snapshot] at h
  split at h
  · next list hfield =>
    obtain rfl := Snapshot.present.inj h
    exact hfield
  · cases h

theorem snapshot_of_field? (h : entry.field? chainKey = none) : snapshot entry = .absent := by
  have hfield : entry.field? "middlewares" = none := h
  rw [snapshot, hfield]

/-- Only an object has a chain to be changed, and it stays an object. -/
theorem objects_of_withChain (h : withChain target entry = some entry') :
    (∃ members, entry = .object members) ∧ ∃ members', entry' = .object members' := by
  cases entry with
  | object members =>
    refine ⟨⟨members, rfl⟩, ?_⟩
    cases target with
    | absent => exact ⟨_, (Option.some.inj h).symm⟩
    | present chain => exact ⟨_, (Option.some.inj h).symm⟩
  | _ => cases h

theorem field?_withChain_absent (hmembers : members.Distinct)
    (h : withChain .absent (.object members) = some entry') : entry'.field? chainKey = none := by
  obtain rfl := Option.some.inj h
  exact Members.get?_erase_self hmembers

theorem snapshot_withChain (hmembers : members.Distinct) (h : withChain target (.object members) = some entry') :
    snapshot entry' = target := by
  cases target with
  | present chain => exact snapshot_withChain_present h
  | absent => exact snapshot_of_field? (field?_withChain_absent hmembers h)

/-! ## Routes that differ in the chain -/

/-- Nothing but the chain of the first entry is different. -/
def Rechained (route route' : Json) : Prop :=
  route' = route ∨ ∃ target, route.alter? (withChain target) entryPath = some route'

theorem pointer?_withChain (h : route.alter? (withChain target) entryPath = some route') {place : Pointer}
    (hbelow : ¬ chainPath <+: place) (habove : ¬ place <+: chainPath) :
    route'.pointer? place = route.pointer? place := by
  have hentryPath : entryPath <+: chainPath := ⟨[chainKey], rfl⟩
  by_cases hplace : entryPath <+: place
  -- inside the entry, one member at most has changed
  · obtain ⟨rest, rfl⟩ := hplace
    obtain ⟨entry, entry', hentry, hset, hentry'⟩ := Json.pointer?_alter? h
    rw [Json.pointer?_append, Json.pointer?_append, hentry, hentry', Option.bind_some, Option.bind_some]
    cases rest with
    | nil => exact absurd (by rwa [List.append_nil]) habove
    | cons key rest =>
      have hkey : key ≠ chainKey := by
        rintro rfl
        exact hbelow ⟨rest, List.append_assoc entryPath [chainKey] rest⟩
      obtain ⟨⟨members, rfl⟩, members', rfl⟩ := objects_of_withChain hset
      have hfield : (Json.object members').child? key = (Json.object members).child? key :=
        field?_withChain hset hkey
      rw [Json.pointer?, Json.pointer?, hfield]
  · exact Json.pointer?_alter?_beside h hplace fun hplaceAbove => habove (hplaceAbove.trans hentryPath)

/-- What neither holds the chain nor lies in it is the same. -/
theorem Rechained.pointer?_beside (h : Rechained route route') {place : Pointer}
    (hbelow : ¬ chainPath <+: place) (habove : ¬ place <+: chainPath) :
    route'.pointer? place = route.pointer? place := by
  rcases h with rfl | ⟨target, h⟩
  · rfl
  · exact pointer?_withChain h hbelow habove

/-! ## Patches that apply -/

theorem exists_add (hentry : firstRule? route = some (.object members)) (chain : List Json) :
    ∃ route', Json.Patch.applyTo? [.add chainPath (.array chain)] route = some route' := by
  rw [applyTo?_add]
  exact Json.exists_alter? hentry rfl

theorem exists_replace (hentry : firstRule? route = some entry) (hchain : snapshot entry = .present chain)
    (chain' : List Json) :
    ∃ route', Json.Patch.applyTo? [.replace chainPath (.array chain')] route = some route' := by
  rw [applyTo?_replace]
  have hfield := field?_of_snapshot hchain
  cases entry with
  | object members =>
    have hchild : (Json.object members).child? chainKey = some (.array chain) := hfield
    obtain ⟨entry', hset⟩ := Json.exists_setChild? hchild (.array chain')
    exact Json.exists_alter? hentry (by rw [Json.alter?, hchild, Option.bind_some, Json.alter?, Option.bind_some, hset])
  | _ => cases hfield

theorem exists_remove (hentry : firstRule? route = some entry) (hchain : snapshot entry = .present chain) :
    ∃ route', Json.Patch.applyTo? [.remove chainPath] route = some route' := by
  rw [applyTo?_remove]
  have hfield := field?_of_snapshot hchain
  cases entry with
  | object members =>
    have hmember : Members.get? members chainKey = some (.array chain) := hfield
    exact Json.exists_alter? hentry (by rw [PatchOperation.eraseChild?, hmember, Option.map_some])
  | _ => cases hfield

/-- The patch of an installation applies to the entry that it was made from. -/
theorem exists_chainPatch (hentry : firstRule? route = some (.object members)) (chain : List Json) :
    ∃ route', (RouteGuard.chainPatch (snapshot (.object members)) chain).applyTo? route = some route' := by
  cases hbefore : snapshot (.object members) with
  | absent => exact exists_add hentry chain
  | present old => exact exists_replace hentry hbefore chain

theorem exists_restorePatch {patch : Json.Patch} (hentry : firstRule? route = some (.object members))
    (hpatch : RouteGuard.restorePatch? target (snapshot (.object members)) = some patch) :
    ∃ route', patch.applyTo? route = some route' := by
  cases hcurrent : snapshot (.object members) with
  | absent =>
    cases hn : target.normal with
    | absent => simp only [RouteGuard.restorePatch?, hn, hcurrent, reduceCtorEq] at hpatch
    | present chain =>
      simp only [RouteGuard.restorePatch?, hn, hcurrent] at hpatch
      obtain rfl := Option.some.inj hpatch
      exact exists_add hentry chain
  | present old =>
    cases hn : target.normal with
    | absent =>
      simp only [RouteGuard.restorePatch?, hn, hcurrent] at hpatch
      obtain rfl := Option.some.inj hpatch
      exact exists_remove hentry hcurrent
    | present chain =>
      simp only [RouteGuard.restorePatch?, hn, hcurrent] at hpatch
      obtain rfl := Option.some.inj hpatch
      exact exists_replace hentry hcurrent chain

/-- The patch of an installation applies to objects only. -/
theorem members_of_chainPatch (hentry : firstRule? route = some entry)
    (h : (RouteGuard.chainPatch before chain).applyTo? route = some route') :
    ∃ members, entry = .object members := by
  obtain ⟨first, first', hfirst, hset, -⟩ := Json.pointer?_alter? (alter?_of_chainPatch h)
  obtain rfl := Option.some.inj (hentry.symm.trans hfirst)
  exact (objects_of_withChain hset).1

end Route

namespace RouteTable

variable {routes : RouteTable} {name : String} {route : Json}

/-! ## Tables with one route replaced -/

/-- A route that is replaced stands between the same routes as before. -/
theorem replaceFirst_eq (h : find? routes name = some route) : ∃ front back, routes = front ++ route :: back ∧
    ∀ route', replaceFirst name route' routes = front ++ route' :: back := by
  induction routes with
  | nil => cases h
  | cons r rest ih =>
    rw [find?_cons] at h
    split at h
    · next hr =>
      obtain rfl := Option.some.inj h
      exact ⟨[], rest, rfl, fun route' => by rw [replaceFirst, if_pos hr]; rfl⟩
    · next hr =>
      obtain ⟨front, back, rfl, hreplace⟩ := ih h
      exact ⟨r :: front, back, rfl, fun route' => by rw [replaceFirst, if_neg hr, hreplace]; rfl⟩

/-- The route of a session is the one that is found under its name. -/
theorem find?_of_ofSession? {session : String} (hnames : NamesUnique routes)
    (h : ofSession? routes session = some route) (hname : Route.name? route = some name) :
    find? routes name = some route := by
  refine find?_of_mem hnames ?_ hname
  rw [ofSession?, Option.or_eq_some_iff] at h
  rcases h with h | ⟨-, h⟩
  · exact mem_of_find? h
  · exact List.mem_of_find?_eq_some h

/-- A session's route is found again in its place, if it keeps its name and its expression. -/
theorem ofSession?_replaceFirst {session : String} {route' : Json} (hfind : find? routes name = some route)
    (h : ofSession? routes session = some route) (hname : Route.name? route' = Route.name? route)
    (hserves : Route.serves session route' = Route.serves session route) :
    ofSession? (replaceFirst name route' routes) session = some route' := by
  have hnamed : (Route.name? route' == some (Session.ingressName session)) =
      (Route.name? route == some (Session.ingressName session)) := by rw [hname]
  rw [ofSession?, Option.or_eq_some_iff] at h
  rcases h with hown | ⟨hnone, hserving⟩
  · have hfound : find? (replaceFirst name route' routes) (Session.ingressName session) = some route' :=
      find?_replaceFirst_of_some hfind hnamed hown
    rw [ofSession?, hfound, Option.some_or]
  · have hnotFound : find? (replaceFirst name route' routes) (Session.ingressName session) = none :=
      find?_replaceFirst_of_none hfind hnamed hnone
    rw [ofSession?, hnotFound, Option.none_or]
    exact find?_replaceFirst_of_some hfind hserves hserving

end RouteTable
end SessionGate.Intercept
