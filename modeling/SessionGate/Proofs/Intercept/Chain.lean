import SessionGate.Intercept.RouteGuard
import SessionGate.Proofs.Json.Place

/-! # Chains put in and taken back

`withChain` gives an entry a chain, or takes its chain away. Where they apply, the patch of an installation
and the patch of a restoration are both changes of that form at the first entry of the route
(`alter?_of_chainPatch`, `alter?_of_restorePatch`), so the second leaves nothing of the first
(`withChain_present_bind`). On an entry whose chain is absent or an array it undoes the first
(`withChain_snapshot`). -/
namespace SessionGate.Intercept
set_option autoImplicit false
open Json (Members PatchOperation)

namespace Route

/-! ## Entries -/

theorem Snapshot.normal_of_ne {s : Snapshot} (h : s ≠ .present []) : s.normal = s := by
  cases s with
  | absent => rfl
  | present chain =>
    cases chain with
    | nil => exact absurd rfl h
    | cons item rest => rfl

theorem Snapshot.eq_of_normal {s : Snapshot} {chain : List Json} (h : s.normal = .present chain) :
    s = .present chain := by
  refine (normal_of_ne ?_).symm.trans h
  rintro rfl
  cases h

/-- Member of an entry that holds its chain. -/
def chainKey : String := "middlewares"

theorem index?_chainKey : Json.Pointer.index? chainKey = none := by decide

/-- An object whose chain is absent or an array. -/
def isPlain : Json → Bool
  | .object members =>
    match Members.get? members chainKey with
    | none | some (.array _) => true
    | some _ => false
  | _ => false

/-- The entry with its chain set, or taken away. -/
def withChain (target : Snapshot) : Json → Option Json
  | .object members =>
    match target with
    | .absent => some (.object (Members.erase chainKey members))
    | .present chain => some (.object (Members.set members chainKey (.array chain)))
  | _ => none

variable {entry entry' : Json} {members : Members}

/-- A plain entry has no chain, or the one that its snapshot shows. -/
theorem isPlain_cases (h : isPlain entry = true) : ∃ members, entry = .object members ∧
    (Members.get? members chainKey = none ∧ snapshot entry = .absent ∨
      ∃ chain, Members.get? members chainKey = some (.array chain) ∧
        snapshot entry = .present chain) := by
  cases entry with
  | object members =>
    refine ⟨members, rfl, ?_⟩
    have hfield : (Json.object members).field? "middlewares" = Members.get? members chainKey := rfl
    rw [isPlain] at h
    cases hm : Members.get? members chainKey with
    | none =>
      left
      rw [snapshot, hfield, hm]
      exact ⟨rfl, rfl⟩
    | some value =>
      rw [hm] at h
      cases value with
      | array chain =>
        right
        rw [snapshot, hfield, hm]
        exact ⟨chain, rfl, rfl⟩
      | _ => cases h
  | _ => cases h

/-- A plain entry has the chain of its snapshot. -/
theorem withChain_snapshot (h : isPlain entry = true) : withChain (snapshot entry) entry = some entry := by
  obtain ⟨members, rfl, ⟨hm, hs⟩ | ⟨chain, hm, hs⟩⟩ := isPlain_cases h
  · rw [hs, withChain, Members.erase_of_get? hm]
  · rw [hs, withChain, Members.set_of_get? hm]

/-- A chain that is put in leaves no trace once another one is put in or it is taken away. -/
theorem withChain_present_bind (chain : List Json) (target : Snapshot) (entry : Json) :
    (withChain (.present chain) entry).bind (withChain target) = withChain target entry := by
  cases entry with
  | object members =>
    cases target with
    | present chain' => simp [withChain, Members.set_set]
    | absent =>
      simp only [withChain, Option.bind_some]
      cases hm : Members.get? members chainKey with
      | none =>
        rw [Members.set_of_none hm, Members.erase_insertNew hm, Members.erase_of_get? hm]
      | some value => rw [Members.set_of_some hm, Members.erase_replace]
  | _ => rfl

/-- An entry shows which chain it has been given. -/
theorem withChain_injective {target target' : Snapshot} (h : withChain target entry = some entry')
    (h' : withChain target' entry = some entry') : target = target' := by
  cases entry with
  | object members =>
    cases target with
    | absent =>
      cases target' with
      | absent => rfl
      | present chain =>
        obtain rfl := Option.some.inj h
        exact absurd (Json.object.inj (Option.some.inj h')).symm Members.erase_ne_set
    | present chain =>
      obtain rfl := Option.some.inj h
      cases target' with
      | absent => exact absurd (Json.object.inj (Option.some.inj h')) Members.erase_ne_set
      | present chain' =>
        have hchain := congrArg (Members.get? · chainKey) (Json.object.inj (Option.some.inj h'))
        simp only [Members.get?_set_self] at hchain
        rw [Json.array.inj (Option.some.inj hchain)]
  | _ => cases h

/-- The other members of an entry stay. -/
theorem field?_withChain {target : Snapshot} {key : String} (h : withChain target entry = some entry')
    (hkey : key ≠ chainKey) : entry'.field? key = entry.field? key := by
  cases entry with
  | object members =>
    cases target with
    | absent =>
      obtain rfl := Option.some.inj h
      exact Members.get?_erase_ne hkey
    | present chain =>
      obtain rfl := Option.some.inj h
      exact Members.get?_set_ne hkey
  | _ => cases h

theorem snapshot_withChain_present {chain : List Json} (h : withChain (.present chain) entry = some entry') :
    snapshot entry' = .present chain := by
  cases entry with
  | object members =>
    obtain rfl := Option.some.inj h
    have hm : (Json.object (Members.set members chainKey (.array chain))).field? "middlewares" =
        some (.array chain) := Members.get?_set_self
    rw [snapshot, hm]
  | _ => cases h

/-! ## Patches of a route -/

variable {route route' : Json}

theorem applyTo?_single (op : PatchOperation) (value : Json) :
    Json.Patch.applyTo? [op] value = op.applyTo? value := by
  simp [Json.Patch.applyTo?]

theorem applyTo?_add (value : Json) : Json.Patch.applyTo? [.add chainPath value] route =
    route.alter? (PatchOperation.insertChild? chainKey value) entryPath := by
  rw [applyTo?_single]
  rfl

theorem applyTo?_remove : Json.Patch.applyTo? [.remove chainPath] route =
    route.alter? (PatchOperation.eraseChild? chainKey) entryPath := by
  rw [applyTo?_single]
  rfl

theorem applyTo?_replace (value : Json) : Json.Patch.applyTo? [.replace chainPath value] route =
    route.alter? (fun entry => entry.alter? (fun _ => some value) [chainKey]) entryPath := by
  rw [applyTo?_single]
  exact Json.alter?_append route entryPath [chainKey]

/-- A path that ends at the chain of an entry goes through an object. -/
theorem child?_chainKey {value : Json} (h : entry.child? chainKey = some value) :
    ∃ members, entry = .object members ∧ Members.get? members chainKey = some value := by
  cases entry with
  | object members => exact ⟨members, rfl, h⟩
  | array items => simp [Json.child?, index?_chainKey] at h
  | _ => cases h

theorem withChain_of_insertChild? {chain : List Json}
    (h : PatchOperation.insertChild? chainKey (.array chain) entry = some entry') :
    withChain (.present chain) entry = some entry' := by
  cases entry with
  | object members => exact h
  | array items =>
    have hlast : chainKey ≠ "-" := by decide
    simp [PatchOperation.insertChild?, index?_chainKey, hlast] at h
  | _ => cases h

theorem withChain_of_setChild? {chain : List Json}
    (h : entry.alter? (fun _ => some (.array chain)) [chainKey] = some entry') :
    withChain (.present chain) entry = some entry' := by
  obtain ⟨value, hvalue, h⟩ := Option.bind_eq_some_iff.mp h
  obtain ⟨members, rfl, hm⟩ := child?_chainKey hvalue
  simpa [Json.alter?, Json.setChild?, hm, withChain] using h

theorem withChain_of_eraseChild? (h : PatchOperation.eraseChild? chainKey entry = some entry') :
    withChain .absent entry = some entry' := by
  cases entry with
  | object members =>
    obtain ⟨value, -, h⟩ := Option.map_eq_some_iff.mp h
    exact congrArg some h
  | array items => simp [PatchOperation.eraseChild?, index?_chainKey] at h
  | _ => cases h

/-- Where the patch of an installation applies, it gives the first entry its chain, whatever chain the
patch was made for. -/
theorem alter?_of_chainPatch {before : Snapshot} {chain : List Json}
    (h : (RouteGuard.chainPatch before chain).applyTo? route = some route') :
    route.alter? (withChain (.present chain)) entryPath = some route' := by
  cases before with
  | absent =>
    rw [RouteGuard.chainPatch, applyTo?_add] at h
    exact Json.alter?_mono h fun _ _ => withChain_of_insertChild?
  | present old =>
    rw [RouteGuard.chainPatch, applyTo?_replace] at h
    exact Json.alter?_mono h fun _ _ => withChain_of_setChild?

/-- So does the patch of a restoration. -/
theorem alter?_of_restorePatch {target current : Snapshot} {patch : Json.Patch}
    (hpatch : RouteGuard.restorePatch? target current = some patch)
    (h : patch.applyTo? route = some route') :
    route.alter? (withChain target.normal) entryPath = some route' := by
  cases hn : target.normal with
  | absent =>
    cases current with
    | absent => simp only [RouteGuard.restorePatch?, hn, reduceCtorEq] at hpatch
    | present chain =>
      simp only [RouteGuard.restorePatch?, hn] at hpatch
      obtain rfl := Option.some.inj hpatch
      rw [applyTo?_remove] at h
      exact Json.alter?_mono h fun _ _ => withChain_of_eraseChild?
  | present chain =>
    cases current with
    | absent =>
      simp only [RouteGuard.restorePatch?, hn] at hpatch
      obtain rfl := Option.some.inj hpatch
      rw [applyTo?_add] at h
      exact Json.alter?_mono h fun _ _ => withChain_of_insertChild?
    | present old =>
      simp only [RouteGuard.restorePatch?, hn] at hpatch
      obtain rfl := Option.some.inj hpatch
      rw [applyTo?_replace] at h
      exact Json.alter?_mono h fun _ _ => withChain_of_setChild?

/-- There is something to restore unless no chain is there and none is wanted. -/
theorem restorePatch?_eq_none {target current : Snapshot} :
    RouteGuard.restorePatch? target current = none ↔ target.normal = .absent ∧ current = .absent := by
  cases hn : target.normal <;> cases current <;> simp [RouteGuard.restorePatch?, hn]

/-- What a restoration makes of a route after an installation. -/
theorem restoration_after_installation {before : Snapshot} {chain : List Json} (target : Snapshot)
    (hroute : (RouteGuard.chainPatch before chain).applyTo? route = some route') :
    ∃ entry', firstRule? route' = some entry' ∧
      ∀ route'', ((RouteGuard.restorePatch? target (snapshot entry')).map
          (·.applyTo? route')).getD (some route') = some route'' →
        route.alter? (withChain target.normal) entryPath = some route'' := by
  have halter := alter?_of_chainPatch hroute
  obtain ⟨entry, entry', hentry, hset, hentry'⟩ := Json.pointer?_alter? halter
  have hchain := snapshot_withChain_present hset
  refine ⟨entry', hentry', fun route'' hback => ?_⟩
  obtain ⟨patch, hpatch⟩ : ∃ patch, RouteGuard.restorePatch? target (snapshot entry') = some patch := by
    refine Option.ne_none_iff_exists'.mp fun hnone => ?_
    cases hchain.symm.trans (restorePatch?_eq_none.mp hnone).2
  rw [hpatch] at hback
  have hrestored := alter?_of_restorePatch hpatch hback
  rw [Json.alter?_alter? halter] at hrestored
  rw [← hrestored]
  exact Json.alter?_congr hentry (withChain_present_bind chain _ entry).symm

/-- The chain of the snapshot is the chain that is there, but for an empty one. -/
theorem alter?_withChain_normal (hentry : firstRule? route = some entry)
    (hplain : isPlain entry = true) (hne : snapshot entry ≠ .present []) :
    route.alter? (withChain (snapshot entry).normal) entryPath = some route := by
  rw [Snapshot.normal_of_ne hne]
  exact Json.alter?_of_fixed hentry (withChain_snapshot hplain)

/-- A change below `spec` leaves the name of a route alone. -/
theorem name?_alter? {f : Json → Option Json} (h : route.alter? f entryPath = some route') :
    name? route' = name? route := by
  obtain ⟨spec, hspec, h⟩ := Option.bind_eq_some_iff.mp h
  obtain ⟨spec', -, hset⟩ := Option.bind_eq_some_iff.mp h
  cases route with
  | object members =>
    have hmeta : route'.child? "metadata" = (Json.object members).child? "metadata" :=
      Json.child?_setChild?_ne hset (by decide)
    simp [name?, Json.pointer?, hmeta]
  | array items =>
    have hindex : Json.Pointer.index? "spec" = none := by decide
    simp [Json.child?, hindex] at hspec
  | _ => cases hspec

/-- A change of the chain leaves the match expression alone. -/
theorem serves_alter? {target : Snapshot} {session : String}
    (h : route.alter? (withChain target) entryPath = some route') :
    serves session route' = serves session route := by
  obtain ⟨entry, entry', hentry, hset, hentry'⟩ := Json.pointer?_alter? h
  have hmatch : entry'.field? "match" = entry.field? "match" := field?_withChain hset (by decide)
  rw [serves, serves, firstRule?, firstRule?, hentry, hentry', Option.bind_some, Option.bind_some, hmatch]

end Route
end SessionGate.Intercept
