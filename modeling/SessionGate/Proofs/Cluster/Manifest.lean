import SessionGate.Cluster.Manifest
import SessionGate.Proofs.Json.Beside

/-! # Which fields a manifest needs, and which it keeps

* `ofJson_iff`: a body is a manifest if it has strings at three places, which `required` lists.
* `pointer?_body`: a scalar of the body stays in its field, unless it stands where the manifest has its
  namespace.
* `ofJson_filled`: what depends on a scalar being a string.
-/
namespace SessionGate.Cluster.Manifest
set_option autoImplicit false
open Json (Members Pointer PatchOperation)

/-- The places where a manifest has strings. -/
def required : List Pointer := [["apiVersion"], ["kind"], ["metadata", "name"]]

def namespacePath : Pointer := ["metadata", "namespace"]

/-- The string at a place. -/
def stringAt? (body : Json) (place : Pointer) : Option String := (body.pointer? place).bind Json.string?

variable {body filled value : Json} {default : String} {manifest : Manifest} {place other : Pointer}

/-! ## Places that are needed -/

theorem stringField?_eq (key : String) (hkey : Pointer.index? key = none) (body : Json) :
    body.stringField? key = stringAt? body [key] := by
  cases body with
  | object members =>
    rw [Json.stringField?, stringAt?, Json.pointer?]
    cases h : Members.get? members key with
    | none => simp [Json.field?, Json.child?, h]
    | some value => simp [Json.field?, Json.child?, h, Json.pointer?]
  | array items => simp [Json.stringField?, stringAt?, Json.field?, Json.pointer?, Json.child?, hkey]
  | _ => rfl

theorem ofJson_eq_ok : ofJson body default = .ok manifest ↔ ∃ apiVersion kind name,
    stringAt? body ["apiVersion"] = some apiVersion ∧ stringAt? body ["kind"] = some kind ∧
      stringAt? body ["metadata", "name"] = some name ∧
      manifest = match stringAt? body namespacePath with
        | some ns => ⟨body, name, ns, Resource.of apiVersion kind⟩
        | none => ⟨withNamespace body default, name, default, Resource.of apiVersion kind⟩ := by
  rw [← stringField?_eq "apiVersion" (by decide), ← stringField?_eq "kind" (by decide), ofJson]
  cases body.stringField? "apiVersion" with
  | none => simp
  | some apiVersion =>
    cases body.stringField? "kind" with
    | none => simp
    | some kind =>
      have hname : stringAt? body ["metadata", "name"] = (body.pointer? ["metadata", "name"]).bind Json.string? := rfl
      have hns : stringAt? body namespacePath = (body.pointer? ["metadata", "namespace"]).bind Json.string? := rfl
      rw [hname, hns]
      cases (body.pointer? ["metadata", "name"]).bind Json.string? with
      | none => simp
      | some name =>
        cases (body.pointer? ["metadata", "namespace"]).bind Json.string? with
        | none => simp [eq_comm]
        | some ns => simp [eq_comm]

theorem ofJson_iff : (∃ manifest, ofJson body default = .ok manifest) ↔
    ∀ place ∈ required, ∃ s, stringAt? body place = some s := by
  constructor
  · rintro ⟨manifest, h⟩
    obtain ⟨apiVersion, kind, name, hversion, hkind, hname, -⟩ := ofJson_eq_ok.mp h
    intro place hplace
    simp only [required, List.mem_cons, List.not_mem_nil, or_false] at hplace
    rcases hplace with rfl | rfl | rfl
    · exact ⟨apiVersion, hversion⟩
    · exact ⟨kind, hkind⟩
    · exact ⟨name, hname⟩
  · intro h
    obtain ⟨apiVersion, hversion⟩ := h ["apiVersion"] (by simp [required])
    obtain ⟨kind, hkind⟩ := h ["kind"] (by simp [required])
    obtain ⟨name, hname⟩ := h ["metadata", "name"] (by simp [required])
    exact ⟨_, ofJson_eq_ok.mpr ⟨apiVersion, kind, name, hversion, hkind, hname, rfl⟩⟩

/-! ## Fields that stay -/

/-- A body with a name has metadata of its own, and the namespace goes into them. -/
theorem alter?_withNamespace {name : String} (hname : stringAt? body ["metadata", "name"] = some name)
    (ns : String) : body.alter? (PatchOperation.insertChild? "namespace" (.string ns)) ["metadata"] =
      some (withNamespace body ns) := by
  have hindex : Pointer.index? "metadata" = none ∧ Pointer.index? "name" = none := by decide
  obtain ⟨value, hvalue, -⟩ := Option.bind_eq_some_iff.mp hname
  obtain ⟨inner, hinner, hchild⟩ := Option.bind_eq_some_iff.mp hvalue
  cases body with
  | object members =>
    have hget : Members.get? members "metadata" = some inner := hinner
    cases inner with
    | object metadata =>
      simp [Json.alter?, Json.child?, hget, PatchOperation.insertChild?, Json.setChild?, withNamespace, Json.field?]
    | array items => simp [Json.pointer?, Json.child?, hindex] at hchild
    | _ => cases hchild
  | array items => simp [Json.child?, hindex] at hinner
  | _ => cases hinner

/-- A value without parts. -/
def IsScalar (value : Json) : Prop := ∀ token, value.child? token = none

theorem IsScalar.pointer?_below (h : IsScalar value) (hvalue : body.pointer? place = some value)
    (hbelow : place <+: other) (hne : other ≠ place) : body.pointer? other = none := by
  obtain ⟨rest, rfl⟩ := hbelow
  rw [Json.pointer?_append, hvalue, Option.bind_some]
  cases rest with
  | nil => exact absurd (List.append_nil place) hne
  | cons token rest => rw [Json.pointer?, h token, Option.bind_none]

/-- A value above another one has no string. -/
theorem stringAt?_above (hvalue : body.pointer? place = some value) (habove : other <+: place)
    (hne : other ≠ place) : stringAt? body other = none := by
  obtain ⟨rest, rfl⟩ := habove
  rw [Json.pointer?_append] at hvalue
  obtain ⟨outer, houter, hvalue⟩ := Option.bind_eq_some_iff.mp hvalue
  rw [stringAt?, houter, Option.bind_some]
  cases rest with
  | nil => exact absurd (List.append_nil other).symm hne
  | cons token rest =>
    cases outer with
    | string s => cases hvalue
    | _ => rfl

theorem object_of_insertChild? {child : Json} {key : String} (hindex : Pointer.index? key = none) (hkey : key ≠ "-")
    (h : PatchOperation.insertChild? key child body = some filled) :
    ∃ members, body = .object members ∧ filled = .object (Members.set members key child) := by
  cases body with
  | object members => exact ⟨members, rfl, (Option.some.inj h).symm⟩
  | array items => simp [PatchOperation.insertChild?, hindex, hkey] at h
  | _ => cases h

/-- The metadata of a body with a name stay as they are, but for the namespace. -/
theorem metadata_withNamespace {name : String} (hname : stringAt? body ["metadata", "name"] = some name)
    (ns : String) : ∃ metadata, body.pointer? ["metadata"] = some (.object metadata) ∧
      (withNamespace body ns).pointer? ["metadata"] =
        some (.object (Members.set metadata "namespace" (.string ns))) := by
  obtain ⟨inner, inner', hinner, hset, hinner'⟩ := Json.pointer?_alter? (alter?_withNamespace hname ns)
  obtain ⟨metadata, rfl, rfl⟩ := object_of_insertChild? (by decide) (by decide) hset
  exact ⟨metadata, hinner, hinner'⟩

theorem namespace_withNamespace {name : String} (hname : stringAt? body ["metadata", "name"] = some name)
    (ns : String) : (withNamespace body ns).pointer? namespacePath = some (.string ns) := by
  obtain ⟨metadata, -, hmetadata⟩ := metadata_withNamespace hname ns
  have hnamespace : namespacePath = ["metadata"] ++ ["namespace"] := rfl
  rw [hnamespace, Json.pointer?_append, hmetadata, Option.bind_some, Json.pointer?, Json.child?,
    Members.get?_set_self]
  rfl

/-- What is neither above the namespace nor below it stays. -/
theorem pointer?_withNamespace {name : String} (hname : stringAt? body ["metadata", "name"] = some name)
    (ns : String) (habove : ¬ place <+: ["metadata"]) (hbelow : ¬ namespacePath <+: place) :
    (withNamespace body ns).pointer? place = body.pointer? place := by
  by_cases hmetadata : ["metadata"] <+: place
  · obtain ⟨rest, rfl⟩ := hmetadata
    obtain ⟨metadata, hold, hnew⟩ := metadata_withNamespace hname ns
    rw [Json.pointer?_append, Json.pointer?_append, hold, hnew, Option.bind_some, Option.bind_some]
    cases rest with
    | nil => exact absurd (by simp) habove
    | cons key rest =>
      have hkey : key ≠ "namespace" := by
        rintro rfl
        exact hbelow ⟨rest, rfl⟩
      rw [Json.pointer?, Json.child?, Members.get?_set_ne hkey]
      rfl
  · exact Json.pointer?_alter?_beside (alter?_withNamespace hname ns) hmetadata habove

/-- The namespace of a body is no string, and this is its place, or one below it. -/
def GivesWay (body : Json) (place : Pointer) : Prop := stringAt? body namespacePath = none ∧ namespacePath <+: place

/-- A scalar stays in its field, unless it gives way to the namespace that the manifest has from elsewhere. -/
theorem pointer?_body (h : ofJson body default = .ok manifest) (hvalue : body.pointer? place = some value)
    (hscalar : IsScalar value) :
    (GivesWay body place → manifest.body.pointer? namespacePath = some (.string default)) ∧
      (¬ GivesWay body place → manifest.body.pointer? place = some value) := by
  obtain ⟨apiVersion, kind, name, -, -, hname, hmanifest⟩ := ofJson_eq_ok.mp h
  cases hns : stringAt? body namespacePath with
  | some ns =>
    rw [hns] at hmanifest
    subst hmanifest
    refine ⟨fun hgives => ?_, fun _ => hvalue⟩
    rw [hgives.1] at hns
    cases hns
  | none =>
    rw [hns] at hmanifest
    subst hmanifest
    refine ⟨fun _ => namespace_withNamespace hname default, fun hbeside => ?_⟩
    -- the metadata have a name, so they are no scalar
    have habove : ¬ place <+: ["metadata"] := by
      intro habove
      obtain ⟨found, hfound, -⟩ := Option.bind_eq_some_iff.mp hname
      have hmetadata : ["metadata"] <+: ["metadata", "name"] := ⟨["name"], rfl⟩
      have hshort := habove.length_le
      rw [hscalar.pointer?_below hvalue (habove.trans hmetadata) (by rintro rfl; simp at hshort)] at hfound
      cases hfound
    exact (pointer?_withNamespace hname default habove fun hbelow => hbeside ⟨hns, hbelow⟩).trans hvalue

/-! ## Scalars that are made strings -/

/-- With a string in the place of a scalar, every other place has the string that it had. -/
theorem stringAt?_filled {s : String} (hvalue : body.pointer? place = some value) (hscalar : IsScalar value)
    (hfilled : body.alter? (fun _ => some (.string s)) place = some filled) (other : Pointer) :
    stringAt? filled other = if other = place then some s else stringAt? body other := by
  obtain ⟨_, _, -, hset, hfield⟩ := Json.pointer?_alter? hfilled
  obtain rfl := Option.some.inj hset
  by_cases hsame : other = place
  · rw [if_pos hsame, hsame, stringAt?, hfield]
    rfl
  rw [if_neg hsame]
  by_cases hbelow : place <+: other
  · have hstring : IsScalar (.string s) := fun _ => rfl
    rw [stringAt?, stringAt?, hscalar.pointer?_below hvalue hbelow hsame,
      hstring.pointer?_below hfield hbelow hsame]
  by_cases habove : other <+: place
  · rw [stringAt?_above hfield habove hsame, stringAt?_above hvalue habove hsame]
  · rw [stringAt?, stringAt?, Json.pointer?_alter?_beside hfilled hbelow habove]

/-- A scalar keeps a body from being a manifest if it is no string in a place that needs one, and only then. -/
theorem ofJson_filled {s : String} (hvalue : body.pointer? place = some value) (hscalar : IsScalar value)
    (hfilled : body.alter? (fun _ => some (.string s)) place = some filled) :
    (∃ manifest, ofJson body default = .ok manifest) ↔ (∃ manifest, ofJson filled default = .ok manifest) ∧
      (place ∈ required → ∃ t, value = .string t) := by
  have hfield := stringAt?_filled hvalue hscalar hfilled
  have hhere : ∀ t, stringAt? body place = some t ↔ value = .string t := by
    intro t
    rw [stringAt?, hvalue, Option.bind_some]
    cases value <;> simp [Json.string?]
  rw [ofJson_iff, ofJson_iff]
  constructor
  · intro h
    refine ⟨fun other hother => ?_, fun hplace => ?_⟩
    · rw [hfield]
      split
      · exact ⟨s, rfl⟩
      · exact h other hother
    · obtain ⟨t, ht⟩ := h place hplace
      exact ⟨t, (hhere t).mp ht⟩
  · rintro ⟨h, hplace⟩ other hother
    by_cases hsame : other = place
    · subst hsame
      obtain ⟨t, ht⟩ := hplace hother
      exact ⟨t, (hhere t).mpr ht⟩
    · obtain ⟨t, ht⟩ := h other hother
      rw [hfield, if_neg hsame] at ht
      exact ⟨t, ht⟩

end SessionGate.Cluster.Manifest
