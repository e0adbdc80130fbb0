import SessionGate.Proofs.Cluster.Manifest

/-! # A manifest agrees with its body

* `ofJson_eq_error`: a body that is no manifest fails for the first string that it lacks.
* `withoutNamespace?_withNamespace`: filling in the namespace changes nothing but the namespace.
* `ofJson_withNamespace`: with its namespace filled in, a body is the same manifest wherever it is read.
* `ofJson_consistent`: when a body is a manifest, and how the manifest agrees with it.
-/
namespace SessionGate.Cluster.Manifest
set_option autoImplicit false
open Json (Members PatchOperation)

variable {body : Json} {default name : String} {manifest : Manifest} {failure other : Error}

/-! ## Bodies that are no manifest -/

/-- The failure for the first required string that a body lacks. Without a name the kind is known. -/
inductive Lacks (body : Json) : Error → Prop
  | version (h : stringAt? body ["apiVersion"] = none) :
      Lacks body (.manifest "manifest missing apiVersion" none)
  | kind {apiVersion : String} (hversion : stringAt? body ["apiVersion"] = some apiVersion)
      (h : stringAt? body ["kind"] = none) : Lacks body (.manifest "manifest missing kind" none)
  | name {apiVersion kind : String} (hversion : stringAt? body ["apiVersion"] = some apiVersion)
      (hkind : stringAt? body ["kind"] = some kind) (h : stringAt? body ["metadata", "name"] = none) :
      Lacks body (.manifest "manifest missing metadata.name" (some kind))

theorem Lacks.unique (h : Lacks body failure) (hother : Lacks body other) : failure = other := by
  cases h <;> cases hother <;> simp_all

theorem Lacks.error_iff (h : Lacks body other) :
    (.error other : Except Error Manifest) = .error failure ↔ Lacks body failure := by
  constructor
  · rintro ⟨⟩
    exact h
  · exact fun hfailure => congrArg _ (h.unique hfailure)

theorem ofJson_eq_error : ofJson body default = .error failure ↔ Lacks body failure := by
  rw [ofJson, stringField?_eq "apiVersion" (by decide), stringField?_eq "kind" (by decide)]
  cases hversion : stringAt? body ["apiVersion"] with
  | none => exact (Lacks.version hversion).error_iff
  | some apiVersion =>
    cases hkind : stringAt? body ["kind"] with
    | none => exact (Lacks.kind hversion hkind).error_iff
    | some kind =>
      cases hname : (body.pointer? ["metadata", "name"]).bind Json.string? with
      | none => exact (Lacks.name hversion hkind hname).error_iff
      | some name =>
        have hname : stringAt? body ["metadata", "name"] = some name := hname
        have hcomplete : ¬ Lacks body failure := by
          intro h
          cases h <;> simp_all
        cases (body.pointer? ["metadata", "namespace"]).bind Json.string? with
        | none => simp [hcomplete]
        | some ns => simp [hcomplete]

/-! ## The namespace that is filled in -/

/-- Metadata without the namespace. -/
def dropNamespace : Json → Json
  | .object metadata => .object (Members.erase "namespace" metadata)
  | metadata => metadata

/-- A body without its namespace, if it has metadata. -/
def withoutNamespace? (body : Json) : Option Json :=
  body.alter? (fun metadata => some (dropNamespace metadata)) ["metadata"]

theorem exists_withoutNamespace? (hname : stringAt? body ["metadata", "name"] = some name) :
    ∃ rest, withoutNamespace? body = some rest := by
  obtain ⟨metadata, hmetadata, -⟩ := metadata_withNamespace hname default
  exact Json.exists_alter? hmetadata rfl

theorem withoutNamespace?_withNamespace (hname : stringAt? body ["metadata", "name"] = some name) (ns : String) :
    withoutNamespace? (withNamespace body ns) = withoutNamespace? body := by
  obtain ⟨metadata, hmetadata, -⟩ := metadata_withNamespace hname ns
  rw [withoutNamespace?, Json.alter?_alter? (alter?_withNamespace hname ns)]
  refine Json.alter?_congr hmetadata ?_
  rw [PatchOperation.insertChild?, Option.bind_some, dropNamespace, dropNamespace, Members.erase_set]

/-- The strings that a manifest needs are not where its namespace goes. -/
theorem stringAt?_withNamespace (hname : stringAt? body ["metadata", "name"] = some name) (ns : String)
    {place : Json.Pointer} (hplace : place ∈ required) :
    stringAt? (withNamespace body ns) place = stringAt? body place := by
  have hbeside : ∀ place ∈ required, ¬ place <+: ["metadata"] ∧ ¬ namespacePath <+: place := by decide
  obtain ⟨habove, hbelow⟩ := hbeside place hplace
  rw [stringAt?, stringAt?, pointer?_withNamespace hname ns habove hbelow]

/-- The default of the second reading is not used, since the body has a namespace by then. -/
theorem ofJson_withNamespace (h : ofJson body default = .ok manifest)
    (hns : stringAt? body namespacePath = none) (other : String) :
    ofJson (withNamespace body default) other = .ok manifest := by
  obtain ⟨apiVersion, kind, name, hversion, hkind, hname, hmanifest⟩ := ofJson_eq_ok.mp h
  have hfilled : stringAt? (withNamespace body default) namespacePath = some default := by
    rw [stringAt?, namespace_withNamespace hname default]
    rfl
  have hkeep : ∀ place ∈ required, stringAt? (withNamespace body default) place = stringAt? body place :=
    fun _ hplace => stringAt?_withNamespace hname default hplace
  refine ofJson_eq_ok.mpr ⟨apiVersion, kind, name, ?_, ?_, ?_, ?_⟩
  · rw [hkeep _ (by decide), hversion]
  · rw [hkeep _ (by decide), hkind]
  · rw [hkeep _ (by decide), hname]
  · rw [hmanifest, hns, hfilled]

/-! ## Agreement -/

/-- What a manifest says is what its own body says, and that body is the given one but for the namespace. -/
structure Consistent (body : Json) (default : String) (manifest : Manifest) : Prop where
  version : stringAt? body ["apiVersion"] = some manifest.resource.apiVersion
  kind : stringAt? body ["kind"] = some manifest.resource.kind
  name : stringAt? body ["metadata", "name"] = some manifest.name
  chosen : manifest.namespaceName = (stringAt? body namespacePath).getD default
  written : stringAt? manifest.body namespacePath = some manifest.namespaceName
  own : ∀ ns, stringAt? body namespacePath = some ns → manifest.body = body
  beside : ∃ rest, withoutNamespace? body = some rest ∧ withoutNamespace? manifest.body = some rest
  again : ∀ other, ofJson manifest.body other = .ok manifest

theorem Consistent.of_ofJson (h : ofJson body default = .ok manifest) : Consistent body default manifest := by
  obtain ⟨apiVersion, kind, name, hversion, hkind, hname, hmanifest⟩ := ofJson_eq_ok.mp h
  obtain ⟨rest, hrest⟩ := exists_withoutNamespace? hname
  cases hns : stringAt? body namespacePath with
  | some ns =>
    rw [hns] at hmanifest
    have hagain : ∀ other, ofJson body other = .ok manifest := fun other =>
      ofJson_eq_ok.mpr ⟨apiVersion, kind, name, hversion, hkind, hname, by rw [hmanifest, hns]⟩
    subst hmanifest
    exact ⟨hversion, hkind, hname, by rw [hns]; rfl, hns, fun _ _ => rfl, ⟨rest, hrest, hrest⟩, hagain⟩
  | none =>
    have hagain := ofJson_withNamespace h hns
    rw [hns] at hmanifest
    subst hmanifest
    have hwritten : stringAt? (withNamespace body default) namespacePath = some default := by
      rw [stringAt?, namespace_withNamespace hname default]
      rfl
    have hbeside := withoutNamespace?_withNamespace hname default
    exact ⟨hversion, hkind, hname, by rw [hns]; rfl, hwritten, by simp [hns],
      ⟨rest, hrest, hbeside.trans hrest⟩, hagain⟩

theorem ofJson_consistent (body : Json) (default : String) :
    ((∃ manifest, ofJson body default = .ok manifest) ↔
        ∀ place ∈ required, ∃ s, stringAt? body place = some s) ∧
      (∀ failure, ofJson body default = .error failure ↔ Lacks body failure) ∧
      ∀ manifest, ofJson body default = .ok manifest → Consistent body default manifest :=
  ⟨ofJson_iff, fun _ => ofJson_eq_error, fun _ => Consistent.of_ofJson⟩

/-- A body whose namespace is a number. -/
def numbered : Json :=
  .object [("apiVersion", .string "v1"), ("kind", .string "Pod"),
    ("metadata", .object [("name", .string "a"), ("namespace", .int 7)])]

theorem ofJson_consistent_numbered :
    ∃ manifest, ofJson numbered "teams" = .ok manifest ∧ Consistent numbered "teams" manifest := by
  have hread : ofJson numbered "teams" =
      .ok ⟨withNamespace numbered "teams", "a", "teams", Resource.of "v1" "Pod"⟩ := by decide +kernel
  exact ⟨_, hread, (ofJson_consistent numbered "teams").2.2 _ hread⟩

end SessionGate.Cluster.Manifest
