import SessionGate.Proofs.Yaml.Field

/-! # Streams that convert as a whole

* `Node.Refused`: a value has a part, at any depth, that JSON cannot hold.
* `Node.toJson_isOk`: what is not refused converts.
* `documents_of_load`: the documents of a stream convert one by one, or not at all.
-/
namespace SessionGate.Yaml
set_option autoImplicit false
open Result (bind_eq_ok exists_error_iff map_eq_ok mapM_eq_ok mapM_isOk pure_eq_ok)

namespace Node

variable {key : Node} {written : String}

/-! ## Values that do not convert -/

/-- Strings, numbers and booleans. -/
inductive IsName : Node → Prop where
  | text (s : String) : IsName (.text s)
  | real (written : String) : IsName (.real written)
  | int (i : Int) : IsName (.int i)
  | bool (b : Bool) : IsName (.bool b)

theorem isName_iff : key.IsName ↔ ∃ name, key.key? = some name := by
  constructor
  · rintro (_ | _ | _ | _) <;> exact ⟨_, rfl⟩
  · rintro ⟨name, h⟩
    cases key with
    | text s => exact .text s
    | real written => exact .real written
    | int i => exact .int i
    | bool b => exact .bool b
    | _ => cases h

/-- A part of the value, at any depth, is one that JSON cannot hold. -/
inductive Refused : Node → Prop where
  | bad : Refused .bad
  | real {written : String} (h : Number.Double.ofLiteral? written = none) : Refused (.real written)
  | key {entries : List (Node × Node)} {entry : Node × Node} (hentry : entry ∈ entries) (h : ¬ entry.1.IsName) :
      Refused (.mapping entries)
  | item {items : List Node} {item : Node} (hitem : item ∈ items) (h : Refused item) : Refused (.sequence items)
  | value {entries : List (Node × Node)} {entry : Node × Node} (hentry : entry ∈ entries)
      (h : Refused entry.2) : Refused (.mapping entries)

theorem refused_real_iff : (Node.real written).Refused ↔ Number.Double.ofLiteral? written = none := by
  constructor
  · rintro ⟨⟩
    assumption
  · exact .real

theorem not_refused_sequence_iff {items : List Node} :
    ¬ (Node.sequence items).Refused ↔ ∀ item ∈ items, ¬ item.Refused := by
  constructor
  · exact fun h item hitem hrefused => h (.item hitem hrefused)
  · rintro h (_ | _ | _ | ⟨hitem, hrefused⟩ | _)
    exact h _ hitem hrefused

theorem not_refused_mapping_iff {entries : List (Node × Node)} :
    ¬ (Node.mapping entries).Refused ↔ ∀ entry ∈ entries, entry.1.IsName ∧ ¬ entry.2.Refused := by
  constructor
  · intro h entry hentry
    exact ⟨Classical.not_not.mp fun hkey => h (.key hentry hkey), fun hrefused => h (.value hentry hrefused)⟩
  · rintro h (_ | _ | ⟨hentry, hkey⟩ | _ | ⟨hentry, hrefused⟩)
    · exact hkey (h _ hentry).1
    · exact (h _ hentry).2 hrefused

theorem realToJson_isOk : (∃ json, realToJson written = .ok json) ↔ ¬ (Node.real written).Refused := by
  rw [refused_real_iff, realToJson]
  cases Number.Double.ofLiteral? written with
  | none => simp
  | some d => simp

mutual

theorem toJson_isOk : ∀ node : Node, (∃ json, node.toJson = .ok json) ↔ ¬ node.Refused
  | .null | .bool _ | .int _ | .text _ => by
    refine iff_of_true ⟨_, rfl⟩ ?_
    rintro ⟨⟩
  | .bad => iff_of_false (by rintro ⟨_, ⟨⟩⟩) (not_not_intro .bad)
  | .real written => realToJson_isOk
  | .sequence items => by
    rw [not_refused_sequence_iff, ← itemsToJson_isOk items, toJson]
    simp only [map_eq_ok]
    exact ⟨fun ⟨_, values, h, _⟩ => ⟨values, h⟩, fun ⟨values, h⟩ => ⟨_, values, h, rfl⟩⟩
  | .mapping entries => by
    rw [not_refused_mapping_iff, ← entriesToJson_isOk entries, toJson]
    simp only [map_eq_ok]
    exact ⟨fun ⟨_, pairs, h, _⟩ => ⟨pairs, h⟩, fun ⟨pairs, h⟩ => ⟨_, pairs, h, rfl⟩⟩

theorem itemsToJson_isOk : ∀ items : List Node,
    (∃ values, itemsToJson items = .ok values) ↔ ∀ item ∈ items, ¬ item.Refused
  | [] => by simp [itemsToJson]
  | item :: items => by
    rw [List.forall_mem_cons, ← toJson_isOk item, ← itemsToJson_isOk items, itemsToJson]
    simp only [bind_eq_ok, pure_eq_ok]
    constructor
    · rintro ⟨_, json, hjson, values, hvalues, rfl⟩
      exact ⟨⟨json, hjson⟩, values, hvalues⟩
    · rintro ⟨⟨json, hjson⟩, values, hvalues⟩
      exact ⟨_, json, hjson, values, hvalues, rfl⟩

theorem entriesToJson_isOk : ∀ entries : List (Node × Node),
    (∃ pairs, entriesToJson entries = .ok pairs) ↔ ∀ entry ∈ entries, entry.1.IsName ∧ ¬ entry.2.Refused
  | [] => by simp [entriesToJson]
  | (key, value) :: entries => by
    rw [List.forall_mem_cons, ← toJson_isOk value, ← entriesToJson_isOk entries, isName_iff, entriesToJson]
    cases key.key? with
    | none => simp [throw, throwThe, MonadExceptOf.throw]
    | some name =>
      simp only [bind_eq_ok, pure_eq_ok]
      constructor
      · rintro ⟨_, json, hjson, pairs, hpairs, rfl⟩
        exact ⟨⟨⟨name, rfl⟩, json, hjson⟩, pairs, hpairs⟩
      · rintro ⟨⟨-, json, hjson⟩, pairs, hpairs⟩
        exact ⟨_, json, hjson, pairs, hpairs, rfl⟩

end

end Node

/-! ## Documents -/

variable {text : String} {nodes : List Node}

/-- What is left out is what converts to null. -/
theorem documents_of_load (hload : load text = .ok nodes) :
    ((∃ failure, documents text = .error failure) ↔ ∃ node ∈ nodes, node.Refused) ∧
      ((∀ node ∈ nodes, ¬ node.Refused) → ∃ values,
        List.Forall₂ (fun node json => Node.toJson node = .ok json) nodes values ∧
          documents text = .ok (values.filter (!·.isNull))) := by
  have hconverts : (∀ node ∈ nodes, ¬ node.Refused) → ∃ values,
      List.Forall₂ (fun node json => Node.toJson node = .ok json) nodes values ∧
        documents text = .ok (values.filter (!·.isNull)) := by
    intro h
    obtain ⟨values, hvalues⟩ := mapM_isOk.mpr fun node hnode => (Node.toJson_isOk node).mpr (h node hnode)
    exact ⟨values, mapM_eq_ok.mp hvalues, documents_eq_ok.mpr ⟨nodes, values, hload, hvalues, rfl⟩⟩
  refine ⟨?_, hconverts⟩
  rw [exists_error_iff]
  constructor
  · intro hfails
    by_contra hnone
    obtain ⟨values, -, hdocuments⟩ := hconverts fun node hnode hrefused => hnone ⟨node, hnode, hrefused⟩
    exact hfails ⟨_, hdocuments⟩
  · rintro ⟨node, hnode, hrefused⟩ ⟨values, hdocuments⟩
    obtain ⟨nodes', items, hload', hitems, -⟩ := documents_eq_ok.mp hdocuments
    obtain rfl := Except.ok.inj (hload.symm.trans hload')
    exact (Node.toJson_isOk node).mp (mapM_isOk.mp ⟨items, hitems⟩ node hnode) hrefused

end SessionGate.Yaml
