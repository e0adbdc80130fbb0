import SessionGate.Proofs.Json.Place
import SessionGate.Proofs.Program.Result
import SessionGate.Yaml.Document

/-! # Parts of values

* `Node.at?` and `Node.put?`: the part of a value at a place, and the value with another part there. Each undoes
  the other (`Node.at?_put?`).
* `Node.toJson_put?`: a value with another part converts to JSON if it did before, and differs there as well.
-/
namespace SessionGate.Yaml
set_option autoImplicit false
open Json (Members Pointer)
open Result (bind_eq_ok map_eq_ok pure_eq_ok)

/-- The entry that a name leads to is the last one whose key has it. -/
def lastNamed? (name : String) : List (Node × Node) → Option Nat
  | [] => none
  | (key, _) :: entries =>
    match lastNamed? name entries with
    | some i => some (i + 1)
    | none => if key.key? = some name then some 0 else none

namespace Node

def at? : Node → Pointer → Option Node
  | node, [] => some node
  | .sequence nodes, token :: place => do
    let i ← Pointer.index? token
    at? (← nodes[i]?) place
  | .mapping all, name :: place => do
    let i ← lastNamed? name all
    at? (← all[i]?).2 place
  | _, _ => none

def put? (leaf : Node) : Node → Pointer → Option Node
  | _, [] => some leaf
  | .sequence nodes, token :: place => do
    let i ← Pointer.index? token
    return .sequence (nodes.set i (← put? leaf (← nodes[i]?) place))
  | .mapping all, name :: place => do
    let i ← lastNamed? name all
    let entry ← all[i]?
    return .mapping (all.set i (entry.1, ← put? leaf entry.2 place))
  | _, _ => none

variable {node node' leaf old key child child' : Node} {nodes : List Node} {all : List (Node × Node)} {i : Nat}
  {name token : String} {place : Pointer} {document value value' : Json}

/-! ## One step down -/

theorem at?_cons : node.at? (token :: place) = some leaf ↔
    (∃ nodes i child, node = .sequence nodes ∧ Pointer.index? token = some i ∧ nodes[i]? = some child ∧
      child.at? place = some leaf) ∨
    (∃ all i key child, node = .mapping all ∧ lastNamed? token all = some i ∧ all[i]? = some (key, child) ∧
      child.at? place = some leaf) := by
  cases node with
  | sequence nodes => simp [at?, Option.bind_eq_some_iff]
  | mapping all => simp [at?, Option.bind_eq_some_iff]
  | _ => simp [at?]

theorem put?_sequence (hindex : Pointer.index? token = some i) (hchild : nodes[i]? = some child) :
    put? leaf (.sequence nodes) (token :: place) =
      (put? leaf child place).map fun child' => .sequence (nodes.set i child') := by
  simp only [put?, hindex, hchild, Option.bind_eq_bind, Option.bind_some]
  cases put? leaf child place with
  | none => rfl
  | some child' => rfl

theorem put?_mapping (hlast : lastNamed? name all = some i) (hentry : all[i]? = some (key, child)) :
    put? leaf (.mapping all) (name :: place) =
      (put? leaf child place).map fun child' => .mapping (all.set i (key, child')) := by
  simp only [put?, hlast, hentry, Option.bind_eq_bind, Option.bind_some]
  cases put? leaf child place with
  | none => rfl
  | some child' => rfl

theorem exists_of_lastNamed? (h : lastNamed? name all = some i) : ∃ entry, all[i]? = some entry := by
  induction all generalizing i with
  | nil => cases h
  | cons entry all ih =>
    rw [lastNamed?] at h
    split at h
    · next j hj =>
      obtain rfl := Option.some.inj h
      exact ih hj
    · split at h
      · obtain rfl := Option.some.inj h
        exact ⟨entry, rfl⟩
      · cases h

/-- The entries that names lead to depend on the keys alone. -/
theorem lastNamed?_set (hentry : all[i]? = some (key, child)) :
    lastNamed? name (all.set i (key, child')) = lastNamed? name all := by
  induction all generalizing i with
  | nil => cases hentry
  | cons entry all ih =>
    cases i with
    | zero =>
      obtain rfl := Option.some.inj hentry
      rfl
    | succ i =>
      rw [List.set_cons_succ, lastNamed?, lastNamed?, ih hentry]

theorem set_set_of_getElem? {α : Type} {as : List α} {a b : α} (h : as[i]? = some a) :
    (as.set i b).set i a = as := by
  obtain ⟨hlt, rfl⟩ := List.getElem?_eq_some_iff.mp h
  rw [List.set_set, List.set_getElem_self]

/-- The other part is there, and with the old part again the value is the old one. -/
theorem at?_put? (hat : node.at? place = some old) (hput : put? leaf node place = some node') :
    node'.at? place = some leaf ∧ put? old node' place = some node := by
  induction place generalizing node node' with
  | nil =>
    obtain rfl := Option.some.inj hat
    obtain rfl := Option.some.inj hput
    exact ⟨rfl, rfl⟩
  | cons token place ih =>
    rcases at?_cons.mp hat with
      ⟨nodes, i, child, rfl, hindex, hchild, hat⟩ | ⟨all, i, key, child, rfl, hlast, hentry, hat⟩
    · rw [put?_sequence hindex hchild] at hput
      obtain ⟨child', hchildPut, rfl⟩ := Option.map_eq_some_iff.mp hput
      obtain ⟨hleaf, hback⟩ := ih hat hchildPut
      have hchild' : (nodes.set i child')[i]? = some child' := by
        rw [List.getElem?_set_self (List.getElem?_eq_some_iff.mp hchild).1]
      refine ⟨at?_cons.mpr (.inl ⟨_, i, child', rfl, hindex, hchild', hleaf⟩), ?_⟩
      rw [put?_sequence hindex hchild', hback, Option.map_some, set_set_of_getElem? hchild]
    · rw [put?_mapping hlast hentry] at hput
      obtain ⟨child', hchildPut, rfl⟩ := Option.map_eq_some_iff.mp hput
      obtain ⟨hleaf, hback⟩ := ih hat hchildPut
      have hlast' : lastNamed? token (all.set i (key, child')) = some i := by rw [lastNamed?_set hentry, hlast]
      have hentry' : (all.set i (key, child'))[i]? = some (key, child') := by
        rw [List.getElem?_set_self (List.getElem?_eq_some_iff.mp hentry).1]
      refine ⟨at?_cons.mpr (.inr ⟨_, i, key, child', rfl, hlast', hentry', hleaf⟩), ?_⟩
      rw [put?_mapping hlast' hentry', hback, Option.map_some, set_set_of_getElem? hentry]

theorem exists_put? (hat : node.at? place = some old) (leaf : Node) : ∃ node', put? leaf node place = some node' := by
  induction place generalizing node with
  | nil => exact ⟨leaf, by rw [put?]⟩
  | cons token place ih =>
    rcases at?_cons.mp hat with
      ⟨nodes, i, child, rfl, hindex, hchild, hat⟩ | ⟨all, i, key, child, rfl, hlast, hentry, hat⟩
    · obtain ⟨child', hput⟩ := ih hat
      exact ⟨_, by rw [put?_sequence hindex hchild, hput, Option.map_some]⟩
    · obtain ⟨child', hput⟩ := ih hat
      exact ⟨_, by rw [put?_mapping hlast hentry, hput, Option.map_some]⟩

/-! ## JSON values -/

theorem itemsToJson_set {values : List Json} (h : itemsToJson nodes = .ok values) (hchild : nodes[i]? = some child) :
    ∃ c, child.toJson = .ok c ∧ values[i]? = some c ∧ ∀ {child' : Node} {c' : Json}, child'.toJson = .ok c' →
      itemsToJson (nodes.set i child') = .ok (values.set i c') := by
  induction nodes generalizing values i with
  | nil => cases hchild
  | cons first nodes ih =>
    simp only [itemsToJson, bind_eq_ok, pure_eq_ok] at h
    obtain ⟨value, hfirst, rest, hrest, rfl⟩ := h
    cases i with
    | zero =>
      obtain rfl := Option.some.inj hchild
      refine ⟨value, hfirst, rfl, fun {child' c'} hchild' => ?_⟩
      simp only [List.set_cons_zero, itemsToJson, bind_eq_ok, pure_eq_ok]
      exact ⟨c', hchild', rest, hrest, rfl⟩
    | succ i =>
      obtain ⟨c, hc, hi, hset⟩ := ih hrest hchild
      refine ⟨c, hc, hi, fun {child' c'} hchild' => ?_⟩
      simp only [List.set_cons_succ, itemsToJson, bind_eq_ok, pure_eq_ok]
      exact ⟨value, hfirst, _, hset hchild', rfl⟩

theorem names_of_entriesToJson {members : Members} (h : entriesToJson all = .ok members) :
    members.map (some ·.1) = all.map (·.1.key?) := by
  induction all generalizing members with
  | nil =>
    obtain rfl := Except.ok.inj h
    rfl
  | cons entry all ih =>
    obtain ⟨key, node⟩ := entry
    rw [entriesToJson] at h
    split at h
    · cases h
    · next name hname =>
      simp only [bind_eq_ok, pure_eq_ok] at h
      obtain ⟨value, -, rest, hrest, rfl⟩ := h
      rw [List.map_cons, List.map_cons, ih hrest, hname]

theorem key?_ne_of_lastNamed? (h : lastNamed? name all = none) : ∀ entry ∈ all, entry.1.key? ≠ some name := by
  induction all with
  | nil => simp
  | cons entry all ih =>
    rw [lastNamed?] at h
    split at h
    · cases h
    · next hrest =>
      split at h
      · cases h
      · next hkey => exact List.forall_mem_cons.mpr ⟨hkey, ih hrest⟩

/-- The members of an object come from the entries of a mapping, one from each, and behind the entry that a name
leads to the name does not occur. -/
theorem entriesToJson_set {members : Members} (h : entriesToJson all = .ok members)
    (hlast : lastNamed? name all = some i) (hentry : all[i]? = some (key, child)) :
    ∃ front later c, members = front ++ (name, c) :: later ∧ name ∉ later.map (·.1) ∧ child.toJson = .ok c ∧
      ∀ {child' : Node} {c' : Json}, child'.toJson = .ok c' →
        entriesToJson (all.set i (key, child')) = .ok (front ++ (name, c') :: later) := by
  induction all generalizing members i with
  | nil => cases hentry
  | cons entry all ih =>
    obtain ⟨key', node'⟩ := entry
    rw [entriesToJson] at h
    split at h
    · cases h
    · next name' hname' =>
      simp only [bind_eq_ok, pure_eq_ok] at h
      obtain ⟨value, hvalue, rest, hrest, rfl⟩ := h
      rw [lastNamed?] at hlast
      split at hlast
      · next j hj =>
        obtain rfl := Option.some.inj hlast
        obtain ⟨front, later, c, rfl, hlater, hc, hset⟩ := ih hrest hj hentry
        refine ⟨(name', value) :: front, later, c, rfl, hlater, hc, fun {child' c'} hchild' => ?_⟩
        rw [List.set_cons_succ, entriesToJson, hname']
        simp only [bind_eq_ok, pure_eq_ok]
        exact ⟨value, hvalue, _, hset hchild', rfl⟩
      · next hnone =>
        split at hlast
        · next hname =>
          obtain rfl := Option.some.inj hlast
          obtain ⟨rfl, rfl⟩ := Prod.mk.inj (Option.some.inj hentry)
          obtain rfl := Option.some.inj (hname.symm.trans hname')
          refine ⟨[], rest, value, rfl, fun hmem => ?_, hvalue, fun {child' c'} hchild' => ?_⟩
          -- a later member of the name would come from a later entry of the name
          · obtain ⟨member, hmember, rfl⟩ := List.mem_map.mp hmem
            have hkey : some member.1 ∈ all.map (·.1.key?) := by
              rw [← names_of_entriesToJson hrest]
              exact List.mem_map_of_mem hmember
            obtain ⟨entry, hentry, hsame⟩ := List.mem_map.mp hkey
            exact key?_ne_of_lastNamed? hnone entry hentry hsame
          · rw [List.set_cons_zero, entriesToJson, hname']
            simp only [bind_eq_ok, pure_eq_ok]
            exact ⟨c', hchild', rest, hrest, rfl⟩
        · cases hlast

/-- A value with another part converts if it did before, and what it becomes differs there as well. -/
theorem toJson_put? (hat : node.at? place = some old) (hput : put? leaf node place = some node')
    (hold : old.toJson = .ok value) (hleaf : leaf.toJson = .ok value') (hdocument : node.toJson = .ok document) :
    document.pointer? place = some value ∧ ∃ filled, node'.toJson = .ok filled ∧
      document.alter? (fun _ => some value') place = some filled := by
  induction place generalizing node node' document with
  | nil =>
    obtain rfl := Option.some.inj hat
    obtain rfl := Option.some.inj hput
    obtain rfl := Except.ok.inj (hold.symm.trans hdocument)
    exact ⟨rfl, value', hleaf, rfl⟩
  | cons token place ih =>
    rcases at?_cons.mp hat with
      ⟨nodes, i, child, rfl, hindex, hchild, hat⟩ | ⟨all, i, key, child, rfl, hlast, hentry, hat⟩
    · rw [put?_sequence hindex hchild] at hput
      obtain ⟨child', hchildPut, rfl⟩ := Option.map_eq_some_iff.mp hput
      obtain ⟨values, hvalues, rfl⟩ := map_eq_ok.mp hdocument
      obtain ⟨c, hc, hi, hset⟩ := itemsToJson_set hvalues hchild
      obtain ⟨hvalue, c', hc', halter⟩ := ih hat hchildPut hc
      have hitem : (Json.array values).child? token = some c := by rw [Json.child?, hindex, Option.bind_some, hi]
      have hput : (Json.array values).setChild? token c' = some (.array (values.set i c')) := by
        rw [Json.setChild?, hindex, Option.bind_some, if_pos (List.getElem?_eq_some_iff.mp hi).1]
      refine ⟨by rw [Json.pointer?, hitem, Option.bind_some, hvalue], _, map_eq_ok.mpr ⟨_, hset hc', rfl⟩, ?_⟩
      rw [Json.alter?, hitem, Option.bind_some, halter, Option.bind_some, hput]
    · rw [put?_mapping hlast hentry] at hput
      obtain ⟨child', hchildPut, rfl⟩ := Option.map_eq_some_iff.mp hput
      obtain ⟨members, hmembers, rfl⟩ := map_eq_ok.mp hdocument
      obtain ⟨front, later, c, rfl, hlater, hc, hset⟩ := entriesToJson_set hmembers hlast hentry
      obtain ⟨hvalue, c', hc', halter⟩ := ih hat hchildPut hc
      have hmember : (Json.ofMembers (front ++ (token, c) :: later)).child? token = some c :=
        Members.field?_ofMembers hlater
      refine ⟨by rw [Json.pointer?, hmember, Option.bind_some, hvalue], _, map_eq_ok.mpr ⟨_, hset hc', rfl⟩, ?_⟩
      rw [Json.alter?, hmember, Option.bind_some, halter, Option.bind_some, Members.setChild?_ofMembers hlater]

end Node
end SessionGate.Yaml
