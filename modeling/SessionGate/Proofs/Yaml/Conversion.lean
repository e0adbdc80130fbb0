import Mathlib
import SessionGate.Proofs.Yaml.Field

/-! # What a conversion to JSON keeps

* `Node.Distinct`: the keys of each mapping differ, as they do in all that is loaded (`distinct_of_load`).
* `Node.SameKind`: keys of one kind with one name are one key (`eq_of_sameKind`).
* `Node.KeptAs`: what a value becomes, at every depth. A mapping has one member for each entry, unless keys of
  different kinds have one name.
* `Node.conversion_keeps`: a value that is loaded and converted is kept so. -/
namespace SessionGate.Yaml
set_option autoImplicit false
open Json (Members)
open Result (bind_eq_ok exists_of_mem_mapM getElem?_of_mapM length_of_mapM map_eq_ok pure_eq_ok toOption_eq_some)

namespace Node

variable {node key key' : Node} {nodes : List Node} {all sofar : List (Node × Node)} {pairs : Members} {json : Json}
  {anchors : Anchors} {pending : Option Node} {text : String}

/-! ## Keys that differ -/

/-- The keys of each mapping differ. -/
inductive Distinct : Node → Prop where
  | null : Distinct .null
  | bool (b : Bool) : Distinct (.bool b)
  | int (i : Int) : Distinct (.int i)
  | real (written : String) : Distinct (.real written)
  | text (s : String) : Distinct (.text s)
  | bad : Distinct .bad
  | sequence {items : List Node} (hitems : ∀ item ∈ items, Distinct item) : Distinct (.sequence items)
  | mapping {all : List (Node × Node)} (hkeys : all.Pairwise (·.1 ≠ ·.1))
      (hvalues : ∀ entry ∈ all, Distinct entry.2) : Distinct (.mapping all)

theorem distinct_ofScalar (tag : Option Tag) (style : Style) (written : String) :
    (ofScalar tag style written).Distinct := by
  have hplain : (ofPlain written).Distinct := by
    unfold ofPlain
    repeat' split
    all_goals constructor
  have htagged (tag : Tag) : (ofTagged tag written).Distinct := by
    unfold ofTagged
    repeat' split
    all_goals constructor
  cases style with
  | other => exact .text written
  | plain =>
    cases tag with
    | none => exact hplain
    | some tag => exact htagged tag

/-- What an alias may name. -/
def Anchors.Distinct (anchors : Anchors) : Prop := ∀ named ∈ anchors.values, named.2.Distinct

theorem Anchors.distinct_declare (h : anchors.Distinct) (name : Option String) :
    (anchors.declare name).2.Distinct := by
  cases name with
  | none => exact h
  | some name => exact h

theorem Anchors.distinct_complete (h : anchors.Distinct) (number : Option Nat) (hnode : node.Distinct) :
    (anchors.complete number node).Distinct := by
  cases number with
  | none => exact h
  | some n => exact List.forall_mem_cons.mpr ⟨hnode, h⟩

theorem Anchors.distinct_of_find {name : String} (h : anchors.Distinct) (hfind : anchors.find name = .ok node) :
    node.Distinct := by
  unfold Anchors.find at hfind
  split at hfind
  · cases hfind
  · next n hn =>
    obtain rfl := Except.ok.inj hfind
    cases hvalue : anchors.values.lookup n with
    | none => exact .bad
    | some value =>
      obtain ⟨front, rest, hvalues, -⟩ := List.lookup_eq_some_iff.mp hvalue
      exact h (n, value) (by simp [hvalues])

theorem pairwise_of_entries (hsofar : sofar.Pairwise (·.1 ≠ ·.1)) (h : entries pending sofar nodes = .ok all) :
    all.Pairwise (·.1 ≠ ·.1) ∧ ∀ entry ∈ all, entry ∈ sofar ∨ entry.2 ∈ nodes := by
  induction nodes generalizing pending sofar with
  | nil =>
    obtain rfl := Except.ok.inj h
    refine ⟨List.pairwise_reverse.mpr (hsofar.imp Ne.symm), fun entry hentry => ?_⟩
    exact .inl (List.mem_reverse.mp hentry)
  | cons node nodes ih =>
    cases pending with
    | none =>
      rw [entries] at h
      obtain ⟨hkeys, hall⟩ := ih hsofar h
      exact ⟨hkeys, fun entry hentry => (hall entry hentry).imp_right (List.mem_cons_of_mem node)⟩
    | some key =>
      rw [entries] at h
      split at h
      · cases h
      · next hnew =>
        have hkey : ∀ entry ∈ sofar, key ≠ entry.1 := by
          intro entry hentry heq
          exact hnew (List.any_eq_true.mpr ⟨entry, hentry, decide_eq_true heq.symm⟩)
        obtain ⟨hkeys, hall⟩ := ih (List.pairwise_cons.mpr ⟨hkey, hsofar⟩) h
        refine ⟨hkeys, fun entry hentry => ?_⟩
        rcases hall entry hentry with hold | hlater
        · rcases List.mem_cons.mp hold with rfl | hold
          · exact .inr List.mem_cons_self
          · exact .inl hold
        · exact .inr (List.mem_cons_of_mem node hlater)

mutual

theorem distinct_of_ofTree : ∀ {tree : Tree} {anchors anchors' : Anchors} {node : Node},
    anchors.Distinct → ofTree tree anchors = .ok (node, anchors') → node.Distinct ∧ anchors'.Distinct
  | .alias name, anchors, anchors', node, hanchors, h => by
    rw [ofTree] at h
    obtain ⟨named, hfind, heq⟩ := map_eq_ok.mp h
    obtain ⟨rfl, rfl⟩ := Prod.mk.inj heq
    exact ⟨Anchors.distinct_of_find hanchors hfind, hanchors⟩
  | .scalar own style written, anchors, anchors', node, hanchors, h => by
    obtain ⟨rfl, rfl⟩ := Prod.mk.inj (Except.ok.inj h)
    have hnode := distinct_ofScalar own.tag style written
    exact ⟨hnode, Anchors.distinct_complete (Anchors.distinct_declare hanchors _) _ hnode⟩
  | .sequence own trees, anchors, anchors', node, hanchors, h => by
    simp only [ofTree, bind_eq_ok, pure_eq_ok] at h
    obtain ⟨⟨items, after⟩, hitems, heq⟩ := h
    obtain ⟨rfl, rfl⟩ := Prod.mk.inj heq
    obtain ⟨hdistinct, hafter⟩ := distinct_of_ofTrees (Anchors.distinct_declare hanchors _) hitems
    exact ⟨.sequence hdistinct, Anchors.distinct_complete hafter _ (.sequence hdistinct)⟩
  | .mapping own trees, anchors, anchors', node, hanchors, h => by
    simp only [ofTree, bind_eq_ok, pure_eq_ok] at h
    obtain ⟨⟨parts, after⟩, hparts, all, hall, heq⟩ := h
    obtain ⟨rfl, rfl⟩ := Prod.mk.inj heq
    obtain ⟨hdistinct, hafter⟩ := distinct_of_ofTrees (Anchors.distinct_declare hanchors _) hparts
    obtain ⟨hkeys, hentries⟩ := pairwise_of_entries List.Pairwise.nil hall
    have hnode : (Node.mapping all).Distinct := by
      refine .mapping hkeys fun entry hentry => ?_
      rcases hentries entry hentry with hnil | hpart
      · cases hnil
      · exact hdistinct _ hpart
    exact ⟨hnode, Anchors.distinct_complete hafter _ hnode⟩

theorem distinct_of_ofTrees : ∀ {trees : List Tree} {anchors anchors' : Anchors} {nodes : List Node},
    anchors.Distinct → ofTrees trees anchors = .ok (nodes, anchors') →
      (∀ node ∈ nodes, node.Distinct) ∧ anchors'.Distinct
  | [], anchors, anchors', nodes, hanchors, h => by
    obtain ⟨rfl, rfl⟩ := Prod.mk.inj (Except.ok.inj h)
    exact ⟨List.forall_mem_nil _, hanchors⟩
  | tree :: trees, anchors, anchors', nodes, hanchors, h => by
    simp only [ofTrees, bind_eq_ok, pure_eq_ok] at h
    obtain ⟨⟨value, middle⟩, hvalue, ⟨values, last⟩, hvalues, heq⟩ := h
    obtain ⟨rfl, rfl⟩ := Prod.mk.inj heq
    obtain ⟨hfirst, hmiddle⟩ := distinct_of_ofTree hanchors hvalue
    obtain ⟨hrest, hlast⟩ := distinct_of_ofTrees hmiddle hvalues
    exact ⟨List.forall_mem_cons.mpr ⟨hfirst, hrest⟩, hlast⟩

end

theorem distinct_of_load (h : load text = .ok nodes) (hnode : node ∈ nodes) : node.Distinct := by
  simp only [load, bind_eq_ok] at h
  obtain ⟨tokens, -, trees, -, hnodes⟩ := h
  obtain ⟨tree, -, htree⟩ := exists_of_mem_mapM hnodes hnode
  obtain ⟨⟨value, after⟩, hof, rfl⟩ := map_eq_ok.mp htree
  have hanchors : Anchors.Distinct ⟨0, [], []⟩ := List.forall_mem_nil _
  exact (distinct_of_ofTree hanchors hof).1

/-! ## Names of keys -/

def SameKind : Node → Node → Prop
  | .text _, .text _ | .real _, .real _ | .int _, .int _ | .bool _, .bool _ => True
  | _, _ => False

theorem eq_of_sameKind (hkind : SameKind key key') (hname : key.key? = key'.key?) : key = key' := by
  cases key <;> cases key' <;> try exact hkind.elim
  case bool.bool a b =>
    cases a <;> cases b <;> simp [key?] at hname ⊢
  case int.int a b =>
    rw [Int.repr_injective (Option.some.inj hname)]
  case real.real a b =>
    rw [Option.some.inj hname]
  case text.text a b =>
    rw [Option.some.inj hname]

/-- Keys of different kinds with one name are the only ones that meet in one member. -/
def Apart (all : List (Node × Node)) : Prop :=
  ∀ entry ∈ all, ∀ other ∈ all, entry.1.key? = other.1.key? → SameKind entry.1 other.1

/-! ## What becomes of a value -/

/-- What a value becomes, and what its items and the values of its entries become. -/
inductive KeptAs : Node → Json → Prop where
  | null : KeptAs .null .null
  | bool (b : Bool) : KeptAs (.bool b) (.bool b)
  | int (i : Int) : KeptAs (.int i) (.int i)
  | text (s : String) : KeptAs (.text s) (.string s)
  | real {written : String} {d : Number.Double} (hd : Number.Double.ofLiteral? written = some d)
      (hfinite : d.isFinite = true) : KeptAs (.real written) (.double d)
  /-- A literal that no finite number is nearest to. -/
  | unbounded {written : String} {d : Number.Double} (hd : Number.Double.ofLiteral? written = some d)
      (hfinite : d.isFinite = false) : KeptAs (.real written) .null
  | sequence {items : List Node} {values : List Json} (hlength : values.length = items.length)
      (hitems : ∀ (i : Nat) (item : Node) (value : Json),
        items[i]? = some item → values[i]? = some value → KeptAs item value) :
      KeptAs (.sequence items) (.array values)
  /-- Each member has an entry that it comes from. -/
  | mapping {all : List (Node × Node)} {members : Members} (source : String × Json → Node × Node)
      (hdistinct : members.Distinct)
      (hnames : ∀ name, name ∈ members.map (·.1) ↔ some name ∈ all.map (·.1.key?))
      (hnamed : ∀ entry ∈ all, entry.1.key?.isSome = true)
      (hsource : ∀ member ∈ members, source member ∈ all ∧ (source member).1.key? = some member.1)
      (hvalues : ∀ member ∈ members, KeptAs (source member).2 member.2)
      (hcount : Apart all → members.length = all.length) : KeptAs (.mapping all) (.object members)

theorem exists_of_entriesToJson (h : entriesToJson all = .ok pairs) : ∀ pair ∈ pairs,
    ∃ entry ∈ all, entry.1.key? = some pair.1 ∧ entry.2.toJson = .ok pair.2 := by
  induction all generalizing pairs with
  | nil =>
    obtain rfl := Except.ok.inj h
    exact List.forall_mem_nil _
  | cons entry all ih =>
    obtain ⟨key, node⟩ := entry
    rw [entriesToJson] at h
    split at h
    · cases h
    · next name hname =>
      simp only [bind_eq_ok, pure_eq_ok] at h
      obtain ⟨value, hvalue, rest, hrest, rfl⟩ := h
      refine List.forall_mem_cons.mpr ⟨⟨(key, node), List.mem_cons_self, hname, hvalue⟩, fun pair hpair => ?_⟩
      obtain ⟨entry, hentry, hpair⟩ := ih hrest pair hpair
      exact ⟨entry, List.mem_cons_of_mem _ hentry, hpair⟩

/-- Each name is the name of one entry, so no member is set twice. -/
theorem length_of_apart {members : Members} (hkeys : all.Pairwise (·.1 ≠ ·.1)) (hapart : Apart all)
    (hpairs : pairs.map (some ·.1) = all.map (·.1.key?)) (hdistinct : members.Distinct)
    (hnames : ∀ name, name ∈ members.map (·.1) ↔ name ∈ pairs.map (·.1)) : members.length = all.length := by
  have hall : (all.map (·.1.key?)).Nodup := by
    refine List.pairwise_map.mpr (hkeys.imp_of_mem fun hentry hother hne hname => ?_)
    exact hne (eq_of_sameKind (hapart _ hentry _ hother hname) hname)
  have hnodup : (pairs.map (·.1)).Nodup := by
    rw [← hpairs] at hall
    exact List.Nodup.of_map some (by rwa [List.map_map])
  have hperm : (members.map (·.1)).Perm (pairs.map (·.1)) := (List.perm_ext_iff_of_nodup hdistinct hnodup).mpr hnames
  calc members.length = (members.map (·.1)).length := (List.length_map _).symm
    _ = (pairs.map (·.1)).length := hperm.length_eq
    _ = (pairs.map (some ·.1)).length := by rw [List.length_map, List.length_map]
    _ = all.length := by rw [hpairs, List.length_map]

theorem keptAs_of_toJson (hnode : node.Distinct) (h : node.toJson = .ok json) : KeptAs node json := by
  induction hnode generalizing json with
  | null =>
    obtain rfl := Except.ok.inj h
    exact .null
  | bool b =>
    obtain rfl := Except.ok.inj h
    exact .bool b
  | int i =>
    obtain rfl := Except.ok.inj h
    exact .int i
  | real written =>
    rw [toJson, realToJson] at h
    split at h
    · cases h
    · next d hd =>
      obtain rfl := Except.ok.inj h
      split
      · next hfinite => exact .real hd hfinite
      · next hfinite => exact .unbounded hd (Bool.eq_false_iff.mpr hfinite)
  | text s =>
    obtain rfl := Except.ok.inj h
    exact .text s
  | bad => cases h
  | @sequence items hitems ih =>
    rw [toJson, itemsToJson_eq_mapM] at h
    obtain ⟨values, hvalues, rfl⟩ := map_eq_ok.mp h
    refine .sequence (length_of_mapM hvalues) fun i item value hitem hvalue => ?_
    obtain ⟨value', hjson, hvalue'⟩ := getElem?_of_mapM hvalues hitem
    obtain rfl := Option.some.inj (hvalue.symm.trans hvalue')
    exact ih item (List.mem_of_getElem? hitem) hjson
  | @mapping all hkeys hvalues ih =>
    rw [toJson] at h
    obtain ⟨pairs, hpairs, rfl⟩ := map_eq_ok.mp h
    have hall := names_of_entriesToJson hpairs
    have hpair := exists_of_entriesToJson hpairs
    obtain ⟨hdistinct, hset, hmembers⟩ := Members.foldl_set pairs (show Members.Distinct [] from List.nodup_nil)
    have hnames (name : String) := (hset name).trans (or_iff_left List.not_mem_nil)
    -- a member comes from one of the pairs, and that from one of the entries
    have hsource := fun (member : String × Json) (hmember : member ∈ _) =>
      hpair member ((hmembers member hmember).resolve_right List.not_mem_nil)
    choose! source hentry hname hjson using hsource
    refine .mapping source hdistinct (fun name => ?_) (fun entry hentry => ?_)
      (fun member hmember => ⟨hentry member hmember, hname member hmember⟩)
      (fun member hmember => ih _ (hentry member hmember) (hjson member hmember))
      (fun hapart => length_of_apart hkeys hapart hall hdistinct hnames)
    · rw [hnames, ← hall, List.mem_map, List.mem_map]
      simp only [Option.some.injEq]
    · have hkey : entry.1.key? ∈ all.map (·.1.key?) := List.mem_map_of_mem hentry
      rw [← hall] at hkey
      obtain ⟨pair, -, hpair⟩ := List.mem_map.mp hkey
      rw [← hpair, Option.isSome_some]

/-- The keys of what is loaded differ, and what has such keys is kept when it converts. -/
theorem conversion_keeps :
    (∀ (text : String) (nodes : List Node), load text = .ok nodes → ∀ node ∈ nodes, node.Distinct) ∧
      ∀ (node : Node) (json : Json), node.Distinct → node.toJson = .ok json → KeptAs node json :=
  ⟨fun _ _ hload _ hnode => distinct_of_load hload hnode, fun _ _ hnode hjson => keptAs_of_toJson hnode hjson⟩

def listed : Node := .mapping [(.int 1, .sequence [.int 80, .null]), (.bool true, .real "1.5")]

theorem conversion_keeps_listed : load "1: [80, ~]\ntrue: 1.5\n" = .ok [listed] ∧ listed.Distinct ∧
    ∃ json, listed.toJson = .ok json ∧ KeptAs listed json := by
  have hload : load "1: [80, ~]\ntrue: 1.5\n" = .ok [listed] := toOption_eq_some.mp (by decide +kernel)
  have hdistinct := conversion_keeps.1 _ _ hload listed List.mem_cons_self
  obtain ⟨json, hjson⟩ := Option.isSome_iff_exists.mp
    (show listed.toJson.toOption.isSome = true by decide +kernel)
  rw [toOption_eq_some] at hjson
  exact ⟨hload, hdistinct, json, hjson, conversion_keeps.2 _ _ hdistinct hjson⟩

/-- The entry of the integer 1 gives way to the one of the text, and a great number to null. -/
theorem conversion_loses :
    ((load "1: a\n\"1\": b\n").toOption = some [.mapping [(.int 1, .text "a"), (.text "1", .text "b")]] ∧
      (Yaml.documents "1: a\n\"1\": b\n").toOption = some [.object [("1", .string "b")]]) ∧
    (load "a: 1e999\n").toOption = some [.mapping [(.text "a", .real "1e999")]] ∧
      (Yaml.documents "a: 1e999\n").toOption = some [.object [("a", .null)]] := by
  refine ⟨⟨by decide +kernel, by decide +kernel⟩, by decide +kernel, by decide +kernel⟩

end Node
end SessionGate.Yaml
