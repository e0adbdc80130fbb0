import SessionGate.Proofs.Yaml.Part

/-! # Scalars of a text

* `part?`: the part of a tree whose value stands at a place in the value of the tree.
* `at?_of_part?`: the value of a scalar stands at its place.
* `documents_eq_ok`: the JSON values of a text are those of its documents, without the ones that are null.
* `at?_of_scalarAt?`: the same as `at?_of_part?` for a document of a text.
-/
namespace SessionGate.Yaml
set_option autoImplicit false
open Json (Pointer)
open Node (entries)
open Result (bind_eq_ok getElem?_of_mapM map_eq_ok pure_eq_ok toOption_eq_some)

/-! ## Parts of trees -/

/-- Where the values of the entries stand among the nodes of a mapping. A bad key is passed over. -/
def valueIndices (n : Nat) : List Node → List Nat
  | [] | [_] => []
  | key :: value :: rest =>
    if key = .bad then valueIndices (n + 1) (value :: rest) else (n + 1) :: valueIndices (n + 2) rest

/-- One of several trees, with the anchors in front of it. -/
def treeAt? (trees : List Tree) (anchors : Node.Anchors) (i : Nat) : Option (Tree × Node.Anchors) := do
  let (_, before) ← (Node.ofTrees (trees.take i) anchors).toOption
  return (← trees[i]?, before)

/-- The part of a tree that has its value at this place of the value of the tree. -/
def part? : Tree → Node.Anchors → Pointer → Option Tree
  | tree, _, [] => some tree
  | .sequence own trees, anchors, token :: place => do
    let i ← Pointer.index? token
    let (tree, before) ← treeAt? trees (anchors.declare own.anchor).2 i
    part? tree before place
  | .mapping own trees, anchors, name :: place => do
    let (nodes, _) ← (Node.ofTrees trees (anchors.declare own.anchor).2).toOption
    let i ← lastNamed? name (← (entries none [] nodes).toOption)
    let (tree, before) ← treeAt? trees (anchors.declare own.anchor).2 (← (valueIndices 0 nodes)[i]?)
    part? tree before place
  | _, _, _ => none

variable {trees : List Tree} {tree : Tree} {nodes : List Node} {node : Node}
  {anchors anchors' before : Node.Anchors} {all sofar : List (Node × Node)} {entry : Node × Node}
  {pending : Option Node} {i j n : Nat}

theorem treeAt?_succ {first : Tree} (h : Node.ofTree first anchors = .ok (node, anchors')) :
    treeAt? (first :: trees) anchors (i + 1) = treeAt? trees anchors' i := by
  rw [treeAt?, treeAt?, List.take_succ_cons, Node.ofTrees, h]
  cases hrest : Node.ofTrees (trees.take i) anchors' with
  | error e => simp [bind, Except.bind, hrest, Except.toOption]
  | ok rest => simp [bind, Except.bind, hrest, Except.toOption, pure, Except.pure]

theorem of_treeAt? (h : Node.ofTrees trees anchors = .ok (nodes, anchors'))
    (htree : treeAt? trees anchors i = some (tree, before)) :
    ∃ node after, Node.ofTree tree before = .ok (node, after) ∧ nodes[i]? = some node := by
  induction trees generalizing nodes anchors i with
  | nil => simp [treeAt?] at htree
  | cons first trees ih =>
    simp only [Node.ofTrees, bind_eq_ok, pure_eq_ok] at h
    obtain ⟨⟨value, middle⟩, hfirst, ⟨values, last⟩, hrest, heq⟩ := h
    obtain ⟨rfl, rfl⟩ := Prod.mk.inj heq
    cases i with
    | zero =>
      obtain ⟨rfl, rfl⟩ := Prod.mk.inj (Option.some.inj htree)
      exact ⟨value, middle, hfirst, rfl⟩
    | succ i =>
      rw [treeAt?_succ hfirst] at htree
      obtain ⟨node, after, hof, hnode⟩ := ih hrest htree
      exact ⟨node, after, hof, hnode⟩

/-- The entries found so far stay. -/
theorem reverse_of_entries (h : entries pending sofar nodes = .ok all) : ∃ more, all = sofar.reverse ++ more := by
  induction nodes generalizing pending sofar with
  | nil =>
    obtain rfl := Except.ok.inj h
    exact ⟨[], (List.append_nil _).symm⟩
  | cons node nodes ih =>
    cases pending with
    | none =>
      rw [entries] at h
      exact ih h
    | some key =>
      rw [entries] at h
      split at h
      · cases h
      · obtain ⟨more, rfl⟩ := ih h
        exact ⟨(key, node) :: more, by simp⟩

/-- The value of an entry stands where it was written. -/
theorem getElem?_of_entries (h : entries none sofar nodes = .ok all) (hj : (valueIndices n nodes)[i]? = some j)
    (hentry : all[sofar.length + i]? = some entry) : ∃ m, j = n + m ∧ nodes[m]? = some entry.2 := by
  induction n, nodes using valueIndices.induct generalizing sofar i with
  | case1 n => cases hj
  | case2 n key => cases hj
  -- what stands behind a bad key is the next key
  | case3 n value rest ih =>
    rw [entries, if_pos rfl] at h
    rw [valueIndices, if_pos rfl] at hj
    obtain ⟨m, rfl, hm⟩ := ih h hj hentry
    exact ⟨m + 1, by omega, hm⟩
  | case4 n key value rest hbad ih =>
    rw [entries, if_neg hbad, entries] at h
    rw [valueIndices, if_neg hbad] at hj
    split at h
    · cases h
    · cases i with
      | zero =>
        obtain rfl := Option.some.inj hj
        obtain ⟨more, rfl⟩ := reverse_of_entries h
        refine ⟨1, rfl, ?_⟩
        rw [List.reverse_cons, List.append_assoc] at hentry
        rw [Nat.add_zero, ← List.length_reverse, List.getElem?_append_right (Nat.le_refl _), Nat.sub_self] at hentry
        obtain rfl := Option.some.inj hentry
        rfl
      | succ i =>
        have hlength : ((key, value) :: sofar).length + i = sofar.length + (i + 1) := by
          rw [List.length_cons]
          omega
        obtain ⟨m, rfl, hm⟩ := ih h hj (hlength ▸ hentry)
        exact ⟨m + 2, by omega, hm⟩

/-! ## Values of fields -/

/-- The value of a scalar stands at its place. -/
theorem at?_of_part? {own : Properties} {style : Style} {written : String} {place : Pointer}
    (hpart : part? tree anchors place = some (.scalar own style written))
    (h : Node.ofTree tree anchors = .ok (node, anchors')) :
    node.at? place = some (.ofScalar own.tag style written) := by
  induction place generalizing tree node anchors anchors' with
  | nil =>
    obtain rfl := Option.some.inj hpart
    obtain ⟨rfl, -⟩ := Prod.mk.inj (Except.ok.inj h)
    rfl
  | cons token place ih =>
    cases tree with
    | sequence own trees =>
      simp only [part?, Option.bind_eq_bind, Option.bind_eq_some_iff] at hpart
      obtain ⟨i, hindex, ⟨tree, before⟩, htree, hpart⟩ := hpart
      simp only [Node.ofTree, bind_eq_ok, pure_eq_ok] at h
      obtain ⟨⟨nodes, last⟩, hnodes, heq⟩ := h
      obtain ⟨rfl, -⟩ := Prod.mk.inj heq
      obtain ⟨child, after, hof, hchild⟩ := of_treeAt? hnodes htree
      exact Node.at?_cons.mpr (.inl ⟨nodes, i, child, rfl, hindex, hchild, ih hpart hof⟩)
    | mapping own trees =>
      simp only [part?, Option.bind_eq_bind, Option.bind_eq_some_iff, toOption_eq_some] at hpart
      obtain ⟨⟨nodes, last⟩, hnodes, all, hall, i, hlast, j, hj, ⟨tree, before⟩, htree, hpart⟩ := hpart
      simp only [Node.ofTree, bind_eq_ok, pure_eq_ok] at h
      obtain ⟨⟨nodes', last'⟩, hnodes', all', hall', heq⟩ := h
      obtain ⟨rfl, rfl⟩ := Prod.mk.inj (Except.ok.inj (hnodes.symm.trans hnodes'))
      obtain rfl := Except.ok.inj (hall.symm.trans hall')
      obtain ⟨rfl, -⟩ := Prod.mk.inj heq
      obtain ⟨child, after, hof, hchild⟩ := of_treeAt? hnodes htree
      obtain ⟨⟨key, value⟩, hentry⟩ := Node.exists_of_lastNamed? hlast
      -- the entry's node and the tree that was written for it have one index among the nodes
      obtain ⟨m, rfl, hm⟩ := getElem?_of_entries hall hj (by rw [List.length_nil, Nat.zero_add]; exact hentry)
      rw [Nat.zero_add] at hchild
      obtain rfl := Option.some.inj (hchild.symm.trans hm)
      exact Node.at?_cons.mpr (.inr ⟨all, i, key, child, rfl, hlast, hentry, ih hpart hof⟩)
    | _ => cases hpart

/-! ## Documents of a text -/

theorem itemsToJson_eq_mapM (nodes : List Node) : Node.itemsToJson nodes = nodes.mapM Node.toJson := by
  induction nodes with
  | nil => rfl
  | cons node nodes ih => rw [Node.itemsToJson, List.mapM_cons, ih]

theorem documents_eq_ok {text : String} {values : List Json} : documents text = .ok values ↔
    ∃ nodes items, load text = .ok nodes ∧ nodes.mapM Node.toJson = .ok items ∧
      items.filter (!·.isNull) = values := by
  delta documents
  cases load text with
  | error e => simp
  | ok nodes =>
    have hconvert : convert nodes = (nodes.mapM Node.toJson).map (·.filter (!·.isNull)) := by
      rw [← itemsToJson_eq_mapM, convert]
    dsimp only
    rw [hconvert]
    cases hitems : nodes.mapM Node.toJson with
    | error e => simp [Except.map, hitems]
    | ok items => simp [Except.map, hitems]

/-- The scalar that has its value at this place of a document: its tag, whether it is a plain one, and its text. -/
def scalarAt? (text : String) (i : Nat) (place : Pointer) : Option (Option Tag × Style × String) := do
  let trees ← (Token.scan text >>= Tree.documents).toOption
  match part? (← trees[i]?) ⟨0, [], []⟩ place with
  | some (.scalar own style written) => some (own.tag, style, written)
  | _ => none

variable {text written : String} {tag : Option Tag} {style : Style} {place : Pointer}

theorem at?_of_scalarAt? (hload : load text = .ok nodes) (h : scalarAt? text i place = some (tag, style, written)) :
    ∃ node, nodes[i]? = some node ∧ node.at? place = some (.ofScalar tag style written) := by
  simp only [scalarAt?, Option.bind_eq_bind, Option.bind_eq_some_iff, toOption_eq_some, bind_eq_ok] at h
  obtain ⟨trees, ⟨tokens, htokens, htrees⟩, tree, htree, h⟩ := h
  have hnodes : Node.documents trees = .ok nodes := by
    obtain ⟨tokens', htokens', hload⟩ := bind_eq_ok.mp hload
    obtain rfl := Except.ok.inj (htokens.symm.trans htokens')
    obtain ⟨trees', htrees', hload⟩ := bind_eq_ok.mp hload
    obtain rfl := Except.ok.inj (htrees.symm.trans htrees')
    exact hload
  obtain ⟨node, hdocument, hnode⟩ := getElem?_of_mapM hnodes htree
  obtain ⟨⟨_, after⟩, hof, rfl⟩ := map_eq_ok.mp hdocument
  split at h
  · next own style' written' hpart =>
    obtain ⟨rfl, heq⟩ := Prod.mk.inj (Option.some.inj h)
    obtain ⟨rfl, rfl⟩ := Prod.mk.inj heq
    exact ⟨_, hnode, at?_of_part? hpart hof⟩
  · cases h

end SessionGate.Yaml
