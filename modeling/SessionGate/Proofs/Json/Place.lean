import SessionGate.Json.Patch

/-! # Changes at one place of a JSON value

Setting, replacing and erasing a member undo each other where the member was, and a change at a
place is a change of the value found there: `alter?_alter?` composes two changes at one place,
`alter?_of_fixed` says that a change which gives the same value back changes nothing, and
`child?_setChild?_ne` that the other members stay. -/
namespace SessionGate.Json
set_option autoImplicit false

namespace Members

variable {members : Members} {key other : String} {value value' v : Json}

/-! ## Members -/

theorem get?_cons (k : String) (v : Json) (rest : Members) :
    get? ((k, v) :: rest) key = if key = k then some v else get? rest key := by
  rw [get?, List.lookup_cons]
  by_cases h : key = k
  · rw [if_pos h, beq_iff_eq.mpr h]
  · rw [if_neg h, beq_eq_false_iff_ne.mpr h]
    rfl

theorem get?_replace_self (h : get? members key = some value') :
    get? (replace key value members) key = some value := by
  induction members with
  | nil => cases h
  | cons entry rest ih =>
    obtain ⟨k, v⟩ := entry
    by_cases hk : key = k
    · rw [replace, if_pos hk, get?_cons, if_pos rfl]
    · rw [get?_cons, if_neg hk] at h
      rw [replace, if_neg hk, get?_cons, if_neg hk]
      exact ih h

theorem get?_replace_ne (h : other ≠ key) :
    get? (replace key value members) other = get? members other := by
  induction members with
  | nil => rfl
  | cons entry rest ih =>
    obtain ⟨k, v⟩ := entry
    by_cases hk : key = k
    · subst hk
      rw [replace, if_pos rfl, get?_cons, get?_cons, if_neg h, if_neg h]
    · rw [replace, if_neg hk, get?_cons, get?_cons, ih]

theorem replace_replace :
    replace key value (replace key value' members) = replace key value members := by
  induction members with
  | nil => rfl
  | cons entry rest ih =>
    obtain ⟨k, v⟩ := entry
    by_cases hk : key = k
    · simp only [replace, if_pos hk, if_true]
    · simp only [replace, if_neg hk, ih]

theorem replace_comm (h : other ≠ key) :
    replace key value (replace other value' members) = replace other value' (replace key value members) := by
  induction members with
  | nil => rfl
  | cons entry rest ih =>
    obtain ⟨k, v⟩ := entry
    by_cases hother : other = k
    · subst hother
      simp only [replace, if_neg h.symm, if_true]
    · by_cases hkey : key = k
      · subst hkey
        simp only [replace, if_neg h, if_true]
      · simp only [replace, if_neg hother, if_neg hkey, ih]

theorem replace_insertNew_ne (h : other ≠ key) :
    replace key value (insertNew other value' members) = insertNew other value' (replace key value members) := by
  induction members with
  | nil => simp [insertNew, replace, h.symm]
  | cons entry rest ih =>
    obtain ⟨k, v⟩ := entry
    by_cases hkey : key = k
    · subst hkey
      by_cases hlt : other < key <;> simp [insertNew, replace, hlt, h.symm]
    · by_cases hlt : other < k <;> simp [insertNew, replace, hlt, hkey, h.symm, ih]

theorem replace_of_get? (h : get? members key = some value) : replace key value members = members := by
  induction members with
  | nil => rfl
  | cons entry rest ih =>
    obtain ⟨k, v⟩ := entry
    by_cases hk : key = k
    · subst hk
      rw [get?_cons, if_pos rfl] at h
      rw [replace, if_pos rfl, Option.some.inj h]
    · rw [get?_cons, if_neg hk] at h
      rw [replace, if_neg hk, ih h]

theorem erase_replace : erase key (replace key value members) = erase key members := by
  induction members with
  | nil => rfl
  | cons entry rest ih =>
    obtain ⟨k, v⟩ := entry
    by_cases hk : key = k
    · simp only [replace, erase, if_pos hk, if_true]
    · simp only [replace, erase, if_neg hk, ih]

theorem erase_of_get? (h : get? members key = none) : erase key members = members := by
  induction members with
  | nil => rfl
  | cons entry rest ih =>
    obtain ⟨k, v⟩ := entry
    rw [get?_cons] at h
    split at h
    · cases h
    · next hk => rw [erase, if_neg hk, ih h]

theorem get?_erase_ne (h : other ≠ key) : get? (erase key members) other = get? members other := by
  induction members with
  | nil => rfl
  | cons entry rest ih =>
    obtain ⟨k, v⟩ := entry
    by_cases hk : key = k
    · subst hk
      rw [erase, if_pos rfl, get?_cons, if_neg h]
    · rw [erase, if_neg hk, get?_cons, get?_cons, ih]

/-- Each key has one value. -/
def Distinct (members : Members) : Prop := (members.map (·.1)).Nodup

theorem get?_of_not_mem (h : key ∉ members.map (·.1)) : get? members key = none := by
  induction members with
  | nil => rfl
  | cons entry rest ih =>
    obtain ⟨k, v⟩ := entry
    rw [List.map_cons, List.mem_cons, not_or] at h
    rw [get?_cons, if_neg h.1]
    exact ih h.2

theorem get?_erase_self (h : members.Distinct) : get? (erase key members) key = none := by
  induction members with
  | nil => rfl
  | cons entry rest ih =>
    obtain ⟨k, v⟩ := entry
    rw [Distinct, List.map_cons, List.nodup_cons] at h
    by_cases hk : key = k
    · subst hk
      rw [erase, if_pos rfl]
      exact get?_of_not_mem h.1
    · rw [erase, if_neg hk, get?_cons, if_neg hk]
      exact ih h.2

theorem get?_insertNew_self (h : get? members key = none) :
    get? (insertNew key value members) key = some value := by
  induction members with
  | nil => rw [insertNew, get?_cons, if_pos rfl]
  | cons entry rest ih =>
    obtain ⟨k, v⟩ := entry
    rw [insertNew]
    split
    · rw [get?_cons, if_pos rfl]
    · by_cases hk : key = k
      · rw [get?_cons, if_pos hk] at h
        cases h
      · rw [get?_cons, if_neg hk] at h
        rw [get?_cons, if_neg hk, ih h]

theorem get?_insertNew_ne (h : other ≠ key) :
    get? (insertNew key value members) other = get? members other := by
  induction members with
  | nil => rw [insertNew, get?_cons, if_neg h]
  | cons entry rest ih =>
    obtain ⟨k, v⟩ := entry
    rw [insertNew]
    split
    · rw [get?_cons, if_neg h]
    · rw [get?_cons, get?_cons, ih]

/-- A new member that is erased again leaves the members as they were. -/
theorem erase_insertNew (h : get? members key = none) :
    erase key (insertNew key value members) = members := by
  induction members with
  | nil => simp [insertNew, erase]
  | cons entry rest ih =>
    obtain ⟨k, v⟩ := entry
    rw [insertNew]
    split
    · simp [erase]
    · by_cases hk : key = k
      · rw [get?_cons, if_pos hk] at h
        cases h
      · rw [get?_cons, if_neg hk] at h
        rw [erase, if_neg hk, ih h]

theorem replace_insertNew (h : get? members key = none) :
    replace key value (insertNew key value' members) = insertNew key value members := by
  induction members with
  | nil => simp [insertNew, replace]
  | cons entry rest ih =>
    obtain ⟨k, v⟩ := entry
    have hk : key ≠ k := by
      rintro rfl
      rw [get?_cons, if_pos rfl] at h
      cases h
    rw [get?_cons, if_neg hk] at h
    simp only [insertNew]
    split
    · simp [replace]
    · rw [replace, if_neg hk, ih h]

theorem set_of_some (h : get? members key = some value') :
    set members key value = replace key value members := by
  rw [set, h]

theorem set_of_none (h : get? members key = none) :
    set members key value = insertNew key value members := by
  rw [set, h]

theorem get?_set_self : get? (set members key value) key = some value := by
  cases h : get? members key with
  | none => rw [set_of_none h, get?_insertNew_self h]
  | some v => rw [set_of_some h, get?_replace_self h]

theorem get?_set_ne (h : other ≠ key) : get? (set members key value) other = get? members other := by
  cases hk : get? members key with
  | none => rw [set_of_none hk, get?_insertNew_ne h]
  | some v => rw [set_of_some hk, get?_replace_ne h]

theorem set_set : set (set members key value') key value = set members key value := by
  rw [set_of_some get?_set_self]
  cases h : get? members key with
  | none => rw [set_of_none h, set_of_none h, replace_insertNew h]
  | some v => rw [set_of_some h, set_of_some h, replace_replace]

theorem set_comm (h : other ≠ key) (hkey : get? members key = some v) :
    set (set members other value') key value = set (set members key value) other value' := by
  have hkey' : get? (set members other value') key = some v := by rw [get?_set_ne h.symm, hkey]
  rw [set_of_some hkey', set_of_some hkey]
  cases hother : get? members other with
  | none =>
    have hother' : get? (replace key value members) other = none := by rw [get?_replace_ne h, hother]
    rw [set_of_none hother, set_of_none hother', replace_insertNew_ne h]
  | some w =>
    have hother' : get? (replace key value members) other = some w := by rw [get?_replace_ne h, hother]
    rw [set_of_some hother, set_of_some hother', replace_comm h]

theorem set_of_get? (h : get? members key = some value) : set members key value = members := by
  rw [set_of_some h, replace_of_get? h]

theorem erase_set : erase key (set members key value) = erase key members := by
  cases h : get? members key with
  | none => rw [set_of_none h, erase_insertNew h, erase_of_get? h]
  | some v => rw [set_of_some h, erase_replace]

/-! ## Members that are set in order -/

theorem get?_foldl_set (later all : Members) (h : key ∉ later.map (·.1)) :
    get? (later.foldl (fun all (k, v) => set all k v) all) key = get? all key := by
  induction later generalizing all with
  | nil => rfl
  | cons entry later ih =>
    obtain ⟨k, v⟩ := entry
    rw [List.map_cons, List.mem_cons, not_or] at h
    rw [List.foldl_cons, ih _ h.2, get?_set_ne h.1]

/-- The last member of a key is the one that stays. -/
theorem field?_ofMembers {front later : Members} (h : key ∉ later.map (·.1)) :
    (ofMembers (front ++ (key, value) :: later)).field? key = some value := by
  have hset := get?_foldl_set later (set (front.foldl (fun all (k, v) => set all k v) []) key value) h
  rw [get?_set_self] at hset
  rw [ofMembers, List.foldl_append, List.foldl_cons]
  exact hset

theorem set_foldl_set (later all : Members) (h : key ∉ later.map (·.1)) (hkey : get? all key = some v) :
    set (later.foldl (fun all (k, v) => set all k v) all) key value =
      later.foldl (fun all (k, v) => set all k v) (set all key value) := by
  induction later generalizing all with
  | nil => rfl
  | cons entry later ih =>
    obtain ⟨k, w⟩ := entry
    rw [List.map_cons, List.mem_cons, not_or] at h
    rw [List.foldl_cons, List.foldl_cons, ih _ h.2 (by rw [get?_set_ne h.1, hkey]), set_comm (Ne.symm h.1) hkey]

/-- Setting the last member of a key later on is setting it at once. -/
theorem setChild?_ofMembers {front later : Members} (h : key ∉ later.map (·.1)) :
    (ofMembers (front ++ (key, value') :: later)).setChild? key value =
      some (ofMembers (front ++ (key, value) :: later)) := by
  have hfield : (ofMembers (front ++ (key, value') :: later)).field? key = some value' := field?_ofMembers h
  rw [ofMembers] at hfield ⊢
  rw [setChild?, show get? _ key = some value' from hfield, Option.map_some, ofMembers, List.foldl_append,
    List.foldl_append, List.foldl_cons, List.foldl_cons, set_foldl_set _ _ h get?_set_self, set_set]

theorem mem_insertNew {member : String × Json} :
    member ∈ insertNew key value members ↔ member = (key, value) ∨ member ∈ members := by
  induction members with
  | nil => simp [insertNew]
  | cons entry rest ih =>
    rw [insertNew]
    split
    · rw [List.mem_cons]
    · rw [List.mem_cons, ih, List.mem_cons]
      exact or_left_comm

theorem mem_of_mem_replace {member : String × Json} (h : member ∈ replace key value members) :
    member = (key, value) ∨ member ∈ members := by
  induction members with
  | nil => cases h
  | cons entry rest ih =>
    rw [replace] at h
    split at h
    · exact (List.mem_cons.mp h).imp_right (List.mem_cons_of_mem entry)
    · rcases List.mem_cons.mp h with rfl | h
      · exact .inr List.mem_cons_self
      · exact (ih h).imp_right (List.mem_cons_of_mem entry)

theorem map_replace (members : Members) : (replace key value members).map (·.1) = members.map (·.1) := by
  induction members with
  | nil => rfl
  | cons entry rest ih =>
    rw [replace]
    split
    · next hk => rw [List.map_cons, List.map_cons, hk]
    · rw [List.map_cons, List.map_cons, ih]

theorem mem_map_of_get? (h : get? members key = some value) : key ∈ members.map (·.1) := by
  by_cases hmem : key ∈ members.map (·.1)
  · exact hmem
  · rw [get?_of_not_mem hmem] at h
    cases h

theorem not_mem_map_of_get? (h : get? members key = none) : key ∉ members.map (·.1) := by
  induction members with
  | nil => exact List.not_mem_nil
  | cons entry rest ih =>
    rw [get?_cons] at h
    split at h
    · cases h
    · next hk => exact List.not_mem_cons_of_ne_of_not_mem hk (ih h)

theorem mem_of_mem_set {member : String × Json} (h : member ∈ set members key value) :
    member = (key, value) ∨ member ∈ members := by
  cases hk : get? members key with
  | none =>
    rw [set_of_none hk] at h
    exact mem_insertNew.mp h
  | some v =>
    rw [set_of_some hk] at h
    exact mem_of_mem_replace h

theorem mem_map_set : other ∈ (set members key value).map (·.1) ↔ other = key ∨ other ∈ members.map (·.1) := by
  cases hk : get? members key with
  | none =>
    rw [set_of_none hk, List.mem_map, List.mem_map]
    simp only [mem_insertNew]
    constructor
    · rintro ⟨member, rfl | hmember, rfl⟩
      · exact .inl rfl
      · exact .inr ⟨member, hmember, rfl⟩
    · rintro (rfl | ⟨member, hmember, rfl⟩)
      · exact ⟨_, .inl rfl, rfl⟩
      · exact ⟨member, .inr hmember, rfl⟩
  | some v =>
    rw [set_of_some hk, map_replace]
    refine ⟨.inr, ?_⟩
    rintro (rfl | hother)
    · exact mem_map_of_get? hk
    · exact hother

theorem Distinct.insertNew (h : members.Distinct) (hk : key ∉ members.map (·.1)) :
    (insertNew key value members).Distinct := by
  induction members with
  | nil => simp [Distinct, Members.insertNew]
  | cons entry rest ih =>
    obtain ⟨k, v⟩ := entry
    rw [Members.insertNew]
    split
    · exact List.nodup_cons.mpr ⟨hk, h⟩
    · obtain ⟨hfirst, hrest⟩ := List.nodup_cons.mp h
      rw [List.map_cons, List.mem_cons, not_or] at hk
      refine List.nodup_cons.mpr ⟨fun hmem => ?_, ih hrest hk.2⟩
      obtain ⟨member, hmember, hname⟩ := List.mem_map.mp hmem
      rcases mem_insertNew.mp hmember with rfl | hmember
      · exact hk.1 hname
      · exact hfirst (List.mem_map.mpr ⟨member, hmember, hname⟩)

theorem Distinct.set (h : members.Distinct) : (set members key value).Distinct := by
  cases hk : get? members key with
  | none =>
    rw [set_of_none hk]
    exact h.insertNew (not_mem_map_of_get? hk)
  | some v =>
    rw [set_of_some hk, Distinct, map_replace]
    exact h

/-- What comes of members that are set in order: each key has one value, one of those that it was set to. -/
theorem foldl_set (later : Members) {all : Members} (hall : all.Distinct) :
    (later.foldl (fun all (k, v) => set all k v) all).Distinct ∧
      (∀ name, name ∈ (later.foldl (fun all (k, v) => set all k v) all).map (·.1) ↔
        name ∈ later.map (·.1) ∨ name ∈ all.map (·.1)) ∧
      ∀ member ∈ later.foldl (fun all (k, v) => set all k v) all, member ∈ later ∨ member ∈ all := by
  induction later generalizing all with
  | nil => simpa using hall
  | cons entry later ih =>
    obtain ⟨k, v⟩ := entry
    obtain ⟨hdistinct, hnames, hmembers⟩ := ih (show (Members.set all k v).Distinct from hall.set)
    refine ⟨hdistinct, fun name => ?_, fun member hmember => ?_⟩
    · rw [List.foldl_cons, hnames, mem_map_set, List.map_cons, List.mem_cons, or_assoc, or_left_comm]
    · rcases hmembers member hmember with hlater | hset
      · exact .inl (List.mem_cons_of_mem _ hlater)
      · rcases mem_of_mem_set hset with rfl | hold
        · exact .inl List.mem_cons_self
        · exact .inr hold

/-! ## Numbers of members -/

theorem length_insertNew : (insertNew key value members).length = members.length + 1 := by
  induction members with
  | nil => rfl
  | cons entry rest ih =>
    rw [insertNew]
    split
    · rfl
    · rw [List.length_cons, ih, List.length_cons]

theorem length_replace : (replace key value members).length = members.length := by
  induction members with
  | nil => rfl
  | cons entry rest ih =>
    rw [replace]
    split
    · rfl
    · rw [List.length_cons, ih, List.length_cons]

theorem length_erase (h : get? members key = some value) : (erase key members).length + 1 = members.length := by
  induction members with
  | nil => cases h
  | cons entry rest ih =>
    obtain ⟨k, v⟩ := entry
    by_cases hk : key = k
    · rw [erase, if_pos hk, List.length_cons]
    · rw [get?_cons, if_neg hk] at h
      rw [erase, if_neg hk, List.length_cons, ih h, List.length_cons]

/-- An erased member is not one that is set, whatever other members have its key. -/
theorem erase_ne_set : erase key members ≠ set members key value := by
  intro h
  have hlength := congrArg List.length h
  cases hk : get? members key with
  | none =>
    rw [erase_of_get? hk, set_of_none hk, length_insertNew] at hlength
    omega
  | some value' =>
    have herase := length_erase hk
    rw [set_of_some hk, length_replace] at hlength
    omega

end Members

/-! ## One step down -/

variable {value value' child child' : Json} {token other : String}

theorem child?_setChild?_self (h : value.setChild? token child = some value') :
    value'.child? token = some child := by
  cases value with
  | object members =>
    obtain ⟨_, -, rfl⟩ := Option.map_eq_some_iff.mp h
    exact Members.get?_set_self
  | array items =>
    obtain ⟨i, hi, h⟩ := Option.bind_eq_some_iff.mp h
    split at h
    · next hlt =>
      obtain rfl := Option.some.inj h
      simp [child?, hi, hlt]
    · cases h
  | _ => cases h

theorem setChild?_setChild? (h : value.setChild? token child = some value') :
    value'.setChild? token child' = value.setChild? token child' := by
  cases value with
  | object members =>
    obtain ⟨_, hm, rfl⟩ := Option.map_eq_some_iff.mp h
    simp [setChild?, Members.get?_set_self, Members.set_set, hm]
  | array items =>
    obtain ⟨i, hi, h⟩ := Option.bind_eq_some_iff.mp h
    split at h
    · next hlt =>
      obtain rfl := Option.some.inj h
      simp [setChild?, hi, hlt]
    · cases h
  | _ => cases h

theorem setChild?_of_child? (h : value.child? token = some child) :
    value.setChild? token child = some value := by
  cases value with
  | object members =>
    have hm : Members.get? members token = some child := h
    simp [setChild?, hm, Members.set_of_get? hm]
  | array items =>
    obtain ⟨i, hi, h⟩ := Option.bind_eq_some_iff.mp h
    obtain ⟨hlt, rfl⟩ := List.getElem?_eq_some_iff.mp h
    simp [setChild?, hi, hlt]
  | _ => cases h

/-- The other members of an object stay. -/
theorem child?_setChild?_ne {members : Members}
    (h : (object members).setChild? token child = some value') (hne : other ≠ token) :
    value'.child? other = (object members).child? other := by
  obtain ⟨_, -, rfl⟩ := Option.map_eq_some_iff.mp h
  exact Members.get?_set_ne hne

/-! ## A change at a place -/

variable {f g : Json → Option Json} {path : Pointer}

theorem alter?_append (value : Json) (path rest : Pointer) :
    alter? f value (path ++ rest) = alter? (fun c => alter? f c rest) value path := by
  induction path generalizing value with
  | nil => rfl
  | cons token path ih => simp only [List.cons_append, alter?, ih]

/-- The changed value is found where it was changed. -/
theorem pointer?_alter? (h : alter? f value path = some value') :
    ∃ c c', value.pointer? path = some c ∧ f c = some c' ∧ value'.pointer? path = some c' := by
  induction path generalizing value value' with
  | nil => exact ⟨value, value', rfl, h, rfl⟩
  | cons token path ih =>
    obtain ⟨child, hchild, h⟩ := Option.bind_eq_some_iff.mp h
    obtain ⟨child', halter, hset⟩ := Option.bind_eq_some_iff.mp h
    obtain ⟨c, c', hc, hf, hc'⟩ := ih halter
    refine ⟨c, c', ?_, hf, ?_⟩
    · simp [pointer?, hchild, hc]
    · simp [pointer?, child?_setChild?_self hset, hc']

/-- Only what a change does at the place counts. -/
theorem alter?_congr {c : Json} (hc : value.pointer? path = some c) (hfg : f c = g c) :
    alter? f value path = alter? g value path := by
  induction path generalizing value with
  | nil =>
    obtain rfl := Option.some.inj hc
    exact hfg
  | cons token path ih =>
    obtain ⟨child, hchild, hc⟩ := Option.bind_eq_some_iff.mp hc
    simp only [alter?, hchild, Option.bind_some, ih hc]

/-- A change that does at least what another one does. -/
theorem alter?_mono (h : alter? f value path = some value') (hfg : ∀ c c', f c = some c' → g c = some c') :
    alter? g value path = some value' := by
  obtain ⟨c, c', hc, hf, -⟩ := pointer?_alter? h
  rw [← h]
  exact alter?_congr hc ((hfg c c' hf).trans hf.symm)

theorem alter?_of_fixed {c : Json} (hc : value.pointer? path = some c) (hf : f c = some c) :
    alter? f value path = some value := by
  induction path generalizing value with
  | nil =>
    obtain rfl := Option.some.inj hc
    exact hf
  | cons token path ih =>
    obtain ⟨child, hchild, hc⟩ := Option.bind_eq_some_iff.mp hc
    simp [alter?, hchild, ih hc, setChild?_of_child? hchild]

/-- Two changes at one place, one after the other, are one change. -/
theorem alter?_alter? (h : alter? f value path = some value') :
    alter? g value' path = alter? (fun c => (f c).bind g) value path := by
  induction path generalizing value value' with
  | nil => simp [alter?, show f value = some value' from h]
  | cons token path ih =>
    obtain ⟨child, hchild, h⟩ := Option.bind_eq_some_iff.mp h
    obtain ⟨child', halter, hset⟩ := Option.bind_eq_some_iff.mp h
    simp only [alter?, hchild, child?_setChild?_self hset, Option.bind_some, ih halter]
    exact congrArg _ (funext fun c => setChild?_setChild? hset)

end SessionGate.Json
