import SessionGate.Number.Double

/-!
# JSON values

Objects are lists of members. `Json.Members.set` keeps the members of an object in the order of
their keys and gives each key one value, so two objects with the same members are equal.

- `Json.field?` and `Json.at?` look into objects and arrays.
- `Json.Members.set` and `Json.Members.erase` change one member.
- `Json.ofMembers` builds an object; of two members with one key the later one stays.
-/
namespace SessionGate
set_option autoImplicit false

/-- A JSON value. An integer and a float are different values. -/
inductive Json where
  | null
  | bool (value : Bool)
  | int (value : Int)
  | double (value : Number.Double)
  | string (value : String)
  | array (items : List Json)
  | object (members : List (String × Json))
deriving Inhabited

namespace Json

/-- Members of an object. -/
abbrev Members := List (String × Json)

/-! ## Equality -/

mutual

/-- Equality of values, as a test. -/
def same : Json → Json → Bool
  | .null, .null => true
  | .bool a, .bool b => a == b
  | .int a, .int b => a == b
  | .double a, .double b => decide (a = b)
  | .string a, .string b => a == b
  | .array a, .array b => sameItems a b
  | .object a, .object b => sameMembers a b
  | _, _ => false

def sameItems : List Json → List Json → Bool
  | [], [] => true
  | a :: as, b :: bs => same a b && sameItems as bs
  | _, _ => false

def sameMembers : List (String × Json) → List (String × Json) → Bool
  | [], [] => true
  | (k, a) :: as, (l, b) :: bs => k == l && same a b && sameMembers as bs
  | _, _ => false

end

mutual

theorem same_self : ∀ a : Json, same a a = true
  | .null => rfl
  | .bool _ => by simp [same]
  | .int _ => by simp [same]
  | .double _ => by simp [same]
  | .string _ => by simp [same]
  | .array items => by simpa [same] using sameItems_self items
  | .object members => by simpa [same] using sameMembers_self members

theorem sameItems_self : ∀ as : List Json, sameItems as as = true
  | [] => rfl
  | a :: as => by simp [sameItems, same_self a, sameItems_self as]

theorem sameMembers_self : ∀ as : List (String × Json), sameMembers as as = true
  | [] => rfl
  | (_, a) :: as => by simp [sameMembers, same_self a, sameMembers_self as]

end

mutual

theorem eq_of_same : ∀ {a b : Json}, same a b = true → a = b
  | .null, b, h => by cases b <;> simp [same] at h ⊢
  | .bool _, b, h => by cases b <;> simp [same] at h ⊢; exact h
  | .int _, b, h => by cases b <;> simp [same] at h ⊢; exact h
  | .double _, b, h => by cases b <;> simp [same] at h ⊢; exact h
  | .string _, b, h => by cases b <;> simp [same] at h ⊢; exact h
  | .array _, b, h => by cases b <;> simp [same] at h ⊢; exact eq_of_sameItems h
  | .object _, b, h => by cases b <;> simp [same] at h ⊢; exact eq_of_sameMembers h

theorem eq_of_sameItems : ∀ {as bs : List Json}, sameItems as bs = true → as = bs
  | [], bs, h => by cases bs <;> simp [sameItems] at h ⊢
  | a :: as, bs, h => by
    cases bs <;> simp [sameItems] at h ⊢
    exact ⟨eq_of_same h.1, eq_of_sameItems h.2⟩

theorem eq_of_sameMembers : ∀ {as bs : List (String × Json)}, sameMembers as bs = true → as = bs
  | [], bs, h => by cases bs <;> simp [sameMembers] at h ⊢
  | (k, a) :: as, bs, h => by
    cases bs with
    | nil => simp [sameMembers] at h
    | cons b bs =>
      obtain ⟨l, b⟩ := b
      simp only [sameMembers, Bool.and_eq_true, beq_iff_eq] at h
      obtain ⟨⟨rfl, h⟩, hs⟩ := h
      rw [eq_of_same h, eq_of_sameMembers hs]

end

/-- The test decides equality. -/
theorem same_iff_eq {a b : Json} : same a b = true ↔ a = b :=
  ⟨eq_of_same, fun h => h ▸ same_self a⟩

instance : DecidableEq Json := fun _ _ => decidable_of_iff _ same_iff_eq

/-! ## Reading -/

def string? : Json → Option String
  | .string s => some s
  | _ => none

def array? : Json → Option (List Json)
  | .array items => some items
  | _ => none

def members? : Json → Option Members
  | .object members => some members
  | _ => none

def isNull : Json → Bool
  | .null => true
  | _ => false

/-- Value of a member. -/
def Members.get? (members : Members) (key : String) : Option Json :=
  List.lookup key members

/-- Value of the member of an object; other values have no members. -/
def field? (value : Json) (key : String) : Option Json :=
  match value with
  | .object members => Members.get? members key
  | _ => none

/-- The string in a member. -/
def stringField? (value : Json) (key : String) : Option String :=
  (value.field? key).bind string?

/-! ## Changing members -/

namespace Members

/-- Puts a new member before the first one with a greater key. -/
def insertNew (key : String) (value : Json) : Members → Members
  | [] => [(key, value)]
  | (k, v) :: rest =>
    if key < k then (key, value) :: (k, v) :: rest else (k, v) :: insertNew key value rest

/-- Gives the first member with this key another value. -/
def replace (key : String) (value : Json) : Members → Members
  | [] => []
  | (k, v) :: rest =>
    if key = k then (key, value) :: rest else (k, v) :: replace key value rest

/-- Sets a member: its value is replaced where it stands, a new one goes to its place in the order
of keys. -/
def set (members : Members) (key : String) (value : Json) : Members :=
  match get? members key with
  | some _ => replace key value members
  | none => insertNew key value members

/-- Removes the first member with this key. -/
def erase (key : String) : Members → Members
  | [] => []
  | (k, v) :: rest => if key = k then rest else (k, v) :: erase key rest

end Members

/-- Builds an object; of two members with one key the later one stays. -/
def ofMembers (members : Members) : Json :=
  .object (members.foldl (fun all (k, v) => Members.set all k v) [])

end Json
end SessionGate
