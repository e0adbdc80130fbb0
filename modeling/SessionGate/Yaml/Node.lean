import SessionGate.Number.Decimal
import SessionGate.Yaml.Tree

/-!
# Values of YAML documents

- `Node.ofPlain` reads a plain scalar as null, boolean, integer, float or text.
- `Node.documents` takes the trees of a stream: scalars get their values, aliases are replaced by what
  they name, and the keys of a mapping differ.
-/
namespace SessionGate.Yaml
set_option autoImplicit false

inductive Node where
  | null
  | bool (value : Bool)
  | int (value : Int)
  /-- A float, as it is written. -/
  | real (text : String)
  | text (value : String)
  | sequence (items : List Node)
  | mapping (entries : List (Node × Node))
  /-- A scalar that does not fit its tag, or an alias inside what it names. -/
  | bad
deriving Inhabited

namespace Node

/-! ## Equality -/

mutual

/-- Equality of values, as a test; floats are compared as they are written. -/
def same : Node → Node → Bool
  | .null, .null => true
  | .bool a, .bool b => a == b
  | .int a, .int b => a == b
  | .real a, .real b => a == b
  | .text a, .text b => a == b
  | .sequence a, .sequence b => sameItems a b
  | .mapping a, .mapping b => sameEntries a b
  | .bad, .bad => true
  | _, _ => false

def sameItems : List Node → List Node → Bool
  | [], [] => true
  | a :: as, b :: bs => same a b && sameItems as bs
  | _, _ => false

def sameEntries : List (Node × Node) → List (Node × Node) → Bool
  | [], [] => true
  | (k, a) :: as, (l, b) :: bs => same k l && same a b && sameEntries as bs
  | _, _ => false

end

mutual

theorem same_self : ∀ a : Node, same a a = true
  | .null | .bad => rfl
  | .bool _ | .int _ | .real _ | .text _ => by simp [same]
  | .sequence items => by simpa [same] using sameItems_self items
  | .mapping entries => by simpa [same] using sameEntries_self entries

theorem sameItems_self : ∀ as : List Node, sameItems as as = true
  | [] => rfl
  | a :: as => by simp [sameItems, same_self a, sameItems_self as]

theorem sameEntries_self : ∀ as : List (Node × Node), sameEntries as as = true
  | [] => rfl
  | (k, a) :: as => by simp [sameEntries, same_self k, same_self a, sameEntries_self as]

end

mutual

theorem eq_of_same : ∀ {a b : Node}, same a b = true → a = b
  | .null, b, h => by cases b <;> simp [same] at h ⊢
  | .bad, b, h => by cases b <;> simp [same] at h ⊢
  | .bool _, b, h => by cases b <;> simp [same] at h ⊢; exact h
  | .int _, b, h => by cases b <;> simp [same] at h ⊢; exact h
  | .real _, b, h => by cases b <;> simp [same] at h ⊢; exact h
  | .text _, b, h => by cases b <;> simp [same] at h ⊢; exact h
  | .sequence _, b, h => by cases b <;> simp [same] at h ⊢; exact eq_of_sameItems h
  | .mapping _, b, h => by cases b <;> simp [same] at h ⊢; exact eq_of_sameEntries h

theorem eq_of_sameItems : ∀ {as bs : List Node}, sameItems as bs = true → as = bs
  | [], bs, h => by cases bs <;> simp [sameItems] at h ⊢
  | a :: as, bs, h => by
    cases bs <;> simp [sameItems] at h ⊢
    exact ⟨eq_of_same h.1, eq_of_sameItems h.2⟩

theorem eq_of_sameEntries : ∀ {as bs : List (Node × Node)}, sameEntries as bs = true → as = bs
  | [], bs, h => by cases bs <;> simp [sameEntries] at h ⊢
  | (k, a) :: as, bs, h => by
    cases bs with
    | nil => simp [sameEntries] at h
    | cons b bs =>
      obtain ⟨l, b⟩ := b
      simp only [sameEntries, Bool.and_eq_true] at h
      rw [eq_of_same h.1.1, eq_of_same h.1.2, eq_of_sameEntries h.2]

end

/-- The test decides equality. -/
theorem same_iff_eq {a b : Node} : same a b = true ↔ a = b :=
  ⟨eq_of_same, fun h => h ▸ same_self a⟩

instance : DecidableEq Node := fun _ _ => decidable_of_iff _ same_iff_eq

/-! ## Scalars -/

def digitValue? (c : Char) : Option Nat :=
  if '0' ≤ c ∧ c ≤ '9' then some (c.toNat - '0'.toNat)
  else if 'a' ≤ c ∧ c ≤ 'f' then some (c.toNat - 'a'.toNat + 10)
  else if 'A' ≤ c ∧ c ≤ 'F' then some (c.toNat - 'A'.toNat + 10)
  else none

/-- Reads digits of a base behind an optional sign as a signed 64-bit integer. -/
def integer? (base : Nat) (text : List Char) : Option Int :=
  let (negative, digits) := Number.splitSign text
  if digits.isEmpty then none
  else
    match digits.mapM fun c => (digitValue? c).filter (· < base) with
    | none => none
    | some values =>
      let n := values.foldl (fun n v => base * n + v) 0
      if negative then if n ≤ twoPow 63 then some (-(n : Int)) else none
      else if n < twoPow 63 then some n
      else none

/-- Names of infinity and of the number that is none. -/
def specialReals : List String :=
  [".inf", ".Inf", ".INF", "+.inf", "+.Inf", "+.INF", "-.inf", "-.Inf", "-.INF", ".nan", ".NaN",
    ".NAN"]

/-- Whether a text is a float: one of the names, or a literal that has a digit. -/
def isReal (text : String) : Bool :=
  specialReals.contains text
    || (text.toList.any Char.isDigit && (Number.Double.ofLiteral? text).isSome)

/-- An integer with a mark of its base, or with a plus sign. -/
def markedInteger? (text : List Char) : Option Int :=
  match text with
  | '0' :: 'x' :: digits => integer? 16 digits
  | '0' :: 'o' :: digits => integer? 8 digits
  | '+' :: digits => integer? 10 digits
  | _ => none

/-- The value of a plain scalar without a tag. -/
def ofPlain (text : String) : Node :=
  match markedInteger? text.toList with
  | some i => .int i
  | none =>
    if text = "" ∨ text = "~" ∨ text = "null" then .null
    else if text = "true" ∨ text = "True" ∨ text = "TRUE" then .bool true
    else if text = "false" ∨ text = "False" ∨ text = "FALSE" then .bool false
    else
      match integer? 10 text.toList with
      | some i => .int i
      | none => if isReal text then .real text else .text text

/-- The value of a plain scalar with a tag. Tags of the core schema must fit, any other makes it a
text. -/
def ofTagged (tag : Tag) (text : String) : Node :=
  if tag.handle != Tree.coreHandle then .text text
  else if tag.suffix = "bool" then
    if text = "true" then .bool true else if text = "false" then .bool false else .bad
  else if tag.suffix = "int" then
    match integer? 10 text.toList with
    | some i => .int i
    | none => .bad
  else if tag.suffix = "float" then if isReal text then .real text else .bad
  else if tag.suffix = "null" then if text = "~" ∨ text = "null" then .null else .bad
  else .text text

def ofScalar (tag : Option Tag) (style : Style) (text : String) : Node :=
  match style, tag with
  | .other, _ => .text text
  | .plain, some tag => ofTagged tag text
  | .plain, none => ofPlain text

/-! ## Aliases and keys -/

/-- Anchors seen so far: the latest number of each name, and the value of each number whose node is
complete. -/
structure Anchors where
  next : Nat
  numbers : List (String × Nat)
  values : List (Nat × Node)
deriving Inhabited

namespace Anchors

def declare (anchors : Anchors) : Option String → Option Nat × Anchors
  | none => (none, anchors)
  | some name =>
    (some anchors.next,
      { anchors with next := anchors.next + 1, numbers := (name, anchors.next) :: anchors.numbers })

def complete (anchors : Anchors) (number : Option Nat) (value : Node) : Anchors :=
  match number with
  | none => anchors
  | some n => { anchors with values := (n, value) :: anchors.values }

/-- What an alias names; a node that is not complete is bad. -/
def find (anchors : Anchors) (name : String) : Except Error Node :=
  match anchors.numbers.lookup name with
  | none => .error .unknownAlias
  | some n => .ok ((anchors.values.lookup n).getD .bad)

end Anchors

/-- Pairs keys and values that come in turn. A bad key is passed over, so that the next node is the
key in its place; a key that occurs twice is an error. -/
def entries (pending : Option Node) (sofar : List (Node × Node)) :
    List Node → Except Error (List (Node × Node))
  | [] => .ok sofar.reverse
  | node :: rest =>
    match pending with
    | none => entries (if node = .bad then none else some node) sofar rest
    | some key =>
      if sofar.any (·.1 = key) then .error .duplicateKey
      else entries none ((key, node) :: sofar) rest

mutual

/-- The value of a tree, and the anchors behind it. -/
def ofTree : Tree → Anchors → Except Error (Node × Anchors)
  | .alias name, anchors => (anchors.find name).map (·, anchors)
  | .scalar own style written, anchors =>
    let (number, anchors) := anchors.declare own.anchor
    let value := ofScalar own.tag style written
    .ok (value, anchors.complete number value)
  | .sequence own trees, anchors => do
    let (number, anchors) := anchors.declare own.anchor
    let (items, anchors) ← ofTrees trees anchors
    let value := .sequence items
    return (value, anchors.complete number value)
  | .mapping own trees, anchors => do
    let (number, anchors) := anchors.declare own.anchor
    let (parts, anchors) ← ofTrees trees anchors
    let value := .mapping (← entries none [] parts)
    return (value, anchors.complete number value)

def ofTrees : List Tree → Anchors → Except Error (List Node × Anchors)
  | [], anchors => .ok ([], anchors)
  | tree :: trees, anchors => do
    let (value, anchors) ← ofTree tree anchors
    let (values, anchors) ← ofTrees trees anchors
    return (value :: values, anchors)

end

/-- The values of the documents of a stream; no anchor reaches from one document to the next. -/
def documents (trees : List Tree) : Except Error (List Node) :=
  trees.mapM fun tree => (ofTree tree ⟨0, [], []⟩).map (·.1)

end Node
end SessionGate.Yaml
