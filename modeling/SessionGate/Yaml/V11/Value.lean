import SessionGate.Number.Decimal

/-!
# Values of YAML 1.1 documents

- `Value.ofPlain?` reads a plain scalar as null, boolean, number or text.
- `Value.same` compares keys of mappings, in which the order of entries does not count.
- `Value.text?`, `Value.flag?`, `Value.items?` and `Value.fields?` look into a value of which the type
  is known. A tag of the writer's own does not count there, and null stands for no items.
-/
namespace SessionGate.Yaml.V11
set_option autoImplicit false
open Number (Double)

inductive Value where
  | null
  | bool (value : Bool)
  | int (value : Int)
  | real (value : Double)
  | text (value : String)
  | sequence (items : List Value)
  | mapping (entries : List (Value × Value))
  /-- A value with a tag of the writer's own. -/
  | tagged (tag : String) (value : Value)
deriving Inhabited

/-- The fields of a mapping, in order. -/
abbrev Fields := List (String × Value)

namespace Value

/-! ## Numbers -/

/-- Bases by the letter behind a zero. -/
def bases : List (Char × Nat) := [('x', 16), ('o', 8), ('b', 2)]

def digitValue? (base : Nat) (c : Char) : Option Nat :=
  let value? :=
    if c.isDigit then some (c.toNat - '0'.toNat)
    else if 'a' ≤ c && c ≤ 'f' then some (c.toNat - 'a'.toNat + 10)
    else if 'A' ≤ c && c ≤ 'F' then some (c.toNat - 'A'.toNat + 10)
    else none
  value?.filter (· < base)

/-- The number of some digits, of which there is at least one. -/
def natural? (base : Nat) (digits : List Char) : Option Nat :=
  if digits.isEmpty then none
  else (digits.mapM (digitValue? base)).map fun values => values.foldl (fun n v => base * n + v) 0

/-- The number behind a zero and the letter of a base. -/
def based? : List Char → Option Nat
  | '0' :: letter :: digits => (bases.lookup letter).bind (natural? · digits)
  | _ => none

/-- Whether digits begin with a zero that does not count. Such a text is no number. -/
def isPadded (digits : List Char) : Bool :=
  1 < digits.length && digits.head? = some '0' && digits.all Char.isDigit

/-- Reads an integer: a sign, and digits of ten or of a base that is told. -/
def integer? (text : List Char) : Option Int :=
  let (negative, digits) :=
    match text with
    | '+' :: rest => (false, rest)
    | '-' :: rest => (true, rest)
    | _ => (false, text)
  if isPadded digits then none
  else
    ((based? digits).orElse fun _ => natural? 10 digits).map fun n =>
      if negative then -(n : Int) else n

/-- Reads a float: infinity, no number, or a literal in the range of floats. -/
def real? (text : String) : Option Double :=
  if [".inf", ".Inf", ".INF", "+.inf", "+.Inf", "+.INF"].contains text then
    some (.infinity false)
  else if ["-.inf", "-.Inf", "-.INF"].contains text then some (.infinity true)
  else if [".nan", ".NaN", ".NAN"].contains text then some .nan
  else (Double.ofLiteral? text).filter Double.isFinite

def bool? (text : String) : Option Bool :=
  if ["true", "True", "TRUE"].contains text then some true
  else if ["false", "False", "FALSE"].contains text then some false
  else none

def isNull (text : String) : Bool := ["null", "Null", "NULL", "~"].contains text

/-- Whether an integer can be held: it has a sign and 64 bits, or no sign and 64 bits. -/
def isHeld (n : Int) : Bool := -(twoPow 63) ≤ n && n < twoPow 64

/-- Whether an integer is recognised at all: its size is that of 128 bits. -/
def isRecognised (n : Int) : Bool := -(twoPow 127) ≤ n && n < twoPow 128

/-- The value of a plain scalar; `none` for an integer that is recognised and cannot be held. -/
def ofPlain? (text : String) : Option Value :=
  if text.isEmpty || isNull text then some .null
  else
    match bool? text, (integer? text.toList).filter isRecognised with
    | some b, _ => some (.bool b)
    | none, some n => if isHeld n then some (.int n) else none
    | none, none =>
      match if isPadded ((text.toList.dropWhile fun c => c = '+' || c = '-')) then none
        else real? text with
      | some d => some (.real d)
      | none => some (.text text)

/-! ## Equality -/

/-- Whether two floats are the same key: zero has no sign, and there is one that is no number. -/
def sameReal (a b : Double) : Bool :=
  a = b || (a = .zero false && b = .zero true) || (a = .zero true && b = .zero false)

mutual

/-- Whether two values are the same key. -/
def same : Value → Value → Bool
  | .null, .null => true
  | .bool a, .bool b => a == b
  | .int a, .int b => a == b
  | .real a, .real b => sameReal a b
  | .text a, .text b => a == b
  | .sequence a, .sequence b => sameItems a b
  | .mapping a, .mapping b => a.length == b.length && haveEntries b a
  | .tagged s a, .tagged t b => s == t && same a b
  | _, _ => false

def sameItems : List Value → List Value → Bool
  | [], [] => true
  | a :: as, b :: bs => same a b && sameItems as bs
  | _, _ => false

/-- Whether each of some entries is among others. -/
def haveEntries (others : List (Value × Value)) : List (Value × Value) → Bool
  | [] => true
  | (key, value) :: entries =>
    others.any (fun (k, v) => same key k && same value v) && haveEntries others entries

end

/-! ## Looking into values -/

/-- The value behind the tags of the writer's own. -/
def untagged : Value → Value
  | .tagged _ value => untagged value
  | value => value

def text? (value : Value) : Option String :=
  match value.untagged with
  | .text s => some s
  | _ => none

def flag? (value : Value) : Option Bool :=
  match value.untagged with
  | .bool b => some b
  | _ => none

def items? (value : Value) : Option (List Value) :=
  match value.untagged with
  | .null => some []
  | .sequence items => some items
  | _ => none

/-- The entries of a mapping whose keys are texts. -/
def fields? (value : Value) : Option Fields :=
  match value.untagged with
  | .null => some []
  | .mapping entries =>
    entries.mapM fun (entry : Value × Value) => entry.1.text?.map (·, entry.2)
  | _ => none

/-- Reads a value that can be null. -/
def optional? {α : Type} (read? : Value → Option α) (value : Value) : Option (Option α) :=
  match value with
  | .null => some none
  | value => (read? value).map some

/-- Reads the items of a sequence. -/
def list? {α : Type} (read? : Value → Option α) (value : Value) : Option (List α) :=
  value.items?.bind (·.mapM read?)

mutual

/-- Whether a value is free of tags and of keys that are no texts. -/
def isPlain : Value → Bool
  | .tagged .. => false
  | .sequence items => arePlain items
  | .mapping entries => havePlainEntries entries
  | _ => true

def arePlain : List Value → Bool
  | [] => true
  | item :: items => item.isPlain && arePlain items

def havePlainEntries : List (Value × Value) → Bool
  | [] => true
  | (key, value) :: entries => key.text?.isSome && value.isPlain && havePlainEntries entries

end

end Value

/-! ## Fields -/

namespace Fields

/-- Reads a field that may be missing, and that is given at most once. -/
def optional? {α : Type} (fields : Fields) (name : String) (read? : Value → Option α) :
    Option (Option α) :=
  match fields.filter (·.1 == name) with
  | [] => some none
  | [(_, value)] => value.optional? read?
  | _ => none

/-- Reads a field that must be given, once. -/
def needed? {α : Type} (fields : Fields) (name : String) (read? : Value → Option α) : Option α :=
  match fields.filter (·.1 == name) with
  | [(_, value)] => read? value
  | _ => none

/-- Reads a field that is never null; a value stands for it where it is missing. -/
def filled? {α : Type} (fields : Fields) (name : String) (missing : α) (read? : Value → Option α) :
    Option α :=
  if fields.any (·.1 == name) then fields.needed? name read? else some missing

end Fields
end SessionGate.Yaml.V11
