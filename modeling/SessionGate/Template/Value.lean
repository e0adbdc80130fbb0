import SessionGate.Number.Arithmetic
import SessionGate.Template.Statement
import SessionGate.Text.Quoted

/-!
# Values of templates

- `Value.display` writes a value into the output, `Value.repr` inside a list or a map, and
  `Value.pretty` over several lines.
- `Value.compare` orders all values: by kind first, numbers by size, texts by their characters, lists
  by their items and maps by their entries.
- `Value.equal` tells equal values; here a Boolean counts as a number.
-/
namespace SessionGate.Template
set_option autoImplicit false
open Number (Double)

/-- What kind of list a list is. -/
inductive ListForm where
  /-- A list that was written or collected. -/
  | sequence
  /-- A key with the items that share it, also reached by the names of the two. -/
  | group
  /-- Items that are made one after the other, with their number known. -/
  | sized
  /-- Items that are made one after the other until there is no more. -/
  | unsized
deriving DecidableEq, Inhabited

inductive Builtin where
  | range
  | dict
  | namespaceOf
  | debug
deriving DecidableEq, Inhabited

def Builtin.ofName? : String → Option Builtin
  | "range" => some .range
  | "dict" => some .dict
  | "namespace" => some .namespaceOf
  | "debug" => some .debug
  | _ => none

/-- A value. Namespaces, loops and closures are numbers of what the rendering keeps of them. -/
inductive Value where
  | undefined
  /-- Undefined too, but no error where it is printed: a choice that has no other part. -/
  | absent
  | none
  | bool (value : Bool)
  | int (value : Int)
  | float (value : Double)
  /-- A safe text is not escaped. -/
  | text (value : String) (safe : Bool)
  | list (form : ListForm) (items : List Value)
  /-- Entries in the order of their keys; a label is printed in their place. -/
  | map (label : Option String) (entries : List (Value × Value))
  | space (number : Nat)
  | loop (number : Nat)
  | function (name : String) (parameters : Parameters) (asksCaller : Bool)
      (body : List Statement) (closure : Option Nat)
  | builtin (which : Builtin)
deriving Inhabited

namespace Value

/-- A text that is escaped where that is asked for. -/
def plain (s : String) : Value := .text s false

def ofChars (text : List Char) : Value := plain (String.ofList text)

def ofChar (c : Char) : Value := ofChars [c]

def ofItems (items : List Value) : Value := .list .sequence items

/-- The entries of a function that can be asked for. -/
def functionEntries (name : String) (parameters : Parameters) (asksCaller : Bool) :
    List (Value × Value) :=
  [(plain "name", plain name),
    (plain "arguments", ofItems (parameters.map fun (p, _) => plain p)),
    (plain "caller", .bool asksCaller)]

/-! ## Text -/

mutual

/-- Form of a value inside a list or a map. -/
def repr : Value → String
  | .undefined | .absent => "undefined"
  | .none => "None"
  | .bool b => if b then "True" else "False"
  | .int i => toString i
  | .float d => d.compact
  | .text s _ => Text.quoted s
  | .list .unsized _ => "<iterator>"
  | .list _ items => "[" ++ String.intercalate ", " (reprItems items) ++ "]"
  | .map (some label) _ => label
  | .map Option.none entries =>
    "\x7b" ++ String.intercalate ", " (reprEntries entries) ++ "\x7d"
  | .function name .. => "<macro " ++ name ++ ">"
  | .space _ | .loop _ => "\x7b\x7d"
  | .builtin _ => "function"

def reprItems : List Value → List String
  | [] => []
  | v :: vs => repr v :: reprItems vs

def reprEntries : List (Value × Value) → List String
  | [] => []
  | (k, v) :: rest => (repr k ++ ": " ++ repr v) :: reprEntries rest

end

/-- Form of a value in the output. -/
def display : Value → String
  | .undefined | .absent => ""
  | .text s _ => s
  | .float d => d.pointed
  | v => v.repr

/-- A line at an indentation. -/
private def lineAt (indent : Nat) (text : String) : String :=
  String.ofList ('\n' :: List.replicate indent ' ') ++ text

mutual

/-- Form of a value with each item on a line of its own. -/
def pretty (indent : Nat) : Value → String
  | .list .unsized _ => "<iterator>"
  | .list _ [] => "[]"
  | .list _ items => "[" ++ prettyItems (indent + 4) items ++ lineAt indent "]"
  | .map Option.none [] => "\x7b\x7d"
  | .map Option.none entries =>
    "\x7b" ++ prettyEntries (indent + 4) entries ++ lineAt indent "\x7d"
  | v => v.repr

def prettyItems (indent : Nat) : List Value → String
  | [] => ""
  | v :: vs => lineAt indent (pretty indent v ++ ",") ++ prettyItems indent vs

def prettyEntries (indent : Nat) : List (Value × Value) → String
  | [] => ""
  | (k, v) :: rest =>
    lineAt indent (pretty indent k ++ ": " ++ pretty indent v ++ ",") ++ prettyEntries indent rest

end

/-! ## Numbers -/

/-- Whether an integer has 128 bits with a sign. -/
def fits (i : Int) : Bool := -(twoPow 127 : Int) ≤ i && i < twoPow 127

/-- The whole number that a float stands for, if 64 bits with a sign hold it; the number just above
them counts as the greatest of them. -/
def wholeDouble? (d : Double) : Option Int :=
  match d.view with
  | .finite negative m q =>
    let n : Int := if 0 ≤ q then m * twoPow q.toNat else (m / twoPow (-q).toNat : Nat)
    let i := if negative then -n else n
    if q < 0 && m % twoPow (-q).toNat != 0 then Option.none
    else if -(twoPow 63 : Int) ≤ i ∧ i < twoPow 63 then some i
    else if i = twoPow 63 then some (i - 1)
    else Option.none
  | _ => Option.none

/-- The whole number that a value stands for. -/
def whole? : Value → Option Int
  | .bool b => some (if b then 1 else 0)
  | .int i => some i
  | .float d => wholeDouble? d
  | _ => Option.none

/-- The quotient that a number is. -/
def ratio? : Value → Option (Int × Nat)
  | .int i => some (i, 1)
  | .bool b => some (if b then 1 else 0, 1)
  | .float d =>
    match d.view with
    | .finite negative m q =>
      let sign : Int := if negative then -1 else 1
      if 0 ≤ q then some (sign * m * twoPow q.toNat, 1) else some (sign * m, twoPow (-q).toNat)
    | _ => Option.none
  | _ => Option.none

/-- A number as a float; one that is not exact only where that does not matter. The greatest whole
numbers of 64 and of 128 bits count as the floats just above them. -/
def double? (inexact : Bool) (v : Value) : Option Double :=
  match v with
  | .float d => some d
  | _ =>
    match v.whole? with
    | some i =>
      let d := Double.ofInt i
      let isExact :=
        match ratio? (.float d) with
        | some (n, den) => n == i * den
        | Option.none => false
      if inexact || isExact || i = twoPow 64 - 1 || i = twoPow 128 - 1 then some d else Option.none
    | Option.none => Option.none

/-- Two numbers brought to one form. -/
inductive Numbers where
  | ints (a b : Int)
  | floats (a b : Double)

def isFloat : Value → Bool
  | .float _ => true
  | _ => false

/-- Brings two numbers to one form: to floats when one of them is a float. -/
def numbers? (inexact : Bool) (a b : Value) : Option Numbers :=
  if a.isFloat || b.isFloat then
    match a.double? inexact, b.double? inexact with
    | some x, some y => some (.floats x y)
    | _, _ => Option.none
  else
    match a.whole?, b.whole? with
    | some i, some j =>
      if fits i && fits j then some (.ints i j)
      else if twoPow 127 ≤ i ∧ twoPow 127 ≤ j then some (.ints (i - twoPow 128) (j - twoPow 128))
      else Option.none
    | _, _ => Option.none

/-- Place of a pattern among all of them, by size; a negative zero is below zero. -/
def totalPlace (d : Double) : Int :=
  let n := d.bits.toNat
  if n < twoPow 63 then n else (twoPow 63 : Int) - n - 1

/-! ## Order -/

/-- Rank of the kind of a value. -/
def rank : Value → Nat
  | .undefined | .absent => 0
  | .none => 1
  | .bool _ => 2
  | .int _ | .float _ => 3
  | .text .. => 4
  | .list .sequence _ | .list .group _ => 6
  | .map .. | .function .. | .space _ | .loop _ => 7
  | .list .sized _ | .list .unsized _ => 8
  | .builtin _ => 9

/-- Order of two values that hold no others. -/
def compareSingle (a b : Value) : Ordering :=
  match Ord.compare a.rank b.rank with
  | .eq =>
    match numbers? false a b with
    | some (.ints i j) => Ord.compare i j
    | some (.floats x y) => Ord.compare (totalPlace x) (totalPlace y)
    | Option.none =>
      match ratio? a, ratio? b with
      | some (m, d), some (n, e) => Ord.compare (m * e) (n * d)
      | _, _ => Ord.compare a.display b.display
  | o => o

mutual

/-- Order of two values. -/
def compare : Value → Value → Ordering
  | .text a _, .text b _ => Ord.compare a b
  | .list f xs, .list g ys =>
    (Ord.compare (rank (.list f [])) (rank (.list g []))).then (compareItems xs ys)
  | .map _ xs, .map _ ys => compareEntries xs ys
  | a, b => compareSingle a b

def compareItems : List Value → List Value → Ordering
  | [], [] => .eq
  | [], _ :: _ => .lt
  | _ :: _, [] => .gt
  | a :: as, b :: bs => (compare a b).then (compareItems as bs)

def compareEntries : List (Value × Value) → List (Value × Value) → Ordering
  | [], [] => .eq
  | [], _ :: _ => .lt
  | _ :: _, [] => .gt
  | (k, v) :: as, (l, w) :: bs => ((compare k l).then (compare v w)).then (compareEntries as bs)

end

/-! ## Equality -/

/-- Equality of two values that hold no others. -/
def equalSingle (a b : Value) : Bool :=
  match a, b with
  | .none, .none => true
  | .undefined, .undefined | .undefined, .absent | .absent, .undefined | .absent, .absent => true
  | .builtin f, .builtin g => f == g
  | .function f ps c .., .function g qs d .. => f == g && ps.map (·.1) == qs.map (·.1) && c == d
  | _, _ =>
    match numbers? false a b with
    | some (.ints i j) => i == j
    | some (.floats x y) =>
      match ratio? (.float x), ratio? (.float y) with
      | some (m, d), some (n, e) => m * e == n * d
      | _, _ => x.view != .nan && x == y
    | Option.none => false

mutual

def equal : Value → Value → Bool
  | .text a _, .text b _ => a == b
  | .list _ xs, .list _ ys => equalItems xs ys
  | .map _ xs, .map _ ys => equalEntries xs ys
  | a, b => equalSingle a b

def equalItems : List Value → List Value → Bool
  | [], [] => true
  | a :: as, b :: bs => equal a b && equalItems as bs
  | _, _ => false

/-- Both have their entries in the order of the keys. -/
def equalEntries : List (Value × Value) → List (Value × Value) → Bool
  | [], [] => true
  | (k, v) :: as, (l, w) :: bs => compare k l == .eq && equal v w && equalEntries as bs
  | _, _ => false

end

/-! ## Maps -/

/-- Adds an entry at its place; an equal key keeps its form and takes the new value. -/
def insert (key value : Value) : List (Value × Value) → List (Value × Value)
  | [] => [(key, value)]
  | (k, v) :: rest =>
    match compare key k with
    | .lt => (key, value) :: (k, v) :: rest
    | .eq => (k, value) :: rest
    | .gt => (k, v) :: insert key value rest

/-- A map of entries, of which the later ones win. -/
def ofEntries (entries : List (Value × Value)) : List (Value × Value) :=
  entries.foldl (fun map (k, v) => insert k v map) []

def valueAt? (entries : List (Value × Value)) (key : Value) : Option Value :=
  (entries.find? fun (k, _) => compare k key == .eq).map (·.2)

/-- A value among named ones. -/
def named? (entries : List (Value × Value)) (name : String) : Option Value :=
  valueAt? entries (plain name)

/-! ## Parts -/

def isUndefined : Value → Bool
  | .undefined | .absent => true
  | _ => false

/-- The entries of a value that is a map. -/
def entries? : Value → Option (List (Value × Value))
  | .map _ entries => some entries
  | .function name parameters asks .. => some (functionEntries name parameters asks)
  | .space _ | .loop _ => some []
  | _ => Option.none

/-- The items of a value that holds others. -/
def members? : Value → Option (List Value)
  | .list _ items => some items
  | v => v.entries?.map fun entries => entries.map (·.1)

/-- The items that a loop goes through: characters of a text, keys of a map, nothing of nothing. -/
def items? : Value → Option (List Value)
  | .undefined | .absent | .none => some []
  | .text s _ => some (s.toList.map ofChar)
  | v => v.members?

/-- As `items?`; an undefined value is an error. -/
def items (v : Value) : Except Error (List Value) :=
  match v with
  | .undefined => .error .undefined
  | v =>
    match v.items? with
    | some items => .ok items
    | Option.none => .error .operation

/-- How many items a value has, where that is known. -/
def length? : Value → Option Nat
  | .text s _ => some s.length
  | .list .unsized _ => Option.none
  | v => v.members?.map (·.length)

/-- Whether a value counts as true. -/
def isTrue : Value → Bool
  | .undefined | .absent | .none => false
  | .bool b => b
  | .int i => i != 0
  | .float d => d != .zero false && d != .zero true
  | .text s _ => !s.isEmpty
  | .loop _ => true
  | v => v.length? != some 0

/-- As `isTrue`; an undefined value is an error. -/
def truth : Value → Except Error Bool
  | .undefined => .error .undefined
  | v => .ok v.isTrue

/-- The place that a key stands for in `length` items; a negative one counts from the end. -/
def place? (key : Value) (length : Option Nat) : Option Nat :=
  match key.whole? with
  | some i =>
    if !(-(twoPow 63 : Int) ≤ i && i < twoPow 63) then Option.none
    else if 0 ≤ i then some i.toNat
    else length.bind fun n => if (-i).toNat ≤ n then some (n - (-i).toNat) else Option.none
  | Option.none => Option.none

/-- The part of a value that a key stands for. -/
def item? (subject key : Value) : Option Value :=
  match subject with
  | .list form items =>
    let name :=
      match form, key with
      | .group, .text "grouper" _ => some 0
      | .group, .text "list" _ => some 1
      | _, _ => Option.none
    (name <|> place? key (if form = .unsized then Option.none else some items.length)).bind
      fun i => items[i]?
  | .text s _ => (place? key (some s.length)).bind fun i => s.toList[i]?.map ofChar
  | v => v.entries?.bind fun entries => valueAt? entries key

/-- As `item?`: a part that is missing is undefined, and an undefined value has no parts. -/
def item (subject key : Value) : Except Error Value :=
  match subject.item? key with
  | some v => .ok v
  | Option.none => if subject.isUndefined then .error .undefined else .ok .undefined

/-- A part by its name. -/
def part (subject : Value) (name : String) : Except Error Value :=
  match subject with
  | .text .. => .ok .undefined
  | v => v.item (plain name)

end Value
end SessionGate.Template
