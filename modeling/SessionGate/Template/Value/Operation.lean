import SessionGate.Number.RealPower
import SessionGate.Template.Value

/-!
# Operations on the values of templates

- `Value.binary` applies an operator and `Value.compared` a comparison; an undefined operand is an
  error of both.
- `Value.contains` looks for a value in another one.
- `Value.slice` takes every so many items.
-/
namespace SessionGate.Template
set_option autoImplicit false
open Number (Double)

namespace Value

/-! ## Arithmetic -/

/-- An integer, if 128 bits hold it. -/
def ofInt (i : Int) : Except Error Value := if fits i then .ok (.int i) else .error .operation

/-- The whole number of a value within bounds, the upper one excluded. -/
def wholeIn (low high : Int) (v : Value) : Except Error Int :=
  match v.whole? with
  | some i => if low ≤ i ∧ i < high then .ok i else .error .argument
  | Option.none => .error .argument

/-- A count: a whole number of 64 bits without a sign. -/
def count (v : Value) : Except Error Nat := (v.wholeIn 0 (twoPow 64)).map Int.toNat

def isList : Value → Bool
  | .list .. => true
  | _ => false

/-- Most characters or items that a repetition makes. -/
def repetitionLimit : Nat := 100000000

/-- Repeats a text or a list. -/
def repeated (v times : Value) : Except Error Value := do
  let n ← times.count
  match v with
  | .text s _ =>
    if repetitionLimit < n * s.length then throw .operation
    return plain (String.join (List.replicate n s))
  | .list form items =>
    if form = .unsized ∨ repetitionLimit < n * items.length then throw .operation
    return .list .sized (List.replicate n items).flatten
  | _ => throw .operation

/-- The integer power, if 128 bits hold it. -/
def powInt (i j : Int) : Except Error Value :=
  if j < 0 ∨ (twoPow 32 : Int) ≤ j then .error .operation
  else if i = 0 ∨ i = 1 then ofInt (if j = 0 then 1 else i)
  else if i = -1 then ofInt (if j % 2 = 0 then 1 else -1)
  else if 128 ≤ j then .error .operation
  else ofInt (Int.pow i j.toNat)

def floats (operator : Operator) (x y : Double) : Except Error Value :=
  match operator with
  | .add => .ok (.float (x.add y))
  | .subtract => .ok (.float (x.add y.negate))
  | .multiply => .ok (.float (x.mul y))
  | .divide => .ok (.float (x.div y))
  | .floorDivide => .ok (.float (x.quotient y))
  | .remainder => .ok (.float (x.remainder y))
  | .power => .ok (.float (x.power y))
  | .concat => .error .operation

def integers (operator : Operator) (i j : Int) : Except Error Value :=
  match operator with
  | .add => ofInt (i + j)
  | .subtract => ofInt (i - j)
  | .multiply => ofInt (i * j)
  | .floorDivide => if j = 0 then .error .operation else ofInt (i / j)
  | .remainder => if j = 0 then .error .operation else ofInt (i % j)
  | .power => powInt i j
  | .divide => .ok (.float ((Double.ofInt i).div (.ofInt j)))
  | .concat => .error .operation

def arithmetic (operator : Operator) (a b : Value) : Except Error Value :=
  match operator with
  | .divide =>
    match a.double? true, b.double? true with
    | some x, some y => .ok (.float (x.div y))
    | _, _ => .error .operation
  | _ =>
    match numbers? true a b with
    | some (.ints i j) => integers operator i j
    | some (.floats x y) => floats operator x y
    | Option.none => .error .operation

/-- Applies an operator; texts and lists can be joined and repeated. -/
def binary (operator : Operator) (a b : Value) : Except Error Value :=
  match operator, a, b with
  | _, .undefined, _ | _, _, .undefined => .error .undefined
  | .add, .text s _, .text t _ => .ok (plain (s ++ t))
  | .add, .list f xs, .list g ys =>
    .ok (.list (if f = .unsized ∨ g = .unsized then .unsized else .sized) (xs ++ ys))
  | .multiply, .text .., _ => a.repeated b
  | .multiply, _, .text .. => b.repeated a
  | .multiply, .list .., _ => a.repeated b
  | .multiply, _, .list .. => b.repeated a
  | .concat, _, _ => .ok (plain (a.display ++ b.display))
  | _, _, _ => arithmetic operator a b

def negate : Value → Except Error Value
  | .int i => if i = twoPow 127 then .ok (.int i) else ofInt (-i)
  | .float d => .ok (.float d.negate)
  | .undefined => .error .undefined
  | _ => .error .operation

/-! ## Comparisons -/

/-- Whether a text stands in another one. -/
def hasInfix (needle : List Char) : List Char → Bool
  | [] => needle.isEmpty
  | c :: rest => needle.isPrefixOf (c :: rest) || hasInfix needle rest

/-- Whether a value is in a text, a list or the keys of a map. -/
def contains (container value : Value) : Except Error Bool :=
  match container with
  | .undefined | .absent | .builtin _ => .ok false
  | .text s _ => .ok (hasInfix value.display.toList s.toList)
  | .list _ items => .ok (items.any (equal · value))
  | v =>
    match v.entries? with
    | some entries => .ok (valueAt? entries value).isSome
    | Option.none => .error .operation

/-- Whether two values relate; an undefined one is an error. -/
def compared (c : Comparison) (a b : Value) : Except Error Bool :=
  match a, b with
  | .undefined, _ | _, .undefined => .error .undefined
  | _, _ =>
    match c with
    | .equal => .ok (equal a b)
    | .unequal => .ok !(equal a b)
    | .less => .ok (compare a b == .lt)
    | .lessEqual => .ok (compare a b != .gt)
    | .greater => .ok (compare a b == .gt)
    | .greaterEqual => .ok (compare a b != .lt)
    | .isIn => contains b a
    | .isNotIn => (contains b a).map not

/-! ## Slices -/

/-- Every `step`-th item, beginning with the first one. -/
def everyNth {α : Type} (step : Nat) (items : List α) : List α :=
  (items.zipIdx.filter fun (_, i) => i % step == 0).map (·.1)

/-- The items from `start` to before `stop`; a negative bound counts from the end. -/
def span {α : Type} (items : List α) (length : Nat) (start : Int) (stop : Option Int) : List α :=
  let bound (i : Int) : Nat := (if i < 0 then length + i else i).toNat
  let low := bound start
  (items.drop low).take ((stop.map bound).getD length - low)

/-- The places from `start` down to `stop`, in steps; without a `stop`, or with one at the first place,
the first place counts too. -/
def placesDown (start stop : Option Int) (step length : Nat) : List Nat :=
  let last : Int := length - 1
  let high : Int :=
    match start with
    | Option.none => last
    | some s => if (length : Int) ≤ s then last else if 0 ≤ s then s else max 0 (length + s)
  let low : Int :=
    match stop with
    | Option.none => 0
    | some s => if s < 0 then max 0 (length + s) else s
  let low := if low = 0 then -1 else low
  if length = 0 then []
  else
    let count := ((high - low + step - 1) / step).toNat
    (List.range count).map fun (i : Nat) => (high - (step : Int) * i).toNat

/-- Cuts items by bounds and a step that is not zero; `length` is how many are known of. -/
def sliceItems {α : Type} (items : List α) (length : Nat) (start stop : Option Int) (step : Int) :
    List α :=
  if 0 < step then everyNth step.toNat (span items length (start.getD 0) stop)
  else (placesDown start stop (-step).toNat length).filterMap fun i => items[i]?

/-- A bound of a slice. -/
def sliceBound (v : Value) : Except Error (Option Int) :=
  match v with
  | .none => .ok Option.none
  | v => (v.wholeIn (-(twoPow 63 : Int)) (twoPow 63)).map some

/-- Cuts a list or a text. -/
def slice (subject start stop step : Value) : Except Error Value := do
  let start ← start.sliceBound
  let stop ← stop.sliceBound
  let step := (← step.sliceBound).getD 1
  if step = 0 then throw .operation
  match subject with
  | .text s _ => return ofChars (sliceItems s.toList s.length start stop step)
  | .list form items =>
    let known := if form = .unsized then 0 else items.length
    return .list (if form = .unsized ∧ 0 < step then .unsized else .sized)
      (sliceItems items known start stop step)
  | .none | .absent => return ofItems []
  | .undefined => throw .undefined
  | _ => throw .operation

end Value
end SessionGate.Template
