import SessionGate.Template.Given
import SessionGate.Text.Split

/-!
# Filters on lists and maps

- `Value.path` follows the parts of a path.
- `sortItems`, `groupItems`, `uniqueItems`, `batchItems` and `sliceItems` arrange items.
- `chained` and `zipped` join lists.
-/
namespace SessionGate.Template
set_option autoImplicit false

/-! ## Paths -/

/-- One step of a path: a number stands for a place. -/
def Value.step (v : Value) (name : List Char) : Except Error Value :=
  match Number.unsigned? (String.ofList name) with
  | some n => v.item (.int n)
  | Option.none => v.part (String.ofList name)

/-- Follows names and numbers with points between them. -/
def Value.path (v : Value) (path : String) : Except Error Value :=
  (Text.splitAll ['.'] Option.none path.toList).foldlM Value.step v

/-- As `path`, with a value for a part that is missing. -/
def Value.pathOr (v default : Value) (path : String) : Value :=
  match v.path path with
  | .ok w => if w.isUndefined then default else w
  | .error _ => default

/-! ## Order -/

/-- The letters of ASCII in lower case. -/
def asciiLower (text : String) : String := String.ofList (text.toList.map Char.toLower)

/-- Order of two values; texts compare without regard to case unless that counts. -/
def order (caseCounts : Bool) (a b : Value) : Ordering :=
  match caseCounts, a, b with
  | false, .text s _, .text t _ => Ord.compare (asciiLower s) (asciiLower t)
  | _, _, _ => a.compare b

/-- The order the other way round, if that is asked for. -/
def turned (reverse : Bool) (o : Ordering) : Ordering := if reverse then o.swap else o

/-- Sorts by an order; items that are level keep their places. -/
def sortBy {α : Type} (cmp : α → α → Ordering) (items : List α) : List α :=
  items.mergeSort fun a b => cmp a b != .gt

/-- Order by several paths, the first that tells the items apart. -/
def orderByPaths (caseCounts : Bool) (paths : List String) (a b : Value) : Ordering :=
  (paths.map fun p => order caseCounts (a.pathOr .undefined p) (b.pathOr .undefined p)).foldl
    Ordering.then .eq

/-- The paths between commas. -/
def pathsOf (text : String) : List String :=
  (Text.splitAll [','] none text.toList).map fun p => Text.trim (String.ofList p)

/-- First item that no other one is below. -/
def least : List Value → Value
  | [] => .undefined
  | v :: vs => vs.foldl (fun best w => if w.compare best == .lt then w else best) v

/-- Last item that no other one is above. -/
def greatest : List Value → Value
  | [] => .undefined
  | v :: vs => vs.foldl (fun best w => if w.compare best == .lt then best else w) v

/-! ## Arrangement -/

/-- Runs of items whose keys are level; a run takes the key of its last item. -/
def runs (caseCounts : Bool) : List (Value × Value) → List (Value × List Value)
  | [] => []
  | (key, v) :: rest =>
    match runs caseCounts rest, rest with
    | (last, items) :: more, (next, _) :: _ =>
      if order caseCounts key next == .eq then (last, v :: items) :: more
      else (key, [v]) :: (last, items) :: more
    | more, _ => (key, [v]) :: more

/-- Groups of the items that share the value at a path. -/
def groupItems (items : List Value) (path : String) (default : Value) (caseCounts : Bool) : Value :=
  let keyed := items.map fun v => (v.pathOr default path, v)
  let sorted := sortBy (fun a b => order caseCounts a.1 b.1) keyed
  .ofItems ((runs caseCounts sorted).map fun (key, items) =>
    .list .group [key, .list .sized items])

/-- Drops items whose key came before; texts are level in lower case unless case counts. -/
def uniqueItems (items : List Value) (path : Option String) (caseCounts : Bool) : List Value :=
  let key (v : Value) : Value :=
    let k := match path with
      | some p => v.pathOr .undefined p
      | none => v
    match caseCounts, k with
    | false, .text s _ => .plain (Text.lower s)
    | _, _ => k
  (items.foldl (fun (kept, seen) v =>
    let k := key v
    if seen.any fun s => s.compare k == .eq then (kept, seen) else (v :: kept, k :: seen))
    (([] : List Value), ([] : List Value))).1.reverse

/-- Rows of `count` items; the last one is filled up. -/
def batchItems (count : Nat) (filler : Option Value) : (fuel : Nat) → List Value → List Value
  | 0, _ => []
  | _ + 1, [] => []
  | fuel + 1, items =>
    let row := items.take count
    let row := match filler with
      | some v => row ++ List.replicate (count - row.length) v
      | none => row
    .ofItems row :: batchItems count filler fuel (items.drop count)

/-- `count` columns of items, the first ones longer by one; the others are filled up. -/
def columns (count : Nat) (filler : Option Value) (items : List Value) : List Value :=
  let size := items.length / count
  let longer := items.length % count
  (List.range count).map fun i =>
    let start := i * size + min i longer
    let column := (items.drop start).take (size + if i < longer then 1 else 0)
    match filler with
    | some v => .ofItems (if longer ≤ i then column ++ [v] else column)
    | none => .ofItems column

/-- One after the other: maps are one map, lists one list, other values one run of items. -/
def chained (values : List Value) : Except Error Value := do
  if values.all fun v => v.entries?.isSome then
    return .map none (Value.ofEntries (values.flatMap fun v => v.entries?.getD []))
  let parts ← values.mapM fun v =>
    match v.items? with
    | some items => Except.ok items
    | none => .error .argument
  let isSequence (v : Value) : Bool := v.rank == 6
  return .list (if values.all isSequence then .sequence else .unsized) parts.flatten

/-- Rows of the items at the same place, as long as there are any. -/
def zipRows : (fuel : Nat) → List (List Value) → List Value
  | 0, _ => []
  | fuel + 1, columns =>
    match columns.mapM List.head? with
    | some row => .ofItems row :: zipRows fuel (columns.map List.tail)
    | none => []

def zipped (values : List Value) : Except Error Value := do
  let columns ← values.mapM fun v =>
    match v.items? with
    | some items => Except.ok items
    | none => .error .argument
  return .list .unsized (zipRows ((columns.map List.length).foldl max 0 + 1) columns)

/-- Texts of items with a joiner between them; there is none in front of the first text. -/
def joined (joiner : String) (items : List Value) : String :=
  items.foldl (fun text v => (if text.isEmpty then text else text ++ joiner) ++ v.display) ""

/-- Sum of numbers; an undefined item does not count. -/
def sum (items : List Value) : Except Error Value :=
  items.foldlM (fun total v =>
    match v with
    | .undefined | .absent => .ok total
    | .int _ | .float _ => Value.binary .add total v
    | _ => .error .argument) (.int 0)

/-- The items from the last to the first. -/
def reversed (v : Value) : Except Error Value :=
  match v with
  | .undefined | .absent | .none => .ok v
  | .text s _ => .ok (Value.ofChars s.toList.reverse)
  | v =>
    match v.members? with
    | some items => .ok (.list .sized items.reverse)
    | none => .error .argument

end SessionGate.Template
