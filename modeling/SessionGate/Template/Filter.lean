import SessionGate.Template.Format
import SessionGate.Template.ListFilter
import SessionGate.Template.Test
import SessionGate.Template.TextFilter

/-!
# Filters of templates

`applyFilter` applies a filter to a value and its arguments. Each group of filters has a function of
its own, which gives nothing for a name that is not in it.

A filter that takes any value takes an undefined one too, and one that reads a text does not.
-/
namespace SessionGate.Template
set_option autoImplicit false

/-- The bounds of counts and of signed numbers of 32 and of 64 bits. -/
def countBound : Int := twoPow 64

def smallBound : Int := twoPow 31

def wideBound : Int := twoPow 63

/-- Filters that read a text. -/
def textFilter? (name : String) (v : Value) (given : Given) : Option (Except Error Value) :=
  let text : Except Error String := (Passed.value v).asText
  let plain (most : Nat) (f : String → (Nat → Passed) → Except Error Value) : Except Error Value := do
    let arguments ← given.places most
    f (← text) arguments
  match name with
  | "lower" => some (plain 0 fun s _ => .ok (.plain (Text.lower s)))
  | "upper" => some (plain 0 fun s _ => .ok (.plain (Text.upper s)))
  | "title" => some (plain 0 fun s _ => .ok (.plain (title s)))
  | "capitalize" => some (plain 0 fun s _ => .ok (.plain (capitalize s)))
  | "safe" => some (plain 0 fun s _ => .ok (.text s true))
  | "replace" => some (plain 2 fun s arguments => do
      let old ← (arguments 0).asText
      let new ← (arguments 1).asText
      return .ofChars (Text.replaceText old.toList new.toList s.toList))
  | "trim" => some (plain 1 fun s arguments => do
      match ← (arguments 0).optional Passed.asText with
      | some set => return .ofChars (trimSet set.toList s.toList)
      | none => return .plain (Text.trim s))
  | "indent" => some (plain 3 fun s arguments => do
      let width ← (arguments 0).optional (Passed.asWhole 0 countBound)
      let first ← (arguments 1).optional Passed.asBool
      let blank ← (arguments 2).optional Passed.asBool
      let width := (width.getD 4).toNat
      if FormatDirective.widthLimit < width then throw .argument
      return .plain (indent s width (first.getD false) (blank.getD false)))
  | "split" => some do
      let arguments ← given.places 2
      let s ← (Passed.value v).asExactText
      let separator ← (arguments 0).optional Passed.asExactText
      let most ← (arguments 1).optional (Passed.asWhole (-wideBound) wideBound)
      return splitText s separator most
  | "lines" => some do
      discard (given.places 0)
      let s ← (Passed.value v).asExactText
      return .list .unsized ((Text.lines s.toList).map Value.ofChars)
  | "format" => some do return .plain (← formatText (← text) given)
  | _ => none

/-- Filters that read one value. -/
def valueFilter? (name : String) (v : Value) (given : Given) : Option (Except Error Value) :=
  let alone (f : Except Error Value) : Except Error Value := do
    discard (given.places 0)
    f
  match name with
  | "escape" | "e" => some (alone (.ok (.text v.markup true)))
  | "length" | "count" => some (alone do
      match v.length? with
      | some n => return .int n
      | none => throw .argument)
  | "reverse" => some (alone (reversed v))
  | "int" => some (alone (toInteger v))
  | "float" => some (alone (toFloat v))
  | "abs" => some (alone (absolute v))
  | "string" => some (alone (.ok (if v.rank == 4 then v else .plain v.display)))
  | "bool" => some (alone (.ok (.bool v.isTrue)))
  | "pprint" => some (alone (.ok (.plain (v.pretty 0))))
  | "items" => some (alone do
      match v.entries? with
      | some entries => return .ofItems (entries.map fun (k, w) => .ofItems [k, w])
      | none => throw .argument)
  | "first" => some (alone do
      match v with
      | .text s _ => return (s.toList.head?.map Value.ofChar).getD .undefined
      | v =>
        match v.members? with
        | some items => return items.headD .undefined
        | none => throw .argument)
  | "last" => some (alone do
      match v with
      | .text s _ => return (s.toList.getLast?.map Value.ofChar).getD .undefined
      | .list _ items => return items.getLastD .undefined
      | _ => throw .argument)
  | "min" => some (alone do return least (← v.items))
  | "max" => some (alone do return greatest (← v.items))
  | "list" => some (alone do return .ofItems (← v.items))
  | "sum" => some (alone do sum (← v.items))
  | "attr" => some do v.item (← ((← given.places 1) 0).asValue)
  | "default" | "d" => some do
      let arguments ← given.places 2
      let other := (← (arguments 0).optional Passed.asValue).getD (.plain "")
      let lax ← (arguments 1).optional Passed.asBool
      return if v.isUndefined || (lax.getD false && !v.isTrue) then other else v
  | "round" => some do
      let arguments ← given.places 1
      let places ← (arguments 0).optional (Passed.asWhole (-smallBound) smallBound)
      roundTo v (places.getD 0)
  | "join" => some do
      let joiner ← ((← given.places 1) 0).optional Passed.asText
      match v.items? with
      | some items => return .plain (joined (joiner.getD "") items)
      | none => throw .argument
  | _ => none

/-- Filters that arrange items; most of them know names. -/
def listFilter? (name : String) (v : Value) (given : Given) : Option (Except Error Value) :=
  match name with
  | "dictsort" => some do
      discard (given.placesBeside 0)
      let some entries := v.entries? | throw .argument
      let byValue ←
        match ← (given.option "by").optional Passed.asExactText with
        | none | some "key" => pure false
        | some "value" => pure true
        | some _ => throw .argument
      let caseCounts ← given.flag "case_sensitive"
      let reverse ← given.flag "reverse"
      given.onlyNames ["by", "case_sensitive", "reverse"]
      let sorted := sortBy (fun (a b : Value × Value) =>
        turned reverse (if byValue then order caseCounts a.2 b.2 else order caseCounts a.1 b.1))
        entries
      return .ofItems (sorted.map fun (k, w) => .ofItems [k, w])
  | "sort" => some do
      discard (given.placesBeside 0)
      let items ← v.items
      let caseCounts ← given.flag "case_sensitive"
      let path ← (given.option "attribute").optional Passed.asExactText
      let reverse ← given.flag "reverse"
      given.onlyNames ["attribute", "case_sensitive", "reverse"]
      let cmp := match path with
        | some p => orderByPaths caseCounts (pathsOf p)
        | none => order caseCounts
      return .ofItems (sortBy (fun a b => turned reverse (cmp a b)) items)
  | "unique" => some do
      discard (given.placesBeside 0)
      let path ← (given.option "attribute").optional Passed.asExactText
      let caseCounts ← given.flag "case_sensitive"
      given.onlyNames ["attribute", "case_sensitive"]
      return .ofItems (uniqueItems (← v.items) path caseCounts)
  | "groupby" => some do
      let arguments ← given.placesBeside 1
      let default ← (given.option "default").optional Passed.asValue
      let caseCounts ← given.flag "case_sensitive"
      let path ←
        match ← (arguments 0).optional Passed.asExactText with
        | some p => pure p
        | none => (given.option "attribute").asExactText
      given.onlyNames (["case_sensitive", "default"] ++
        if given.values.isEmpty then ["attribute"] else [])
      match v.items? with
      | some items => return groupItems items path (default.getD .undefined) caseCounts
      | none => throw .argument
  | "batch" => some do
      let arguments ← given.places 2
      let count ← (arguments 0).asWhole 0 countBound
      let filler ← (arguments 1).optional Passed.asValue
      if count = 0 then throw .argument
      let items ← v.items
      if filler.isSome && FormatDirective.widthLimit < count then throw .argument
      return .ofItems (batchItems count.toNat filler (items.length + 1) items)
  | "slice" => some do
      let arguments ← given.places 2
      let count ← (arguments 0).asWhole 0 countBound
      let filler ← (arguments 1).optional Passed.asValue
      if count = 0 || FormatDirective.widthLimit < count then throw .argument
      return .ofItems (columns count.toNat filler (← v.items))
  | "chain" => some do
      chained (v :: (← given.passed.mapM Passed.asValue))
  | "zip" => some do
      zipped (v :: (← given.passed.mapM Passed.asValue))
  | _ => none

/-- Keeps the items that satisfy a test, or that count as true where none is named. -/
def chosenItems (keep : Bool) (path : Option String) (v : Value) (rest : List Passed) :
    Except Error Value := do
  let name ← (rest.headD .missing).optional Passed.asText
  let given : Given :=
    ⟨(rest.drop 1).filterMap fun p =>
        match p with
        | .value v => some v
        | _ => none,
      (rest.drop 1).findSome? fun p =>
        match p with
        | .names entries => some entries
        | _ => none⟩
  if name.any fun n => !testNames.contains n then throw (.unknownTest "")
  let items ← (← v.items).filterM fun w => do
    let subject ←
      match path with
      | some p => w.path p
      | none => pure w
    let passes ←
      match name with
      | some n => applyTest n subject given
      | none => pure subject.isTrue
    return passes == keep
  return .ofItems items

/-- Applies a filter; `fuel` bounds how many filters may name another one. -/
def applyFilterWithin : (fuel : Nat) → (name : String) → Value → Given → Except Error Value
  | 0, _, _, _ => .error .depth
  | fuel + 1, name, v, given =>
    match name with
    | "select" => chosenItems true none v given.passed
    | "reject" => chosenItems false none v given.passed
    | "selectattr" => do
      chosenItems true (some (← (given.passed.headD .missing).asText)) v given.passed.tail
    | "rejectattr" => do
      chosenItems false (some (← (given.passed.headD .missing).asText)) v given.passed.tail
    | "map" => do
      match ← (given.option "attribute").optional Passed.asValue with
      | some path =>
        if !given.values.isEmpty then throw .argument
        let default :=
          match given.option "default" with
          | .value d => d
          | _ => .undefined
        let items ← (← v.items).mapM fun w =>
          let part :=
            match path with
            | .text p _ => w.path p
            | key => w.item key
          match part with
          | .ok w => Except.ok (if w.isUndefined then default else w)
          | .error e => if default.isUndefined then .error e else .ok default
        return .ofItems items
      | none =>
        let filter ← ((given.values.head?.map Passed.value).getD .missing).asExactText
        if !filterNames.contains filter then throw (.unknownFilter filter)
        return .ofItems (← (← v.items).mapM fun w =>
          applyFilterWithin fuel filter w { values := given.values.tail })
    | _ =>
      match textFilter? name v given <|> valueFilter? name v given <|> listFilter? name v given with
      | some result => result
      | none => .error (.unknownFilter name)

/-- Applies a filter. Each filter that is named by another one takes an argument. -/
def applyFilter (name : String) (v : Value) (given : Given) : Except Error Value :=
  applyFilterWithin (given.values.length + 2) name v given

end SessionGate.Template
