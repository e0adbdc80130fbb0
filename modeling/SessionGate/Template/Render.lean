import SessionGate.Template.Filter
import SessionGate.Template.Heap
import SessionGate.Template.Statement.Parser

/-!
# Rendering of templates

- `eval` gives the value of an expression, `render` the text of a statement; both work on a `Machine`.
- `callFunction` renders the body of a function in frames of its own, over what it captured.
- `renderText` reads and renders a whole template.

All are bounded by the depth of nesting, not by the length of a template or of a loop. An undefined
value is an error where it is printed, tested, gone through, compared or asked for a part.
-/
namespace SessionGate.Template
set_option autoImplicit false

/-- Steps of a rendering. -/
abbrev Run := StateT Machine (Except Error)

/-- A value with its references replaced. -/
def viewed (v : Value) : Run Value := return (← get).heap.view v

/-- A value that is no reference; the values in it may be. -/
def opened (v : Value) : Run Value := do
  match v with
  | .space _ | .loop _ => return (← get).heap.viewWithin 1 v
  | v => return v

def truthOf (v : Value) : Run Bool := do (← opened v).truth

/-- The text of a value in the output. -/
def emitted (v : Value) : Run String := do
  match v with
  | .undefined => throw .undefined
  | v =>
    let w ← viewed v
    return if (← get).escaping then w.markup else w.display

/-- A text that was rendered; it is safe where texts are escaped. -/
def renderedText (text : String) : Run Value := return .text text (← get).escaping

/-- Runs steps in a frame of their own. -/
def inFrame {α : Type} (f : Frame) (steps : Run α) : Run α := do
  set (← (← get).push f)
  let r ← steps
  modify Machine.pop
  return r

/-! ## Functions -/

/-- Most numbers that a range may have. -/
def rangeLimit : Nat := 100000

/-- Numbers from the first bound to before the second one; a single bound is the second one. -/
def range (given : Given) : Except Error Value := do
  let arguments ← given.places 3
  let bound := Passed.asWhole (-wideBound) wideBound
  let first ← bound (arguments 0)
  let second ← (arguments 1).optional bound
  let step := (← (arguments 2).optional bound).getD 1
  let (low, high) := match second with
    | some high => (first, high)
    | none => (0, first)
  if step = 0 then throw .argument
  let distance := (if 0 < step then high - low else low - high).toNat
  let count := (distance + step.natAbs - 1) / step.natAbs
  if rangeLimit < count then throw .argument
  return .list .sized ((List.range count).map fun (i : Nat) => .int (low + step * i))

/-- A map of the named arguments, above the entries of a map that is given. -/
def dictionary (given : Given) : Except Error Value := do
  let entries ←
    match ← ((← given.placesBeside 1) 0).optional Passed.asValue with
    | none => pure []
    | some v =>
      match v.entries? with
      | some entries => pure entries
      | none => throw .argument
  return .map none (Value.ofEntries (entries ++ given.named.getD []))

/-- The entries of a new namespace, those whose keys are texts. -/
def namespaceEntries (given : Given) : Except Error (List (Value × Value)) := do
  match ← ((← given.places 1) 0).optional Passed.asValue with
  | none => return []
  | some v =>
    match v.entries? with
    | some entries => return Value.ofEntries (entries.filter fun (k, _) => k.rank == 4)
    | none => throw .argument

/-- Calls a function that is always there. -/
def callBuiltin (f : Builtin) (given : Given) : Run Value := do
  match f with
  | .range => range given
  | .dict => dictionary given
  | .namespaceOf =>
    let entries ← namespaceEntries given
    let (n, m) := (← get).newSpace entries
    set m
    return .space n
  | .debug =>
    match ← given.passed.mapM fun p => p.asValue with
    | [v] => return .plain (v.pretty 0)
    | vs => return .plain ((Value.ofItems vs).pretty 0)

/-- The value of each parameter, undefined where none is passed. -/
def parameterValues (parameters : Parameters) (given : Given) : Except Error (List Value) :=
  parameters.zipIdx.mapM fun ((name, _), i) =>
    match given.values[i]?, Value.named? (given.named.getD []) name with
    | some _, some _ => .error .argument
    | some v, none | none, some v => .ok v
    | none, none => .ok .undefined

/-- The values of the parameters; there may be no others, but for the block of the caller. -/
def bindParameters (parameters : Parameters) (asksCaller : Bool) (given : Given) :
    Except Error (List Value) := do
  if parameters.length < given.values.length then throw .argument
  let values ← parameterValues parameters given
  let known (name : String) : Bool :=
    parameters.any (·.1 == name) || (asksCaller && name == "caller")
  if (given.named.getD []).any fun (k, _) =>
    match k with
    | .text name _ => !known name
    | _ => false
  then throw .argument
  return values

/-- The machine that renders the body of a function: a frame over what it captured, and one over what
the template is given. -/
def functionMachine (m : Machine) (closure : Option Nat) (locals : List (String × Value)) :
    Except Error Machine :=
  let base := match closure with
    | some n => Base.closure n
    | none => .nothing
  let root := (m.frames.getLast?.map (·.base)).getD .nothing
  let inner := { m with
    frames := [{ locals, base }, { base := root }], outer := m.depth + callCost, blocks := [] }
  if frameLimit < inner.depth then .error .depth else .ok inner

/-- The names of other templates in a value. -/
def templateNames (v : Value) : Except Error (List Value) :=
  let names := v.members?.getD [v]
  if names.all fun n => n.rank == 4 then .ok names else .error .operation

/-- Filters whose result may be a part of their subject. -/
def keepsReferences (name : String) : Bool := ["d", "default", "first", "last", "list"].contains name

/-- How many items a loop goes through, where that is known. -/
def loopLength : Value → Option Nat
  | .list .unsized _ => none
  | v => v.items?.map (·.length)

/-- Arguments with their references replaced. -/
def viewedGiven (given : Given) : Run Given := do
  let h := (← get).heap
  return ⟨given.values.map h.view, given.named.map fun es => es.map fun (k, v) => (k, h.view v)⟩

/-! ## Evaluation -/

/-- The block that a call hands to a function. -/
structure CallerBlock where
  parameters : Parameters
  captured : List String
  asksCaller : Bool
  body : List Statement

mutual

/-- The value of an expression. -/
def eval : (fuel : Nat) → Expr → Run Value
  | 0, _ => throw .depth
  | fuel + 1, e => do
    match e with
    | .none => return .none
    | .bool b => return .bool b
    | .int n => return .int n
    | .float d => return .float d
    | .text s => return .plain s
    | .name name => return ((← get).lookup name).getD .undefined
    | .list es => return .ofItems (← es.mapM (eval fuel))
    | .map es =>
      let entries ← es.mapM fun (k, v) => return (← eval fuel k, ← eval fuel v)
      return .map Option.none (Value.ofEntries entries)
    | .not e => return .bool !(← truthOf (← eval fuel e))
    | .negate e => (← eval fuel e).negate
    | .both a b =>
      let v ← eval fuel a
      if ← truthOf v then eval fuel b else return v
    | .either a b =>
      let v ← eval fuel a
      if ← truthOf v then return v else eval fuel b
    | .compare first rest => compareAll fuel (← eval fuel first) rest
    | .binary operator a b =>
      let v ← eval fuel a
      let w ← eval fuel b
      Value.binary operator (← viewed v) (← viewed w)
    | .choice condition yes no =>
      if ← truthOf (← eval fuel condition) then eval fuel yes
      else
        match no with
        | some e => eval fuel e
        | Option.none => return .absent
    | .part subject name => (← opened (← eval fuel subject)).part name
    | .item subject key =>
      let v ← opened (← eval fuel subject)
      v.item (← eval fuel key)
    | .slice subject start stop step =>
      let v ← eval fuel subject
      let bound (e : Option Expr) : Run Value :=
        match e with
        | some e => eval fuel e
        | Option.none => return .none
      let start ← bound start
      let stop ← bound stop
      Value.slice v start stop (← bound step)
    | .filter name subject given => filtered fuel name (← eval fuel subject) given
    | .test name subject given =>
      let v ← eval fuel subject
      let given ← arguments fuel given
      return .bool (← applyTest name (← viewed v) (← viewedGiven given))
    | .call f given => invoke fuel f given Option.none

/-- Compares neighbours until one comparison fails. -/
def compareAll : (fuel : Nat) → Value → List (Comparison × Expr) → Run Value
  | 0, _, _ => throw .depth
  | _ + 1, _, [] => return .bool true
  | fuel + 1, left, (c, e) :: rest => do
    let right ← eval fuel e
    let holds ← Value.compared c (← viewed left) (← viewed right)
    if rest.isEmpty || !holds then return .bool holds else compareAll fuel right rest

/-- Applies a filter with arguments. -/
def filtered : (fuel : Nat) → String → Value → Arguments → Run Value
  | 0, _, _, _ => throw .depth
  | fuel + 1, name, v, given => do
    let given ← arguments fuel given
    if keepsReferences name then applyFilter name (← opened v) given
    else applyFilter name (← viewed v) (← viewedGiven given)

/-- The values of arguments: those by place first, then those by name. -/
def arguments : (fuel : Nat) → Arguments → Run Given
  | 0, _ => throw .depth
  | fuel + 1, given => do
    let values ← given.mapM fun (form, e) => do
      match form with
      | .value => return [← eval fuel e]
      | .spread =>
        match (← opened (← eval fuel e)).items? with
        | some items => return items
        | Option.none => throw .argument
      | _ => return []
    let named ← given.mapM fun (form, e) => do
      match form with
      | .named name => return some [(Value.plain name, ← eval fuel e)]
      | .spreadNamed =>
        let v ← opened (← eval fuel e)
        match v.entries?, v with
        | some entries, _ => return some entries
        | Option.none, .list _ items =>
          return some (items.zipIdx.map fun (v, i) => (Value.int i, v))
        | _, _ => throw .argument
      | _ => return Option.none
    let named := named.filterMap id
    return ⟨values.flatten, if named.isEmpty then none else some (Value.ofEntries named.flatten)⟩

/-- Calls what an expression names; `caller` is a block that is handed over. -/
def invoke : (fuel : Nat) → Expr → Arguments → Option CallerBlock → Run Value
  | 0, _, _, _ => throw .depth
  | fuel + 1, f, given, caller => do
    match f with
    | .part (.name "self") name => renderedText (← renderBlock fuel name)
    -- a block stands above no other one
    | .name "super" => throw .operation
    | .name "loop" =>
      match (← fullArguments fuel given caller).passed with
      | [p] => callLoop fuel (← p.asValue)
      | _ => throw .argument
    | .name name =>
      let given ← fullArguments fuel given caller
      match (← get).lookup name with
      | some v => callValue fuel v given
      | Option.none => throw .unknownFunction
    | .part subject name =>
      let v ← eval fuel subject
      let given ← fullArguments fuel given caller
      callMethod fuel v name given
    | f =>
      let v ← eval fuel f
      callValue fuel v (← fullArguments fuel given caller)

/-- The arguments of a call, with the block of the caller among the named ones. -/
def fullArguments : (fuel : Nat) → Arguments → Option CallerBlock → Run Given
  | 0, _, _ => throw .depth
  | fuel + 1, given, caller => do
    let given ← arguments fuel given
    match caller with
    | Option.none => return given
    | some block =>
      let (closure, m) := (← get).capture block.captured
      set m
      let v := Value.function "caller" block.parameters block.asksCaller block.body closure
      return { given with
        named := some (Value.insert (.plain "caller") v (given.named.getD [])) }

def callValue : (fuel : Nat) → Value → Given → Run Value
  | 0, _, _ => throw .depth
  | fuel + 1, v, given => do
    match v with
    | .function _ parameters asks body closure =>
      callFunction fuel parameters asks body closure given
    | .builtin f => callBuiltin f (← viewedGiven given)
    | _ => throw .operation

/-- Calls a part of a value. A loop tells whether values changed, and gives one value after the other
in turn. -/
def callMethod : (fuel : Nat) → Value → String → Given → Run Value
  | 0, _, _, _ => throw .depth
  | fuel + 1, v, name, given => do
    match v, name with
    | .loop n, "changed" =>
      let values := (← viewedGiven given).passed.map fun p => (p.asValue.toOption).getD .none
      let same := match ((← get).heap.loop n).changed with
        | some old => Value.equalItems old values
        | Option.none => false
      modify (Machine.updateLoop n fun run => { run with changed := some values })
      return .bool !same
    | .loop n, "cycle" =>
      let values := given.passed
      let i := ((← get).heap.loop n).index % values.length
      match values[i]? with
      | some p => p.asValue
      | Option.none => return .undefined
    | v, _ =>
      match ← opened v with
      | .map _ entries =>
        match Value.named? entries name with
        | some f => callValue fuel f given
        | Option.none => throw .unknownFunction
      | _ => throw .unknownFunction

/-- The text of a function of the template. -/
def callFunction : (fuel : Nat) → Parameters → (asksCaller : Bool) → List Statement →
    (closure : Option Nat) → Given → Run Value
  | 0, _, _, _, _, _ => throw .depth
  | fuel + 1, parameters, asks, body, closure, given => do
    let values ← bindParameters parameters asks given
    let caller := (Value.named? (given.named.getD []) "caller").getD .undefined
    let outside ← get
    set (← functionMachine outside closure (if asks then [("caller", caller)] else []))
    -- the last parameter is bound first, and defaults see those behind them only
    for ((name, default), v) in (parameters.zip values).reverse do
      match default with
      | some e =>
        if v.isUndefined then
          let v ← eval fuel e
          modify (Machine.store name v)
        else modify (Machine.store name v)
      | Option.none => modify (Machine.store name v)
    let text ← renderAll fuel body
    modify fun m => { outside with heap := m.heap }
    renderedText text

/-- Goes through the innermost loop again with other items. -/
def callLoop : (fuel : Nat) → Value → Run Value
  | 0, _ => throw .depth
  | fuel + 1, v => do
    match (← get).currentLoop with
    | some ⟨_, _, some (target, body)⟩ =>
      let v ← opened v
      renderedText (← loopOver fuel target true body (loopLength v) (← v.items))
    | _ => throw .operation

/-- The text of a block with a name. -/
def renderBlock : (fuel : Nat) → String → Run String
  | 0, _ => throw .depth
  | fuel + 1, name => do
    match (← get).blocks.lookup name with
    | some (false, body) => inFrame {} (renderAll fuel body)
    | _ => throw .operation

/-- The text of a loop's body for each of the items; `length` is how many are known of. -/
def loopOver : (fuel : Nat) → Target → (recursive : Bool) → List Statement →
    (length : Option Nat) → List Value → Run String
  | 0, _, _, _, _, _ => throw .depth
  | fuel + 1, target, recursive, body, length, items => do
    let m ← get
    let depth := match m.currentLoop with
      | some ⟨n, _, some _⟩ => (m.heap.loop n).depth + 1
      | _ => 0
    let count := items.length
    let (n, m) := m.newLoop { length, depth }
    set m
    let again := if recursive then some (target, body) else none
    inFrame { loop := some ⟨n, true, again⟩ } do
      let all := items.toArray
      let mut text := ""
      for (v, i) in items.zipIdx do
        modify (Machine.updateLoop n fun run => { run with
          index := i
          previous := if i = 0 then .undefined else all[i - 1]?.getD .undefined
          next := all[i + 1]?.getD .undefined
          atEnd := i + 1 == count })
        bindTarget fuel target v
        text := text ++ (← renderAll fuel body)
      modify (Machine.updateLoop n fun run => { run with
        index := count
        previous := all.back?.getD .undefined
        next := .undefined
        atEnd := false })
      return text

/-- The items of a loop that satisfy its condition. -/
def loopItems : (fuel : Nat) → Target → Option Expr → List Value → Run (List Value)
  | 0, _, _, _ => throw .depth
  | _ + 1, _, Option.none, items => return items
  | fuel + 1, target, some condition, items =>
    inFrame { loop := some ⟨0, false, none⟩ } do
      items.filterM fun v => do
        bindTarget fuel target v
        truthOf (← eval fuel condition)

/-- Binds a target to a value: as many parts as there are items. -/
def bindTarget : (fuel : Nat) → Target → Value → Run Unit
  | 0, _, _ => throw .depth
  | fuel + 1, target, v => do
    match target with
    | .name name => modify (Machine.store name v)
    | .part subject name =>
      match ← eval fuel subject with
      | .space n => modify (Machine.setInSpace n name v)
      | _ => throw .operation
    | .several parts =>
      match (← opened v).members? with
      | some items =>
        if items.length ≠ parts.length then throw .operation
        for (part, item) in parts.zip items do
          bindTarget fuel part item
      | Option.none => throw .operation

/-- Runs statements one after the other. -/
def renderAll : (fuel : Nat) → List Statement → Run String
  | 0, _ => throw .depth
  | fuel + 1, statements =>
    statements.foldlM (fun text statement => return text ++ (← render fuel statement)) ""

/-- The text of a statement. -/
def render : (fuel : Nat) → Statement → Run String
  | 0, _ => throw .depth
  | fuel + 1, statement => do
    let applied (filters : Filters) (v : Value) : Run Value :=
      filters.foldlM (fun v (name, given) => filtered fuel name v given) v
    match statement with
    | .text s => return s
    | .output e => emitted (← eval fuel e)
    | .conditional condition yes no =>
      if ← truthOf (← eval fuel condition) then renderAll fuel yes else renderAll fuel no
    | .loop target items condition recursive body otherwise =>
      let v ← opened (← eval fuel items)
      let found ← v.items
      let kept ← loopItems fuel target condition found
      let length := if condition.isSome then some kept.length else loopLength v
      let text ← loopOver fuel target recursive body length kept
      if kept.isEmpty then return text ++ (← renderAll fuel otherwise) else return text
    | .set target e =>
      bindTarget fuel target (← eval fuel e)
      return ""
    | .capture target filters body =>
      let v ← renderedText (← renderAll fuel body)
      bindTarget fuel target (← applied filters v)
      return ""
    | .scope bindings body =>
      inFrame {} do
        for (target, e) in bindings do
          bindTarget fuel target (← eval fuel e)
        renderAll fuel body
    | .filtered filters body =>
      let v ← renderedText (← renderAll fuel body)
      emitted (← applied filters v)
    | .escaping mode body =>
      let v ← eval fuel mode
      let before := (← get).escaping
      let now ←
        match v with
        | .text "html" _ => pure true
        | .text "none" _ => pure false
        | .text .. => throw .operation
        | v => pure (v.equal (.bool true))
      modify fun m => { m with escaping := now }
      let text ← renderAll fuel body
      modify fun m => { m with escaping := before }
      return text
    | .function name parameters captured asks body =>
      let (closure, m) := (← get).capture captured
      set (m.store name (.function name parameters asks body closure))
      return ""
    | .provide f given parameters captured asks body =>
      emitted (← invoke fuel f given (some ⟨parameters, captured, asks, body⟩))
    | .evaluate call =>
      discard (eval fuel call)
      return ""
    | .block name _ _ => renderBlock fuel name
    | .includeTemplate source optional =>
      let names ← templateNames (← opened (← eval fuel source))
      if optional || names.isEmpty then return "" else throw .missingTemplate
    | .importTemplate source name =>
      let names ← templateNames (← opened (← eval fuel source))
      if !names.isEmpty then throw .missingTemplate
      modify (Machine.store name (.map Option.none []))
      return ""
    | .importNames source imports =>
      let names ← templateNames (← opened (← eval fuel source))
      if !names.isEmpty then throw .missingTemplate
      let m ← get
      for (name, here) in imports.reverse do
        modify (Machine.store here ((m.lookup name).getD .undefined))
      return ""
    | .extendTemplate source =>
      discard (eval fuel source)
      throw .missingTemplate

end

/-- How deep code may be nested. -/
def depthLimit : Nat := 100000

/-- Reads and renders a template over bindings. -/
def renderText (source : List Char) (given : List (String × Value)) : Except Error String := do
  let statements ← Statement.parse (← Piece.scan source)
  let machine : Machine :=
    { frames := [{ base := .given given }], blocks := Statement.blocksOf statements }
  let (text, _) ← (renderAll depthLimit statements).run machine
  return text

end SessionGate.Template
