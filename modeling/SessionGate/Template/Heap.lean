import SessionGate.Template.Value

/-!
# What a rendering keeps

Values refer by number to what changes while a template is rendered: namespaces, loops, and the names
that functions captured.

- `Heap.view` replaces the references in a value by what they stand for.
- `Frame` holds the names of a block, `Machine` the frames of a rendering with its heap.
- `Machine.lookup` finds a name in the innermost frame that has it, `Machine.store` binds one.
-/
namespace SessionGate.Template
set_option autoImplicit false

/-- A run of a loop. -/
structure LoopRun where
  index : Nat := 0
  length : Option Nat
  /-- How many recursive loops it is called in. -/
  depth : Nat
  previous : Value := .undefined
  next : Value := .undefined
  atEnd : Bool := false
  /-- The values that were last asked for changes. -/
  changed : Option (List Value) := none
deriving Inhabited

/-- What can be asked of a loop. -/
def LoopRun.entries (run : LoopRun) : List (Value × Value) :=
  let number (f : Nat → Nat) : Value :=
    match run.length with
    | some n => .int (f n : Nat)
    | none => .undefined
  [("index0", .int run.index), ("index", .int (run.index + 1 : Nat)), ("length", number id),
    ("revindex", number (· - run.index)), ("revindex0", number (· - run.index - 1)),
    ("first", .bool (run.index == 0)), ("last", .bool run.atEnd),
    ("depth", .int (run.depth + 1 : Nat)), ("depth0", .int run.depth),
    ("previtem", run.previous), ("nextitem", run.next)].map
      fun (name, v) => (Value.plain name, v)

def LoopRun.label (run : LoopRun) : String :=
  let length := match run.length with
    | some n => toString n
    | none => "?"
  "<loop " ++ toString run.index ++ "/" ++ length ++ ">"

structure Heap where
  loops : Array LoopRun := #[]
  spaces : Array (List (Value × Value)) := #[]
  closures : Array (List (String × Value)) := #[]
deriving Inhabited

namespace Heap

def loop (h : Heap) (n : Nat) : LoopRun := h.loops[n]?.getD ⟨0, none, 0, .undefined, .undefined, false, none⟩

def space (h : Heap) (n : Nat) : List (Value × Value) := h.spaces[n]?.getD []

/-- Replaces the references in a value, down to a depth. -/
def viewWithin (h : Heap) : (depth : Nat) → Value → Value
  | 0, v => v
  | depth + 1, v =>
    let entries (es : List (Value × Value)) := es.map fun (k, w) => (k, h.viewWithin depth w)
    match v with
    | .list form items => .list form (items.map (h.viewWithin depth))
    | .map label es => .map label (entries es)
    | .space n => .map none (entries (h.space n))
    | .loop n => .map (some (h.loop n).label) (entries (h.loop n).entries)
    | v => v

/-- How deep references are replaced. -/
def viewDepth : Nat := 600

/-- Replaces the references in a value by what they stand for. -/
def view (h : Heap) (v : Value) : Value :=
  match v with
  | .list .. | .map .. | .space _ | .loop _ => h.viewWithin viewDepth v
  | v => v

end Heap

/-! ## Frames -/

/-- What stands behind the names of a frame. -/
inductive Base where
  | nothing
  | given (bindings : List (String × Value))
  | closure (number : Nat)
deriving Inhabited

/-- The loop of a frame. -/
structure FrameLoop where
  number : Nat
  /-- Whether the loop can be asked for by its name. -/
  named : Bool
  /-- Target and body of a loop that can be called again. -/
  again : Option (Target × List Statement)
deriving Inhabited

structure Frame where
  locals : List (String × Value) := []
  base : Base := .nothing
  loop : Option FrameLoop := none
  /-- The closure of the functions that are declared in the frame. -/
  closure : Option Nat := none
deriving Inhabited

/-- Binds a name in a list of bindings. -/
def rebind (name : String) (v : Value) (bindings : List (String × Value)) : List (String × Value) :=
  (name, v) :: bindings.filter (·.1 != name)

theorem lookup_rebind (name : String) (v : Value) (bindings : List (String × Value)) :
    (rebind name v bindings).lookup name = some v := by
  simp [rebind]

/-- How deep frames and calls may be nested. -/
def frameLimit : Nat := 500

/-- How much a call of a function of the template counts. -/
def callCost : Nat := 4

/-- The state of a rendering. -/
structure Machine where
  /-- Frames, the innermost first. -/
  frames : List Frame
  /-- What the calls around count. -/
  outer : Nat := 0
  escaping : Bool := false
  /-- Blocks that can be rendered by their names. -/
  blocks : List (String × Bool × List Statement) := []
  heap : Heap := {}
deriving Inhabited

namespace Machine

def depth (m : Machine) : Nat := m.outer + m.frames.length

/-- The binding of a name in a frame. -/
def inFrame (m : Machine) (name : String) (f : Frame) : Option Value :=
  match f.locals.lookup name with
  | some v => some v
  | none =>
    let loop :=
      match f.loop with
      | some l => if l.named && name == "loop" then some (Value.loop l.number) else none
      | none => none
    match loop with
    | some v => some v
    | none =>
      match f.base with
      | .nothing => none
      | .given bindings => bindings.lookup name
      | .closure n => (m.heap.closures[n]?.getD []).lookup name

/-- The innermost binding of a name, or the function of that name. -/
def lookup (m : Machine) (name : String) : Option Value :=
  match m.frames.findSome? (m.inFrame name) with
  | some v => some v
  | none => (Builtin.ofName? name).map .builtin

/-- The innermost loop. -/
def currentLoop (m : Machine) : Option FrameLoop := m.frames.findSome? (·.loop)

/-- Binds a name in the innermost frame, and for the functions that are declared in it. -/
def store (name : String) (v : Value) (m : Machine) : Machine :=
  match m.frames with
  | [] => m
  | f :: rest =>
    let heap :=
      match f.closure with
      | some n =>
        { m.heap with closures := m.heap.closures.modify n (rebind name v) }
      | none => m.heap
    { m with frames := { f with locals := rebind name v f.locals } :: rest, heap }

/-- A name that was bound is found. -/
theorem lookup_store (m : Machine) (f : Frame) (rest : List Frame) (name : String) (v : Value)
    (h : m.frames = f :: rest) : (m.store name v).lookup name = some v := by
  simp [lookup, store, h, inFrame, lookup_rebind]

/-- Adds a frame, unless there are too many. -/
def push (f : Frame) (m : Machine) : Except Error Machine :=
  if frameLimit < m.depth then .error .depth else .ok { m with frames := f :: m.frames }

def pop (m : Machine) : Machine := { m with frames := m.frames.tail }

def newLoop (run : LoopRun) (m : Machine) : Nat × Machine :=
  (m.heap.loops.size, { m with heap := { m.heap with loops := m.heap.loops.push run } })

def newSpace (entries : List (Value × Value)) (m : Machine) : Nat × Machine :=
  (m.heap.spaces.size, { m with heap := { m.heap with spaces := m.heap.spaces.push entries } })

def updateLoop (n : Nat) (f : LoopRun → LoopRun) (m : Machine) : Machine :=
  { m with heap := { m.heap with loops := m.heap.loops.modify n f } }

def setInSpace (n : Nat) (name : String) (v : Value) (m : Machine) : Machine :=
  { m with heap := { m.heap with spaces := m.heap.spaces.modify n (Value.insert (.plain name) v) } }

/-- Captures names for the functions that are declared in the innermost frame; a name that was
captured keeps its value. Gives the closure of the frame. -/
def capture (names : List String) (m : Machine) : Option Nat × Machine :=
  match m.frames with
  | [] => (none, m)
  | f :: rest =>
    if names.isEmpty then (f.closure, m)
    else
      let (n, closures) : Nat × Array (List (String × Value)) :=
        match f.closure with
        | some n => (n, m.heap.closures)
        | none => (m.heap.closures.size, m.heap.closures.push [])
      let add (bindings : List (String × Value)) (name : String) :=
        if (bindings.lookup name).isSome then bindings
        else (name, (m.lookup name).getD .undefined) :: bindings
      (some n, { m with
        frames := { f with closure := some n } :: rest
        heap := { m.heap with closures := closures.modify n fun b => names.foldl add b } })

end Machine
end SessionGate.Template
