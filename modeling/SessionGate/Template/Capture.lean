import SessionGate.Template.Statement

/-!
# Names that a function takes from around its declaration

A name that is used in a body before it is bound there belongs to the place of the declaration.

- `Captures` is what is known while a body is read: the names found, and the names bound, by block.
- `Captures.ofFunction` reads the parameters, the defaults and the body of a function.
-/
namespace SessionGate.Template
set_option autoImplicit false

structure Captures where
  found : List String := []
  /-- Names that are bound, the innermost block first. -/
  bound : List (List String) := [[]]
deriving Inhabited

namespace Captures

def knows (c : Captures) (name : String) : Bool := c.bound.any (·.contains name)

/-- The name is bound from here on in the innermost block. -/
def bind (name : String) (c : Captures) : Captures :=
  match c.bound with
  | [] => { c with bound := [[name]] }
  | names :: rest => { c with bound := (name :: names) :: rest }

/-- Uses a name; one that is not bound is found, and counts as bound afterwards. -/
def use (name : String) (c : Captures) : Captures :=
  if c.knows name then c else { c with found := name :: c.found }.bind name

theorem knows_bind (c : Captures) (name : String) : (c.bind name).knows name = true := by
  unfold bind knows
  split <;> simp

theorem knows_use (c : Captures) (name : String) : (c.use name).knows name = true := by
  unfold use
  split
  · assumption
  · exact knows_bind _ name

/-- Reads a block of its own. -/
def within (read : Captures → Captures) (c : Captures) : Captures :=
  let r := read { c with bound := [] :: c.bound }
  { r with bound := r.bound.tail }

mutual

def expr : Expr → Captures → Captures
  | .none, c | .bool _, c | .int _, c | .float _, c | .text _, c => c
  | .name name, c => c.use name
  | .list es, c => exprs es c
  | .map es, c => entries es c
  | .not e, c | .negate e, c | .part e _, c => expr e c
  | .both a b, c | .either a b, c | .binary _ a b, c | .item a b, c => expr b (expr a c)
  | .compare e rest, c => comparisons rest (expr e c)
  | .choice condition yes no, c => optional no (expr yes (expr condition c))
  | .slice e start stop step, c => optional step (optional stop (optional start (expr e c)))
  | .filter _ e given, c | .test _ e given, c | .call e given, c => arguments given (expr e c)

def optional : Option Expr → Captures → Captures
  | none, c => c
  | some e, c => expr e c

def exprs : List Expr → Captures → Captures
  | [], c => c
  | e :: es, c => exprs es (expr e c)

def entries : List (Expr × Expr) → Captures → Captures
  | [], c => c
  | (k, v) :: es, c => entries es (expr v (expr k c))

def comparisons : List (Comparison × Expr) → Captures → Captures
  | [], c => c
  | (_, e) :: es, c => comparisons es (expr e c)

def arguments : List (ArgumentForm × Expr) → Captures → Captures
  | [], c => c
  | (_, e) :: es, c => arguments es (expr e c)

end

def filters (fs : Filters) (c : Captures) : Captures :=
  fs.foldl (fun c (_, given) => arguments given c) c

mutual

def target : Target → Captures → Captures
  | .name name, c => c.bind name
  | .part .., c => c
  | .several parts, c => targets parts c

def targets : List Target → Captures → Captures
  | [], c => c
  | t :: ts, c => targets ts (target t c)

end

def parameters (ps : Parameters) (c : Captures) : Captures :=
  ps.foldl (fun c (_, default) => optional default c) (ps.foldl (fun c (name, _) => c.bind name) c)

mutual

def statement : Statement → Captures → Captures
  | .text _, c => c
  | .output e, c | .evaluate e, c => expr e c
  | .conditional condition yes no, c =>
    (expr condition c |>.within (statements yes)).within (statements no)
  | .loop t items condition _ body otherwise, c =>
    (c.within fun c =>
      statements body (optional condition (target t (expr items (c.bind "loop"))))).within
        (statements otherwise)
  | .set t e, c => expr e (target t c)
  | .capture t fs body, c => filters fs ((target t c).within (statements body))
  | .scope bindings body, c =>
    c.within fun c =>
      statements body (bindings.foldl (fun c (t, e) => expr e (target t c)) c)
  | .filtered fs body, c => filters fs (c.within (statements body))
  | .escaping mode body, c => c.within fun c => statements body (expr mode c)
  | .function name ps _ _ body, c => statements body (parameters ps (c.bind name))
  | .provide f given ps _ _ body, c =>
    statements body (parameters ps (arguments given (expr f c)))
  | .block _ _ body, c => c.within fun c => statements body (c.bind "super")
  | .includeTemplate .., c | .extendTemplate .., c => c
  | .importTemplate _ name, c => c.bind name
  | .importNames _ names, c => names.foldl (fun c (_, here) => c.bind here) c

def statements : List Statement → Captures → Captures
  | [], c => c
  | s :: rest, c => statements rest (statement s c)

end

/-- The names that a function captures, and whether its body calls the block of its caller. -/
def ofFunction (ps : Parameters) (body : List Statement) : List String × Bool :=
  let found := (statements body (parameters ps {})).found
  (found.filter (· != "caller"), found.contains "caller")

end Captures
end SessionGate.Template
