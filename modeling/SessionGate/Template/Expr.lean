import SessionGate.Template.Token

/-!
# Expressions of templates

- `Expr` is an expression; arguments of calls, filters and tests carry the form they are given in.
- `Comparison` and `Operator` are the signs between two operands.
-/
namespace SessionGate.Template
set_option autoImplicit false

/-- Operators that join two values into one. -/
inductive Operator where
  | add
  | subtract
  | concat
  | multiply
  | divide
  | floorDivide
  | remainder
  | power
deriving DecidableEq, Inhabited

/-- Operators that tell how two values relate; they can be chained. -/
inductive Comparison where
  | equal
  | unequal
  | less
  | lessEqual
  | greater
  | greaterEqual
  | isIn
  | isNotIn
deriving DecidableEq, Inhabited

/-- How an argument is given: by place, by name, or as many at once. -/
inductive ArgumentForm where
  | value
  | spread
  | named (name : String)
  | spreadNamed
deriving DecidableEq, Inhabited

inductive Expr where
  | none
  | bool (value : Bool)
  | int (value : Nat)
  | float (value : Number.Double)
  | text (value : String)
  | name (text : String)
  | list (items : List Expr)
  | map (entries : List (Expr × Expr))
  | not (operand : Expr)
  | negate (operand : Expr)
  | both (left right : Expr)
  | either (left right : Expr)
  /-- Holds when each comparison of two neighbours does. -/
  | compare (first : Expr) (rest : List (Comparison × Expr))
  | binary (operator : Operator) (left right : Expr)
  /-- The last part is left out where nothing is chosen. -/
  | choice (condition yes : Expr) (no : Option Expr)
  | part (subject : Expr) (name : String)
  | item (subject key : Expr)
  | slice (subject : Expr) (start stop step : Option Expr)
  | filter (name : String) (subject : Expr) (arguments : List (ArgumentForm × Expr))
  | test (name : String) (subject : Expr) (arguments : List (ArgumentForm × Expr))
  | call (function : Expr) (arguments : List (ArgumentForm × Expr))
deriving Inhabited

/-- Arguments of a call in the order they are given. -/
abbrev Arguments := List (ArgumentForm × Expr)

/-- Filters that are applied one after the other. -/
abbrev Filters := List (String × Arguments)

/-- Parameters of a function with their defaults. -/
abbrev Parameters := List (String × Option Expr)

end SessionGate.Template
