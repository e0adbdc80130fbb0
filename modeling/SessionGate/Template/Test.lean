import SessionGate.Template.Given
import SessionGate.Text.LetterCase

/-!
# Tests of values

- `testNames` are the tests that there are, `filterNames` the filters.
- `applyTest` tells whether a value satisfies a test.

A test that takes any value takes an undefined one too.
-/
namespace SessionGate.Template
set_option autoImplicit false

def testNames : List String :=
  ["defined", "undefined", "none", "safe", "escaped", "boolean", "odd", "even", "divisibleby",
    "number", "integer", "int", "float", "string", "sequence", "iterable", "mapping",
    "startingwith", "endingwith", "lower", "upper", "sameas", "eq", "equalto", "==", "ne", "!=",
    "lt", "lessthan", "<", "le", "<=", "gt", "greaterthan", ">", "ge", ">=", "in", "true", "false",
    "filter", "test"]

def filterNames : List String :=
  ["safe", "escape", "e", "lower", "upper", "title", "capitalize", "replace", "length", "count",
    "dictsort", "items", "reverse", "trim", "join", "split", "lines", "default", "d", "round",
    "abs", "int", "float", "attr", "first", "last", "min", "max", "sort", "list", "string", "bool",
    "batch", "slice", "sum", "indent", "select", "reject", "selectattr", "rejectattr", "map",
    "groupby", "unique", "chain", "zip", "pprint", "format"]

/-- The comparison that a test stands for. -/
def comparisonTest? (name : String) : Option Comparison :=
  if ["eq", "equalto", "=="].contains name then some .equal
  else if ["ne", "!="].contains name then some .unequal
  else if ["lt", "lessthan", "<"].contains name then some .less
  else if ["le", "<="].contains name then some .lessEqual
  else if ["gt", "greaterthan", ">"].contains name then some .greater
  else if ["ge", ">="].contains name then some .greaterEqual
  else none

/-- Relation of two values, of which each may be undefined. -/
def related (c : Comparison) (a b : Value) : Bool :=
  match c with
  | .equal => Value.equal a b
  | .unequal => !Value.equal a b
  | .less => Value.compare a b == .lt
  | .lessEqual => Value.compare a b != .gt
  | .greater => Value.compare a b == .gt
  | .greaterEqual => Value.compare a b != .lt
  | .isIn => (Value.contains b a).toOption.getD false
  | .isNotIn => !(Value.contains b a).toOption.getD false

/-- Whether one number is a multiple of another. -/
def isMultiple (a b : Value) : Bool :=
  match Value.numbers? false a b with
  | some (.ints i j) => j != 0 && i % j == 0
  | some (.floats x y) => x.remainder y == .zero false || x.remainder y == .zero true
  | none => false

/-- Whether two values are the same one: of one kind and form, and equal. -/
def isSame (a b : Value) : Bool :=
  let isInt (v : Value) : Bool :=
    match v with
    | .int _ => true
    | _ => false
  a.rank == b.rank && isInt a == isInt b && Value.equal a b

/-- A property of a value that needs no arguments. -/
def property? (name : String) (v : Value) : Option Bool :=
  match name with
  | "defined" => some !v.isUndefined
  | "undefined" => some v.isUndefined
  | "none" => some (v.rank == 1)
  | "safe" | "escaped" =>
    match v with
    | .text _ safe => some safe
    | _ => some false
  | "boolean" => some (v.rank == 2)
  | "number" => some (v.rank == 3)
  | "integer" | "int" => some (v.rank == 3 && !v.isFloat)
  | "float" => some v.isFloat
  | "string" => some (v.rank == 4)
  | "sequence" => some (v.rank == 6)
  | "mapping" => some (v.rank == 7)
  | "iterable" => some v.items?.isSome
  | "odd" => some (v.whole?.any fun i => Value.fits i && i % 2 == 1)
  | "even" => some (v.whole?.any fun i => Value.fits i && i % 2 == 0)
  | "true" =>
    match v with
    | .bool b => some b
    | _ => some false
  | "false" =>
    match v with
    | .bool b => some !b
    | _ => some false
  | _ => none

/-- Whether a value satisfies a test. -/
def applyTest (name : String) (v : Value) (given : Given) : Except Error Bool := do
  match property? name v with
  | some holds =>
    discard (given.places 0)
    return holds
  | none => pure ()
  match name with
  | "lower" =>
    discard (given.places 0)
    return (← (Passed.value v).asExactText).toList.all Text.isLowercase
  | "upper" =>
    discard (given.places 0)
    return (← (Passed.value v).asExactText).toList.all Text.isUppercase
  | "filter" =>
    discard (given.places 0)
    return filterNames.contains (← (Passed.value v).asExactText)
  | "test" =>
    discard (given.places 0)
    return testNames.contains (← (Passed.value v).asExactText)
  | _ =>
    if !testNames.contains name then throw (.unknownTest name)
    let argument := (← given.places 1) 0
    match name with
    | "startingwith" =>
      let text ← (Passed.value v).asText
      return (← argument.asText).toList.isPrefixOf text.toList
    | "endingwith" =>
      let text ← (Passed.value v).asText
      return (← argument.asText).toList.isSuffixOf text.toList
    | "divisibleby" => return isMultiple v (← argument.asValue)
    | "sameas" => return isSame v (← argument.asValue)
    | "in" =>
      match ← argument.asValue with
      | .undefined => throw .undefined
      | container => container.contains v
    | _ =>
      match comparisonTest? name with
      | some c => return related c v (← argument.asValue)
      | none => throw (.unknownTest name)

end SessionGate.Template
