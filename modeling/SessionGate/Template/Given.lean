import SessionGate.Template.Value.Operation

/-!
# Arguments of filters, tests and functions

`Given` is what a call passes. A filter that knows no names sees the named arguments together as one
more argument at the end.

- `Passed` reads an argument as a value, a text or a number; where one may be left out, nothing and
  undefined count as left out.
- `Given.option` and its kin read named arguments.
-/
namespace SessionGate.Template
set_option autoImplicit false

structure Given where
  values : List Value := []
  /-- Named arguments, if any are passed; their keys need not be texts. -/
  named : Option (List (Value × Value)) := none
deriving Inhabited

/-- An argument as a filter without names sees it. -/
inductive Passed where
  | missing
  | value (v : Value)
  | names (entries : List (Value × Value))
deriving Inhabited

namespace Passed

def asValue : Passed → Except Error Value
  | .missing => .error .argument
  | .value v => .ok v
  | .names entries => .ok (.map none entries)

def asText : Passed → Except Error String
  | .value .undefined => .error .undefined
  | .value v => .ok v.display
  | _ => .error .argument

/-- A text that is no other value. -/
def asExactText : Passed → Except Error String
  | .value (.text s _) => .ok s
  | .value .undefined => .error .undefined
  | _ => .error .argument

def asWhole (low high : Int) : Passed → Except Error Int
  | .value .undefined => .error .undefined
  | .value v => v.wholeIn low high
  | _ => .error .argument

def asBool : Passed → Except Error Bool
  | .value (.bool b) => .ok b
  | _ => .error .argument

/-- Reads an argument that may be left out. -/
def optional {α : Type} (read : Passed → Except Error α) (p : Passed) : Except Error (Option α) :=
  match p with
  | .missing | .value .undefined | .value .absent | .value .none => .ok none
  | p => (read p).map some

end Passed

namespace Given

/-- All arguments as a filter without names sees them. -/
def passed (given : Given) : List Passed :=
  given.values.map .value ++ (given.named.map .names).toList

def noMoreThan (most : Nat) (ps : List Passed) : Except Error (Nat → Passed) :=
  if most < ps.length then .error .argument else .ok fun i => ps[i]?.getD .missing

/-- The arguments by place of a filter that knows no names. -/
def places (given : Given) (most : Nat) : Except Error (Nat → Passed) :=
  noMoreThan most given.passed

/-- The arguments by place of a filter that knows names. -/
def placesBeside (given : Given) (most : Nat) : Except Error (Nat → Passed) :=
  noMoreThan most (given.values.map .value)

/-- The argument of a name. -/
def option (given : Given) (name : String) : Passed :=
  match (given.named.getD []).find? fun (k, _) => Value.compare k (.plain name) == .eq with
  | some (_, v) => .value v
  | none => .missing

def flag (given : Given) (name : String) : Except Error Bool := do
  return (← (given.option name).optional Passed.asBool).getD false

/-- Refuses names that are not among these. -/
def onlyNames (given : Given) (names : List String) : Except Error Unit :=
  if (given.named.getD []).all fun (k, _) =>
    match k with
    | .text s _ => names.contains s
    | _ => false
  then .ok () else .error .argument

end Given
end SessionGate.Template
