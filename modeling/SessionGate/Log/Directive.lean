import SessionGate.Log.Event
import SessionGate.Log.Pattern.Parser
import SessionGate.Number.Decimal
import SessionGate.Text.AlphanumericTable
import SessionGate.Text.Case
import SessionGate.Text.Utf8

/-!
# Directives of a log filter

A directive says how verbose a part of a program may be. It is written
`target[span{field=value}]=level`, and each of its parts but one may be missing.

- `Limit` is how verbose a part may be.
- `Directive.ofText?` reads a directive and `Directive.display` writes it.
- `Directive.precedes` puts the one that speaks of less in front.
-/
namespace SessionGate.Log
set_option autoImplicit false
open SessionGate.Number

/-! ## Limits -/

/-- The most verbose level that is allowed; `none` allows nothing. -/
abbrev Limit := Option Level

namespace Limit

def allows (limit : Limit) (level : Level) : Bool :=
  match limit with
  | none => false
  | some most => level.verbosity ≤ most.verbosity

/-- The more verbose of two limits. -/
def join (a b : Limit) : Limit :=
  match a, b with
  | none, other | other, none => other
  | some x, some y => some (if x.verbosity ≤ y.verbosity then y else x)

/-- Limits by name; the place of a name is its number. -/
def names : List (String × Limit) :=
  [("off", none), ("error", some .error), ("warn", some .warn), ("info", some .info),
    ("debug", some .debug), ("trace", some .trace)]

def display (limit : Limit) : String :=
  match limit with
  | none => "off"
  | some level => level.name.map Char.toLower

/-- Reads a limit by its number or by its name in any case; an empty text asks for errors. -/
def ofText? (text : String) : Option Limit :=
  if text.isEmpty then some (some .error)
  else
    match unsigned? text with
    | some n => names[n]?.map Prod.snd
    | none => names.lookup (text.map Char.toLower)

end Limit

/-! ## Field conditions -/

/-- A value that a field is compared with. -/
inductive Literal where
  | flag (value : Bool)
  | integer (value : Int)
  | double (value : Double)
  | pattern (text : String)
deriving DecidableEq, Inhabited

namespace Literal

def display : Literal → String
  | .flag value => if value then "true" else "false"
  | .integer value => toString value
  | .double value => value.positional
  | .pattern text => text

/-- Reads the first form that fits, a pattern last. -/
def ofText? (text : String) : Option Literal :=
  if text = "true" then some (.flag true)
  else if text = "false" then some (.flag false)
  else
    match integer? text, Double.ofLiteral? text with
    | some value, _ => some (.integer value)
    | none, some value => some (.double value)
    | none, none => (Pattern.ofText? text).map fun _ => .pattern text

/-- Whether a number is the value that is asked for. -/
def isNumber (n : Int) : Literal → Bool
  | .integer value => value = n
  | _ => false

end Literal

/-- Asks for a field, and for its value if one is given. -/
structure FieldTest where
  name : String
  value : Option Literal := none
deriving DecidableEq, Inhabited

namespace FieldTest

def display (test : FieldTest) : String :=
  match test.value with
  | none => test.name
  | some value => test.name ++ "=" ++ value.display

/-- Reads `name` or `name=value`; what follows another equals sign is passed over. -/
def ofText? (text : String) : Option FieldTest :=
  if text.isEmpty then none
  else
    match text.splitOn "=" with
    | name :: value :: _ => (Literal.ofText? value).map fun literal => ⟨name, some literal⟩
    | _ => some ⟨text, none⟩

end FieldTest

/-! ## Directives -/

/-- How verbose a part may be: the targets that begin with `target`, inside the spans of a name,
with a field. -/
structure Directive where
  target : Option String := none
  span : Option String := none
  field : Option FieldTest := none
  limit : Limit := some .trace
deriving DecidableEq, Inhabited

namespace Directive

def display (d : Directive) : String :=
  let field := d.field.elim "" fun test => "\x7b" ++ test.display ++ "\x7d"
  let inside :=
    if d.span.isSome || d.field.isSome then "[" ++ d.span.getD "" ++ field ++ "]" else ""
  let subject := d.target.getD "" ++ inside
  if d.target.isSome || d.span.isSome || d.field.isSome then subject ++ "=" ++ d.limit.display
  else d.limit.display

/-- Whether two directives speak of the same part. -/
def sameSubject (a b : Directive) : Bool :=
  a.target = b.target && a.span = b.span && a.field = b.field

/-- How much a directive narrows down what it speaks of. -/
def weight (d : Directive) : List Nat :=
  [d.target.elim 0 (·.utf8ByteSize + 1), d.span.isSome.toNat, d.field.isSome.toNat]

def words (d : Directive) : List String :=
  [d.target.getD "", d.span.getD "", d.field.elim "" FieldTest.name]

/-- Whether a directive stands before another: it narrows down more, or as much with later words. -/
def precedes (a b : Directive) : Bool :=
  b.weight < a.weight || (a.weight = b.weight && b.words < a.words)

/-! ## Reading -/

/-- Where the reading of a directive stands; `since` is the offset at which a part begins. -/
inductive Place where
  | start
  | word (since : Nat)
  | span (since : Nat)
  | field (since : Nat)
  | fieldEnd
  | spanEnd
  | limit (since : Nat)
deriving DecidableEq, Inhabited

/-- Cuts the bytes from one offset to another, if whole characters lie between them. -/
def cut? (text : String) (first last : Nat) : Option String :=
  Utf8.decode? (((Utf8.encode text).drop first).take (last - first))

def opensWord (c : Char) : Bool :=
  c = '-' || c = ':' || c = '_' || Text.inRanges Text.alphanumeric c

/-- Reads one character at an offset. -/
def advance? (text : String) (offset : Nat) (c : Char) (d : Directive) :
    Place → Option (Place × Directive)
  | .start =>
    if c = '[' then some (.span (offset + 1), d)
    else if opensWord c then some (.word offset, d)
    else none
  | .word since =>
    if c = '=' ∨ c = '[' then do
      let target ← cut? text since offset
      let next : Place := if c = '=' then .limit (offset + 1) else .span (offset + 1)
      return (next, { d with target := some target })
    else some (.word since, d)
  | .span since =>
    if c = ']' then do
      return (.spanEnd, { d with span := some (← cut? text since offset) })
    else if c = '\x7b' then do
      let name ← cut? text since offset
      return (.field (offset + 1), { d with span := if name.isEmpty then none else some name })
    else some (.span since, d)
  | .field since =>
    if c = '\x7d' then do
      return (.fieldEnd, { d with field := some (← FieldTest.ofText? (← cut? text since offset)) })
    else some (.field since, d)
  | .fieldEnd => if c = ']' then some (.spanEnd, d) else none
  | .spanEnd => if c = '=' then some (.limit (offset + 1), d) else none
  | .limit since => some (.limit since, d)

/-- Reads the characters of a directive; their offsets count from `offset`. -/
def readFrom? (text : String) (offset : Nat) (d : Directive) (place : Place) :
    List Char → Option (Place × Directive)
  | [] => some (place, d)
  | c :: rest => do
    let (place, d) ← advance? text offset c d place
    readFrom? text (offset + c.utf8Size) d place rest

/-- Ends a directive: a lone word is a limit if it can be read as one, and else a target without a
limit of its own. -/
def finish? (text : String) (d : Directive) : Place → Option Directive
  | .word since => do
    let word ← cut? text since text.utf8ByteSize
    match Limit.ofText? word with
    | some limit => return { d with limit := limit }
    | none => return { d with target := some word }
  | .limit since => do
    let word ← cut? text since text.utf8ByteSize
    if word.isEmpty then return d
    return { d with limit := ← Limit.ofText? word }
  | .spanEnd => some d
  | _ => none

/-- Reads a directive. The signs that part it are looked for behind the blanks in front; the parts
are cut at these offsets from the whole text. -/
def ofText? (text : String) : Option Directive := do
  let (place, d) ← readFrom? text 0 {} .start (Text.trim text).toList
  finish? text d place

end Directive
end SessionGate.Log
