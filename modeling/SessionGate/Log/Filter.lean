import SessionGate.Log.Directive
import SessionGate.Text.Quoted

/-!
# Log filters

A filter holds directives and decides what is reported.

- `Filter.ofText?` reads a list of directives, and `Filter.ofSettings` takes the one that holds for
  a run.
- `Filter.enter` enters a span: a directive that speaks of the span allows more inside it.
- `Filter.admits` decides on an event by the directive that speaks of the least, or by the spans
  around it.
-/
namespace SessionGate.Log
set_option autoImplicit false

/-- A stretch of a run that events lie in. Its fields are numbers. -/
structure Span where
  name : String
  target : String
  level : Level
  fields : List (String × Int)
deriving DecidableEq, Inhabited

/-! ## What directives speak of -/

namespace Directive

/-- Whether a directive decides by itself, without a span around. -/
def isRule (d : Directive) : Bool :=
  d.span.isNone && d.field.all fun test => test.value.isNone

/-- Whether a directive allows what lies inside of a span. -/
def isScope (d : Directive) : Bool := d.span.isSome || d.field.isSome

def testsValue (d : Directive) : Bool := d.field.any fun test => test.value.isSome

theorem isRule_or_isScope (d : Directive) : d.isRule = true ∨ d.isScope = true := by
  rcases d with ⟨target, span, field, limit⟩
  cases span <;> cases field <;> simp [isRule, isScope]

def coversTarget (d : Directive) (target : String) : Bool :=
  d.target.all fun start => target.startsWith start

/-- Whether a rule speaks of an event. -/
def coversEvent (d : Directive) (target : String) (event : Event) : Bool :=
  d.coversTarget target &&
    d.field.all fun test =>
      test.name = "message" || event.fields.any fun (name, _) => name = test.name

/-- Whether a directive opens a scope in a span. -/
def coversSpan (d : Directive) (span : Span) : Bool :=
  d.coversTarget span.target && d.span.all (· = span.name) &&
    d.field.all fun test => span.fields.any fun (name, _) => name = test.name

/-- Whether the fields of a span have the value that is asked for. -/
def holdsIn (d : Directive) (span : Span) : Bool :=
  d.field.all fun test => test.value.all fun value =>
    span.fields.any fun (name, n) => name = test.name && value.isNumber n

/-- Puts a directive in its place; one with the same subject gives way to it. -/
def insert (d : Directive) (directives : List Directive) : List Directive :=
  let others := directives.filter (!d.sameSubject ·)
  others.takeWhile (·.precedes d) ++ d :: others.dropWhile (·.precedes d)

theorem mem_insert (d : Directive) (directives : List Directive) : d ∈ insert d directives := by
  simp [insert]

end Directive

/-! ## Filters -/

structure Filter where
  /-- Directives that decide by themselves; the first that speaks of an event decides. -/
  rules : List Directive := []
  /-- Directives that allow what lies inside of a span. -/
  scopes : List Directive := []
  /-- The most verbose limit that was ever asked for. -/
  reach : Limit := none
deriving DecidableEq, Inhabited

namespace Filter

/-- Adds a directive. The spans of every level are of interest to one that asks for a value. -/
def add (filter : Filter) (d : Directive) : Filter where
  rules := if d.isRule then d.insert filter.rules else filter.rules
  scopes := if d.isScope then d.insert filter.scopes else filter.scopes
  reach := filter.reach.join (if d.testsValue then some .trace else d.limit)

/-- A filter without directives reports errors. -/
def ofDirectives (directives : List Directive) : Filter :=
  (if directives.isEmpty then [⟨none, none, none, some .error⟩] else directives).foldl add {}

/-- Reads directives with commas between them. -/
def ofText? (text : String) : Option Filter := do
  let directives ← ((text.splitOn ",").filter (!·.isEmpty)).mapM Directive.ofText?
  return ofDirectives directives

/-- The directives in their written form, sorted. -/
def display (filter : Filter) : List String :=
  ((filter.rules ++ filter.scopes).map Directive.display).mergeSort (· ≤ ·)

/-! ## Decisions -/

/-- The spans that a run is in and the limits that hold inside of them. -/
structure Scope where
  spans : List Span := []
  limits : List Limit := []
deriving DecidableEq, Inhabited

/-- Whether the rules admit an event or a span, given the directives that speak of it. -/
def rulesAdmit (filter : Filter) (covers : Directive → Bool) (level : Level) : Bool :=
  (filter.rules.find? covers).any fun d => d.limit.allows level

def admits (filter : Filter) (scope : Scope) (target : String) (event : Event) : Bool :=
  filter.reach.allows event.level &&
    (scope.limits.any (·.allows event.level) ||
      filter.rulesAdmit (·.coversEvent target event) event.level)

/-- Limit inside of a span: the most verbose of the directives that hold in it. -/
def limitIn (filter : Filter) (span : Span) : Limit :=
  ((filter.scopes.filter fun d => d.coversSpan span && d.holdsIn span).map
    Directive.limit).foldl Limit.join none

/-- Enters a span, if it is admitted. -/
def enter (filter : Filter) (scope : Scope) (span : Span) : Scope :=
  let concerned := filter.scopes.any (·.coversSpan span)
  let admitted := concerned || scope.limits.any (·.allows span.level) ||
    filter.rulesAdmit (·.coversTarget span.target) span.level
  if filter.reach.allows span.level && admitted then
    { spans := scope.spans ++ [span]
      limits := if concerned then scope.limits ++ [filter.limitIn span] else scope.limits }
  else scope

/-! ## Settings -/

/-- Why nothing is reported, or not as asked for. -/
inductive SetupError where
  | invalidLevel (level : String)
  | alreadyInstalled
deriving DecidableEq, Inhabited

def SetupError.message : SetupError → String
  | .invalidLevel level => "invalid log level " ++ Text.quoted level ++ ": invalid filter directive"
  | .alreadyInstalled => "failed to set the log up: it is set up already"

/-- Variable of the environment that holds directives. -/
def variableName : String := "RUST_LOG"

/-- Directives that keep the libraries of a program quiet. -/
def quiet : String := "kube=warn,tower=warn,hyper=warn"

/-- The filter in the environment if it can be read, else one level for all but the libraries. -/
def ofSettings (environment : List (String × String)) (level : String) :
    Except SetupError Filter :=
  match (environment.lookup variableName).bind ofText? with
  | some filter => .ok filter
  | none =>
    let level := Text.lower (Text.trim level)
    match ofText? (level ++ "," ++ quiet) with
    | some filter => .ok filter
    | none => .error (.invalidLevel level)

end Filter
end SessionGate.Log
