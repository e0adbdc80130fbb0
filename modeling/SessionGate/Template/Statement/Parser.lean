import SessionGate.Template.Capture
import SessionGate.Template.Expr.Parser

/-!
# Reading statements

- `Target.readOne` and `Target.readSeveral` read what a value is bound to.
- `Statement.parse` reads the pieces of a template, blocks with their ends.
-/
namespace SessionGate.Template
set_option autoImplicit false

/-- Nothing is left of a block. -/
def nothingLeft : List Token → Except Error Unit
  | [] => .ok ()
  | _ => .error .unexpected

/-- The rest behind a word. -/
def behindWord (word : String) : List Token → Except Error (List Token)
  | .name w :: rest => if w = word then .ok rest else .error .unexpected
  | _ => .error .unexpected

/-! ## Targets -/

namespace Target

/-- Names that cannot be bound. -/
def reserved : List String := ["true", "True", "false", "False", "none", "None", "loop", "self"]

/-- Reads a name that can be bound. -/
def readName : List Token → Except Error (String × List Token)
  | .name word :: rest => if reserved.contains word then .error .unexpected else .ok (word, rest)
  | _ => .error .unexpected

/-- Reads the parts behind a subject, the last of which is bound. -/
def parts (subject : Expr) (last : Option String) : List Token →
    Except Error (Option (Expr × String) × List Token)
  | .sign "." :: .name word :: rest =>
    match last with
    | none => parts subject (some word) rest
    | some inner => parts (.part subject inner) (some word) rest
  | .sign "." :: _ => .error .unexpected
  | rest => .ok (last.map fun inner => (subject, inner), rest)

/-- Reads a name, or a part of a namespace. -/
def dotted (tokens : List Token) : Except Error (Target × List Token) := do
  let (word, rest) ← readName tokens
  match ← parts (.name word) none rest with
  | (some (subject, last), rest) => return (.part subject last, rest)
  | (none, rest) => return (.name word, rest)

mutual

def readOne : (fuel : Nat) → List Token → Except Error (Target × List Token)
  | 0, _ => .error .depth
  | fuel + 1, tokens =>
    match tokens with
    | .sign "(" :: rest => do
      let (target, rest) ← readSeveral fuel rest
      return (target, ← Expr.behind ")" rest)
    | _ => (readName tokens).map fun (word, rest) => (.name word, rest)

/-- Reads targets with commas between them. -/
def readMembers : (fuel : Nat) → List Token → Except Error (List Target × Bool × List Token)
  | 0, _ => .error .depth
  | fuel + 1, tokens =>
    match tokens with
    | [] | .sign ")" :: _ | .name "in" :: _ => .ok ([], false, tokens)
    | _ => do
      let (first, rest) ← readOne fuel tokens
      match rest with
      | .sign "," :: rest =>
        let (more, _, rest) ← readMembers fuel rest
        return (first :: more, true, rest)
      | _ => return ([first], false, rest)

/-- Reads one target, or several with commas. -/
def readSeveral : (fuel : Nat) → List Token → Except Error (Target × List Token)
  | 0, _ => .error .depth
  | fuel + 1, tokens => do
    match ← readMembers fuel tokens with
    | ([target], false, rest) => return (target, rest)
    | (targets, _, rest) => return (.several targets, rest)

end

def fuelFor (tokens : List Token) : Nat := 3 * tokens.length + 3

/-- Reads what an assignment binds. -/
def ofSet (tokens : List Token) : Except Error (Target × List Token) :=
  match tokens with
  | .sign "(" :: _ => readOne (fuelFor tokens) tokens
  | .name _ :: .sign "," :: _ => readSeveral (fuelFor tokens) tokens
  | _ => dotted tokens

end Target

/-! ## Parts of blocks -/

/-- Reads filters with bars between them, up to the end. -/
def readFilters (depth : Nat) : (fuel : Nat) → List Token → Except Error Filters
  | 0, _ => .error .depth
  | fuel + 1, tokens =>
    match tokens with
    | .name word :: rest => do
      match ← Expr.readArguments depth rest with
      | (given, []) => return [(word, given)]
      | (given, .sign "|" :: rest) =>
        if rest.isEmpty then throw .unexpected
        return (word, given) :: (← readFilters depth fuel rest)
      | _ => throw .unexpected
    | _ => .error .unexpected

/-- Reads bindings with commas between them, up to the end. -/
def readBindings (depth : Nat) : (fuel : Nat) → List Token → Except Error (List (Target × Expr))
  | 0, _ => .error .depth
  | fuel + 1, tokens => do
    let (target, rest) ← Target.readOne (Target.fuelFor tokens) tokens
    match ← Expr.read depth (← Expr.behind "=" rest) with
    | (e, []) => return [(target, e)]
    | (e, .sign "," :: rest) => return (target, e) :: (← readBindings depth fuel rest)
    | _ => throw .unexpected

/-- Reads the parameters of a function up to the closing parenthesis; behind one with a default,
all have one. -/
def readParameters (depth : Nat) : (fuel : Nat) → (optional : Bool) → List Token →
    Except Error (Parameters × List Token)
  | 0, _, _ => .error .depth
  | fuel + 1, optional, tokens =>
    match tokens with
    | .sign ")" :: rest => .ok ([], rest)
    | _ => do
      let (word, rest) ← Target.readName tokens
      let (default, rest) ←
        match rest with
        | .sign "=" :: rest => do
          let (e, rest) ← Expr.read depth rest
          pure (some e, rest)
        | _ => if optional then throw .unexpected else pure (none, rest)
      let (more, rest) ←
        readParameters depth fuel default.isSome (← Expr.behindComma ")" rest)
      return ((word, default) :: more, rest)

/-- Reads the items behind the first one of a list without brackets. -/
def readItems (depth : Nat) : (fuel : Nat) → List Token → Except Error (List Expr)
  | 0, _ => .error .depth
  | _ + 1, [] => .ok []
  | fuel + 1, tokens => do
    match ← Expr.read depth tokens with
    | (e, []) => return [e]
    | (e, .sign "," :: rest) => return e :: (← readItems depth fuel rest)
    | _ => throw .unexpected

/-- Reads the value of an assignment; commas make a list. -/
def readValue (depth : Nat) (tokens : List Token) : Except Error Expr := do
  match ← Expr.read depth tokens with
  | (e, []) => return e
  | (e, .sign "," :: rest) => return .list (e :: (← readItems depth (rest.length + 1) rest))
  | _ => throw .unexpected

/-- Reads the words on the context of another template; they change nothing. -/
def skipContext : List Token → Except Error (List Token)
  | .name "with" :: rest | .name "without" :: rest => behindWord "context" rest
  | rest => .ok rest

/-- Reads the names that are taken from another template, each with its name here. -/
def readImports : (fuel : Nat) → List Token → Except Error (List (String × String))
  | 0, _ => .error .depth
  | fuel + 1, tokens =>
    match tokens with
    | [] => .ok []
    | _ => do
      let (word, rest) ← Target.readName tokens
      let (here, rest) ←
        match rest with
        | .name "as" :: rest => Target.readName rest
        | _ => pure (word, rest)
      match rest with
      | .sign "," :: rest => return (word, here) :: (← readImports fuel rest)
      | _ =>
        nothingLeft (← skipContext rest)
        return [(word, here)]

namespace Statement

/-- Header of a loop: target, items, condition, and whether it can be called again. -/
def loopHeader (depth : Nat) (tokens : List Token) :
    Except Error (Target × Expr × Option Expr × Bool) := do
  let (target, rest) ← Target.readSeveral (Target.fuelFor tokens) tokens
  let (items, rest) ← Expr.readPlain depth (← behindWord "in" rest)
  let (condition, rest) ←
    match rest with
    | .name "if" :: rest => do
      let (e, rest) ← Expr.read depth rest
      pure (some e, rest)
    | _ => pure (none, rest)
  match rest with
  | [] => return (target, items, condition, false)
  | [.name "recursive"] => return (target, items, condition, true)
  | _ => throw .unexpected

/-- Reads a condition that is all that is left of a block. -/
def condition (depth : Nat) (tokens : List Token) : Except Error Expr := do
  let (e, rest) ← Expr.readPlain depth tokens
  nothingLeft rest
  return e

/-- Reads a call that is all that is left of a block. -/
def callOnly (depth : Nat) (tokens : List Token) : Except Error (Expr × Arguments) := do
  match ← Expr.parse depth tokens with
  | .call f given => return (f, given)
  | _ => throw .unexpected

/-- Whether a statement is blank text. -/
def isBlank : Statement → Bool
  | .text s => s.toList.all Text.isWhitespace
  | _ => false

/-- A block that ends a body: its first word and the tokens behind it. -/
abbrev Ending := Option (String × List Token)

/-- The statements and the ending in front of the remaining pieces. -/
abbrev Body := List Statement × Ending × List Piece

/-- Where a statement stands: how deep, and whether in the body of a function. -/
structure Place where
  depth : Nat := 0
  inFunction : Bool := false

mutual

/-- Reads statements up to a block that starts with one of these words, or to the end. -/
def readBody : (fuel : Nat) → Place → (ends : List String) → List Piece → Except Error Body
  | 0, _, _, _ => .error .depth
  | _ + 1, _, _, [] => .ok ([], none, [])
  | fuel + 1, place, ends, .text s :: rest => do
    let (statements, ending, rest) ← readBody fuel place ends rest
    return (.text (String.ofList s) :: statements, ending, rest)
  | fuel + 1, place, ends, .output tokens :: rest => do
    let e ← Expr.parse place.depth tokens
    let (statements, ending, rest) ← readBody fuel place ends rest
    return (.output e :: statements, ending, rest)
  | fuel + 1, place, ends, .block tokens :: rest =>
    match tokens with
    | .name word :: tokens =>
      if ends.contains word then .ok ([], some (word, tokens), rest)
      else do
        let (statement, rest) ← enter place.depth fun depth =>
          readBlock fuel { place with depth } word tokens rest
        let (statements, ending, rest) ← readBody fuel place ends rest
        return (statement :: statements, ending, rest)
    | _ => .error .unexpected

/-- Reads a body that must end with this word, and gives what stands behind it. -/
def endedBody : (fuel : Nat) → Place → (close : String) → List Piece →
    Except Error (List Statement × List Token × List Piece)
  | 0, _, _, _ => .error .depth
  | fuel + 1, place, close, pieces => do
    match ← readBody fuel place [close] pieces with
    | (statements, some (_, tokens), rest) => return (statements, tokens, rest)
    | _ => throw .unexpected

/-- Reads a body that must end with this word and nothing behind it. -/
def closedBody : (fuel : Nat) → Place → (close : String) → List Piece →
    Except Error (List Statement × List Piece)
  | 0, _, _, _ => .error .depth
  | fuel + 1, place, close, pieces => do
    let (statements, tokens, rest) ← endedBody fuel place close pieces
    nothingLeft tokens
    return (statements, rest)

/-- Reads the alternatives of a condition. -/
def alternatives : (fuel : Nat) → Place → Expr → List Piece →
    Except Error (Statement × List Piece)
  | 0, _, _, _ => .error .depth
  | fuel + 1, place, test, pieces => do
    match ← readBody fuel place ["elif", "else", "endif"] pieces with
    | (yes, some ("elif", tokens), rest) =>
      let (no, rest) ← alternatives fuel place (← condition place.depth tokens) rest
      return (.conditional test yes [no], rest)
    | (yes, some ("else", tokens), rest) =>
      nothingLeft tokens
      let (no, rest) ← closedBody fuel place "endif" rest
      return (.conditional test yes no, rest)
    | (yes, some (_, tokens), rest) =>
      nothingLeft tokens
      return (.conditional test yes [], rest)
    | _ => throw .unexpected

/-- Reads a block by its first word. -/
def readBlock : (fuel : Nat) → Place → (word : String) → List Token → List Piece →
    Except Error (Statement × List Piece)
  | 0, _, _, _, _ => .error .depth
  | fuel + 1, place, word, tokens, pieces =>
    let depth := place.depth
    match word with
    | "if" => do alternatives fuel place (← condition depth tokens) pieces
    | "for" => do
      let (target, items, test, recursive) ← loopHeader depth tokens
      match ← readBody fuel place ["else", "endfor"] pieces with
      | (inner, some ("else", tokens), rest) =>
        nothingLeft tokens
        let (otherwise, rest) ← closedBody fuel place "endfor" rest
        return (.loop target items test recursive inner otherwise, rest)
      | (inner, some (_, tokens), rest) =>
        nothingLeft tokens
        return (.loop target items test recursive inner [], rest)
      | _ => throw .unexpected
    | "set" => do
      let (target, rest) ← Target.ofSet tokens
      match rest with
      | .sign "=" :: rest => return (.set target (← readValue depth rest), pieces)
      | _ =>
        if tokens.head? == some (.sign "(") then throw .unexpected
        if let .several _ := target then throw .unexpected
        let filters ←
          match rest with
          | [] => pure []
          | .sign "|" :: rest => readFilters depth (rest.length + 1) rest
          | _ => throw .unexpected
        let (inner, pieces) ← closedBody fuel place "endset" pieces
        return (.capture target filters inner, pieces)
    | "with" => do
      let bindings ←
        if tokens.isEmpty then pure [] else readBindings depth (tokens.length + 1) tokens
      let (inner, pieces) ← closedBody fuel place "endwith" pieces
      return (.scope bindings inner, pieces)
    | "filter" => do
      let filters ← readFilters depth (tokens.length + 1) tokens
      let (inner, pieces) ← closedBody fuel place "endfilter" pieces
      return (.filtered filters inner, pieces)
    | "autoescape" => do
      let mode ← Expr.parse depth tokens
      let (inner, pieces) ← closedBody fuel place "endautoescape" pieces
      return (.escaping mode inner, pieces)
    | "macro" => do
      match tokens with
      | .name name :: .sign "(" :: rest =>
        let (parameters, rest) ← readParameters depth (rest.length + 1) false rest
        nothingLeft rest
        let (inner, pieces) ←
          closedBody fuel { place with inFunction := true } "endmacro" pieces
        let (captured, asks) := Captures.ofFunction parameters inner
        return (.function name parameters captured asks inner, pieces)
      | _ => throw .unexpected
    | "call" => do
      let (parameters, rest) ←
        match tokens with
        | .sign "(" :: rest => readParameters depth (rest.length + 1) false rest
        | _ => pure ([], tokens)
      let (f, given) ← callOnly depth rest
      let (inner, pieces) ← closedBody fuel { place with inFunction := true } "endcall" pieces
      let (captured, asks) := Captures.ofFunction parameters inner
      return (.provide f given parameters captured asks inner, pieces)
    | "block" => do
      if place.inFunction then throw .unexpected
      let (name, rest) ←
        match tokens with
        | .name name :: rest => pure (name, rest)
        | _ => throw .unexpected
      let rest := if rest.head? == some (.name "scoped") then rest.tail else rest
      let required := rest.head? == some (.name "required")
      nothingLeft (if required then rest.tail else rest)
      let (inner, ending, pieces) ← endedBody fuel place "endblock" pieces
      if ending != [] && ending != [.name name] then throw .unexpected
      if required && !inner.all isBlank then throw .unexpected
      return (.block name required inner, pieces)
    | "do" => do
      let (f, given) ← callOnly depth tokens
      return (.evaluate (.call f given), pieces)
    | "include" => do
      let (source, rest) ← Expr.read depth tokens
      match ← skipContext rest with
      | .name "ignore" :: rest =>
        nothingLeft (← skipContext (← behindWord "missing" rest))
        return (.includeTemplate source true, pieces)
      | rest =>
        nothingLeft rest
        return (.includeTemplate source false, pieces)
    | "import" => do
      let (source, rest) ← Expr.read depth tokens
      let (name, rest) ← Target.readName (← behindWord "as" rest)
      nothingLeft (← skipContext rest)
      return (.importTemplate source name, pieces)
    | "from" => do
      let (source, rest) ← Expr.read depth tokens
      let rest ← behindWord "import" rest
      return (.importNames source (← readImports (rest.length + 1) rest), pieces)
    | "extends" => do return (.extendTemplate (← Expr.parse depth tokens), pieces)
    | _ => .error (.unknownBlock word)

end

/-! ## Blocks with a name -/

mutual

/-- The blocks with a name in a statement, with their bodies. -/
def blocks : Statement → List (String × Bool × List Statement)
  | .block name required body => (name, required, body) :: blocksOf body
  | .conditional _ yes no => blocksOf yes ++ blocksOf no
  | .loop _ _ _ _ body otherwise => blocksOf body ++ blocksOf otherwise
  | .capture _ _ body | .scope _ body | .filtered _ body | .escaping _ body => blocksOf body
  | _ => []

def blocksOf : List Statement → List (String × Bool × List Statement)
  | [] => []
  | s :: rest => blocks s ++ blocksOf rest

end

/-- Reads the statements of a template; the names of its blocks must differ. -/
def parse (pieces : List Piece) : Except Error (List Statement) := do
  let (statements, _, _) ← readBody (4 * pieces.length + 4) {} [] pieces
  let names := (blocksOf statements).map (·.1)
  if names.eraseDups.length ≠ names.length then throw .unexpected
  return statements

end Statement
end SessionGate.Template
