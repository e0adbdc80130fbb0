import SessionGate.Template.Expr

/-!
# Reading expressions

- `Expr.parse` reads tokens that are one expression, `Expr.read` an expression in front of others.
- Operators bind by level; a filter or a test binds closer than any of them, and comparisons side by
  side make one chain.
- Expressions and their first parts count as nested, up to `nestingLimit`.
-/
namespace SessionGate.Template
set_option autoImplicit false

/-- How deep expressions and blocks may be nested. -/
def nestingLimit : Nat := 150

/-- Most arguments of a call. -/
def argumentLimit : Nat := 2000

/-- Enters a part that counts as nested. -/
def enter {α : Type} (depth : Nat) (read : Nat → Except Error α) : Except Error α :=
  if depth < nestingLimit then read (depth + 1) else .error .depth

namespace Expr

/-- Levels of operators, the loosest first. -/
inductive Level where
  | or
  | and
  | not
  | compare
  | sum
  | concat
  | product
  | power
  | unary
deriving DecidableEq

/-- The next closer level. -/
def Level.next : Level → Level
  | .or => .and
  | .and => .not
  | .not => .compare
  | .compare => .sum
  | .sum => .concat
  | .concat => .product
  | .product => .power
  | .power => .unary
  | .unary => .unary

/-- How the operands of an operator of this level are joined. -/
def Level.join? : Level → Token → Option (Expr → Expr → Expr)
  | .or, .name "or" => some either
  | .and, .name "and" => some both
  | .sum, .sign "+" => some (binary .add)
  | .sum, .sign "-" => some (binary .subtract)
  | .concat, .sign "~" => some (binary .concat)
  | .product, .sign "*" => some (binary .multiply)
  | .product, .sign "/" => some (binary .divide)
  | .product, .sign "//" => some (binary .floorDivide)
  | .product, .sign "%" => some (binary .remainder)
  | .power, .sign "**" => some (binary .power)
  | _, _ => Option.none

/-- The comparison in front of the rest; `not` must stand before `in`. -/
def comparison? : List Token → Except Error (Option (Comparison × List Token))
  | .sign "==" :: rest => .ok (some (.equal, rest))
  | .sign "!=" :: rest => .ok (some (.unequal, rest))
  | .sign "<" :: rest => .ok (some (.less, rest))
  | .sign "<=" :: rest => .ok (some (.lessEqual, rest))
  | .sign ">" :: rest => .ok (some (.greater, rest))
  | .sign ">=" :: rest => .ok (some (.greaterEqual, rest))
  | .name "in" :: rest => .ok (some (.isIn, rest))
  | .name "not" :: .name "in" :: rest => .ok (some (.isNotIn, rest))
  | .name "not" :: _ => .error .unexpected
  | _ => .ok Option.none

/-- Names that stand for values. -/
def ofName (word : String) : Expr :=
  if word = "true" ∨ word = "True" then .bool true
  else if word = "false" ∨ word = "False" then .bool false
  else if word = "none" ∨ word = "None" then .none
  else .name word

/-- Whether a token can start the argument of a test. -/
def startsArgument : Token → Bool
  | .name word => !(["and", "or", "else", "is"].contains word)
  | .sign s => ["+", "-", "[", "\x7b"].contains s
  | _ => true

/-- The rest behind a sign. -/
def behind (sign : String) : List Token → Except Error (List Token)
  | .sign s :: rest => if s = sign then .ok rest else .error .unexpected
  | _ => .error .unexpected

/-- The rest behind a comma, or all of it in front of the closing sign. -/
def behindComma (close : String) (tokens : List Token) : Except Error (List Token) :=
  match tokens with
  | .sign "," :: rest => .ok rest
  | .sign s :: _ => if s = close then .ok tokens else .error .unexpected
  | _ => .error .unexpected

/-- Texts side by side are one text. -/
def joinTexts (s : String) : List Token → String × List Token
  | .text more :: rest => joinTexts (s ++ more) rest
  | rest => (s, rest)

/-- The form of an argument by the stars in front of it. -/
def formOf : List Token → ArgumentForm × List Token
  | .sign "**" :: rest => (.spreadNamed, rest)
  | .sign "*" :: rest => (.spread, rest)
  | rest => (.value, rest)

mutual

/-- Reads an expression with the choices behind it. -/
def full : (fuel depth : Nat) → List Token → Except Error (Expr × List Token)
  | 0, _, _ => .error .depth
  | fuel + 1, depth, tokens => enter depth fun depth => chosen fuel depth tokens

/-- As `full`, where the nesting has been counted. -/
def chosen : (fuel depth : Nat) → List Token → Except Error (Expr × List Token)
  | 0, _, _ => .error .depth
  | fuel + 1, depth, tokens => do
    let (e, rest) ← level fuel depth .or tokens
    choices fuel depth e rest

def choices : (fuel depth : Nat) → Expr → List Token → Except Error (Expr × List Token)
  | 0, _, _, _ => .error .depth
  | fuel + 1, depth, e, tokens =>
    match tokens with
    | .name "if" :: rest => do
      let (condition, rest) ← level fuel depth .or rest
      match rest with
      | .name "else" :: rest =>
        let (no, rest) ← chosen fuel depth rest
        choices fuel depth (.choice condition e (some no)) rest
      | _ => choices fuel depth (.choice condition e Option.none) rest
    | _ => .ok (e, tokens)

/-- Reads an expression whose operators are of this level or closer. -/
def level : (fuel depth : Nat) → Level → List Token → Except Error (Expr × List Token)
  | 0, _, _, _ => .error .depth
  | fuel + 1, depth, l, tokens =>
    match l with
    | .unary => unary fuel depth tokens
    | .not =>
      match tokens with
      | .name "not" :: rest =>
        (level fuel depth .not rest).map fun (e, rest) => (.not e, rest)
      | _ => level fuel depth .compare tokens
    | .compare => do
      let (e, rest) ← level fuel depth .sum tokens
      match ← compared fuel depth rest with
      | ([], rest) => return (e, rest)
      | (more, rest) => return (.compare e more, rest)
    | _ => do
      let (e, rest) ← level fuel depth l.next tokens
      operands fuel depth l e rest

/-- Reads comparisons side by side. -/
def compared : (fuel depth : Nat) → List Token →
    Except Error (List (Comparison × Expr) × List Token)
  | 0, _, _ => .error .depth
  | fuel + 1, depth, tokens => do
    match ← comparison? tokens with
    | Option.none => return ([], tokens)
    | some (c, rest) =>
      let (e, rest) ← level fuel depth .sum rest
      let (more, rest) ← compared fuel depth rest
      return ((c, e) :: more, rest)

/-- Reads further operands of a level. -/
def operands : (fuel depth : Nat) → Level → Expr → List Token → Except Error (Expr × List Token)
  | 0, _, _, _, _ => .error .depth
  | fuel + 1, depth, l, left, tokens =>
    match tokens with
    | [] => .ok (left, [])
    | token :: rest =>
      match l.join? token with
      | some join => do
        let (right, rest) ← level fuel depth l.next rest
        operands fuel depth l (join left right) rest
      | Option.none => .ok (left, tokens)

/-- Reads a signed value with what follows it. -/
def unary : (fuel depth : Nat) → List Token → Except Error (Expr × List Token)
  | 0, _, _ => .error .depth
  | fuel + 1, depth, tokens => do
    let (e, rest) ← signed fuel depth tokens
    let (e, rest) ← suffixes fuel depth e rest
    filters fuel depth e rest

def signed : (fuel depth : Nat) → List Token → Except Error (Expr × List Token)
  | 0, _, _ => .error .depth
  | fuel + 1, depth, tokens =>
    match tokens with
    | .sign "-" :: rest => (signed fuel depth rest).map fun (e, rest) => (.negate e, rest)
    | _ => enter depth fun depth => primary fuel depth tokens

/-- Reads parts, items, slices and calls. -/
def suffixes : (fuel depth : Nat) → Expr → List Token → Except Error (Expr × List Token)
  | 0, _, _, _ => .error .depth
  | fuel + 1, depth, e, tokens =>
    match tokens with
    | .sign "." :: .name word :: rest => suffixes fuel depth (.part e word) rest
    | .sign "." :: .int i :: rest =>
      if i < twoPow 64 then suffixes fuel depth (.item e (.int i)) rest else .error .unexpected
    | .sign "." :: _ => .error .unexpected
    | .sign "[" :: rest => do
      let (e, rest) ← subscript fuel depth e rest
      suffixes fuel depth e rest
    | .sign "(" :: rest => do
      let (given, rest) ← arguments fuel depth 0 false rest
      suffixes fuel depth (.call e given) rest
    | _ => .ok (e, tokens)

/-- Reads a bound of a slice, which may be left out. -/
def bound : (fuel depth : Nat) → List Token → Except Error (Option Expr × List Token)
  | 0, _, _ => .error .depth
  | fuel + 1, depth, tokens =>
    match tokens with
    | .sign ":" :: _ | .sign "]" :: _ => .ok (Option.none, tokens)
    | _ => (full fuel depth tokens).map fun (e, rest) => (some e, rest)

/-- Reads a key or a slice up to the closing bracket. -/
def subscript : (fuel depth : Nat) → Expr → List Token → Except Error (Expr × List Token)
  | 0, _, _, _ => .error .depth
  | fuel + 1, depth, e, tokens => do
    let (start, rest) ← bound fuel depth tokens
    match start, rest with
    | some key, .sign "]" :: rest => return (.item e key, rest)
    | _, .sign ":" :: rest =>
      let (stop, rest) ← bound fuel depth rest
      match rest with
      | .sign ":" :: rest =>
        let (step, rest) ← bound fuel depth rest
        return (.slice e start stop step, ← behind "]" rest)
      | _ => return (.slice e start stop Option.none, ← behind "]" rest)
    | _, _ => throw .unexpected

/-- Reads arguments up to the closing parenthesis; behind a named one, all are named. `count` of
them have been read. -/
def arguments : (fuel depth count : Nat) → (named : Bool) → List Token →
    Except Error (Arguments × List Token)
  | 0, _, _, _, _ => .error .depth
  | fuel + 1, depth, count, named, tokens =>
    match tokens with
    | .sign ")" :: rest => .ok ([], rest)
    | _ => do
      if argumentLimit ≤ count then throw .argument
      let (form, rest) := formOf tokens
      let (e, rest) ← full fuel depth rest
      let ((form, e), rest) ←
        match form, e, rest with
        | .value, .name word, .sign "=" :: rest => do
          let (e, rest) ← level fuel depth .or rest
          pure ((ArgumentForm.named word, e), rest)
        | .value, _, _ => if named then throw .unexpected else pure ((form, e), rest)
        | _, _, _ => pure ((form, e), rest)
      let named := named || !(form == .value || form == .spread)
      let (more, rest) ← arguments fuel depth (count + 1) named (← behindComma ")" rest)
      return ((form, e) :: more, rest)

/-- Reads arguments if there are any. -/
def optionalArguments : (fuel depth : Nat) → List Token → Except Error (Arguments × List Token)
  | 0, _, _ => .error .depth
  | fuel + 1, depth, tokens =>
    match tokens with
    | .sign "(" :: rest => arguments fuel depth 0 false rest
    | _ => .ok ([], tokens)

/-- Reads filters and tests. -/
def filters : (fuel depth : Nat) → Expr → List Token → Except Error (Expr × List Token)
  | 0, _, _, _ => .error .depth
  | fuel + 1, depth, e, tokens =>
    match tokens with
    | .sign "|" :: .name word :: rest => do
      let (given, rest) ← optionalArguments fuel depth rest
      filters fuel depth (.filter word e given) rest
    | .sign "|" :: _ => .error .unexpected
    | .name "is" :: .name "not" :: .name word :: rest => do
      let (given, rest) ← testArguments fuel depth rest
      filters fuel depth (.not (.test word e given)) rest
    | .name "is" :: .name "not" :: _ => .error .unexpected
    | .name "is" :: .name word :: rest => do
      let (given, rest) ← testArguments fuel depth rest
      filters fuel depth (.test word e given) rest
    | .name "is" :: _ => .error .unexpected
    | _ => .ok (e, tokens)

/-- Reads the arguments of a test; a single one needs no parentheses. -/
def testArguments : (fuel depth : Nat) → List Token → Except Error (Arguments × List Token)
  | 0, _, _ => .error .depth
  | fuel + 1, depth, tokens =>
    match tokens with
    | .sign "(" :: rest => arguments fuel depth 0 false rest
    | token :: _ =>
      if startsArgument token then do
        let (e, rest) ← signed fuel depth tokens
        let (e, rest) ← suffixes fuel depth e rest
        return ([(.value, e)], rest)
      else .ok ([], tokens)
    | [] => .ok ([], [])

def primary : (fuel depth : Nat) → List Token → Except Error (Expr × List Token)
  | 0, _, _ => .error .depth
  | fuel + 1, depth, tokens =>
    match tokens with
    | .name word :: rest => .ok (ofName word, rest)
    | .text s :: rest =>
      let (s, rest) := joinTexts s rest
      .ok (.text s, rest)
    | .int i :: rest => .ok (.int i, rest)
    | .float d :: rest => .ok (.float d, rest)
    | .sign "(" :: .sign ")" :: rest => .ok (.list [], rest)
    | .sign "(" :: rest => do
      let (e, rest) ← full fuel depth rest
      match rest with
      | .sign ")" :: rest => return (e, rest)
      | .sign "," :: rest =>
        let (items, rest) ← items fuel depth ")" rest
        return (.list (e :: items), rest)
      | _ => throw .unexpected
    | .sign "[" :: rest =>
      (items fuel depth "]" rest).map fun (items, rest) => (.list items, rest)
    | .sign "\x7b" :: rest =>
      (entries fuel depth rest).map fun (entries, rest) => (.map entries, rest)
    | _ => .error .unexpected

/-- Reads items up to the closing sign; a comma may stand behind the last one. -/
def items : (fuel depth : Nat) → (close : String) → List Token →
    Except Error (List Expr × List Token)
  | 0, _, _, _ => .error .depth
  | fuel + 1, depth, close, tokens =>
    match behind close tokens with
    | .ok rest => .ok ([], rest)
    | .error _ => do
      let (e, rest) ← full fuel depth tokens
      let (more, rest) ← items fuel depth close (← behindComma close rest)
      return (e :: more, rest)

/-- Reads entries up to the closing brace. -/
def entries : (fuel depth : Nat) → List Token → Except Error (List (Expr × Expr) × List Token)
  | 0, _, _ => .error .depth
  | fuel + 1, depth, tokens =>
    match tokens with
    | .sign "\x7d" :: rest => .ok ([], rest)
    | _ => do
      let (key, rest) ← full fuel depth tokens
      let (value, rest) ← full fuel depth (← behind ":" rest)
      let (more, rest) ← entries fuel depth (← behindComma "\x7d" rest)
      return ((key, value) :: more, rest)

end

/-- Steps that reading this many tokens may take. -/
def fuelFor (tokens : List Token) : Nat := 16 * tokens.length + 32

/-- Reads an expression in front of other tokens. -/
def read (depth : Nat) (tokens : List Token) : Except Error (Expr × List Token) :=
  full (fuelFor tokens) depth tokens

/-- Reads an expression without a choice in front of other tokens. -/
def readPlain (depth : Nat) (tokens : List Token) : Except Error (Expr × List Token) :=
  level (fuelFor tokens) depth .or tokens

/-- Reads arguments, if there are any, in front of other tokens. -/
def readArguments (depth : Nat) (tokens : List Token) : Except Error (Arguments × List Token) :=
  optionalArguments (fuelFor tokens) depth tokens

/-- Reads tokens that are one expression. -/
def parse (depth : Nat) (tokens : List Token) : Except Error Expr := do
  match ← read depth tokens with
  | (e, []) => return e
  | _ => throw .unexpected

end Expr
end SessionGate.Template
