import SessionGate.Yaml.Token

/-!
# Trees of YAML documents

A tree is a document as it is written: scalars with their style and tag, aliases by name.

- `Tree.documents` reads the trees of a stream from its tokens.
- Where a node is left out, the tree has a plain scalar `~`; behind an anchor or a tag it has an
  empty one.
-/
namespace SessionGate.Yaml
set_option autoImplicit false

/-- A tag, its handle replaced by what it stands for. -/
structure Tag where
  handle : String
  suffix : String
deriving DecidableEq, Inhabited

/-- What may stand in front of a node. -/
structure Properties where
  anchor : Option String
  tag : Option Tag
deriving DecidableEq, Inhabited

inductive Tree where
  | alias (name : String)
  | scalar (properties : Properties) (style : Style) (text : String)
  | sequence (properties : Properties) (items : List Tree)
  /-- Keys and values in turn. -/
  | mapping (properties : Properties) (parts : List Tree)
deriving Inhabited

namespace Tree

/-- A node that is left out. -/
def omitted : Tree := .scalar ⟨none, none⟩ .plain "~"

/-! ## Properties -/

/-- Handles that directives declare. -/
abbrev Handles := List (String × String)

/-- Handle of the tags of the core schema. -/
def coreHandle : String := "tag:yaml.org,2002:"

/-- Replaces a handle. A handle between two exclamation marks must be declared. -/
def resolveTag (handles : Handles) (handle suffix : String) : Except Error Tag :=
  match handles.lookup handle with
  | some start => .ok ⟨start, suffix⟩
  | none =>
    if handle = "!!" then .ok ⟨coreHandle, suffix⟩
    else if 2 ≤ handle.length ∧ handle.toList.getLast? = some '!' then .error .tag
    else .ok ⟨handle, suffix⟩

/-- What grammars of documents differ in. -/
structure Grammar where
  /-- Replaces the handle of a tag. -/
  resolve : String → String → Except Error Tag
  /-- Whether a value may stand in a mapping without the mark of a key. -/
  keyless : Bool

/-- The grammar of documents behind directives that declare handles. -/
def Grammar.declaring (handles : Handles) : Grammar := ⟨resolveTag handles, true⟩

/-- Reads an anchor and a tag, in either order. -/
def properties (g : Grammar) : List Token → Except Error (Properties × List Token)
  | .anchor name :: .tag handle suffix :: rest => do
    return (⟨some name, some (← g.resolve handle suffix)⟩, rest)
  | .anchor name :: rest => .ok (⟨some name, none⟩, rest)
  | .tag handle suffix :: .anchor name :: rest => do
    return (⟨some name, some (← g.resolve handle suffix)⟩, rest)
  | .tag handle suffix :: rest => do
    return (⟨none, some (← g.resolve handle suffix)⟩, rest)
  | tokens => .ok (⟨none, none⟩, tokens)

/-! ## Nodes -/

/-- Whether the next token is one of these. -/
def startsWith (marks : List Token) : List Token → Bool
  | token :: _ => marks.contains token
  | [] => false

mutual

/-- Reads a node; `block` allows block collections, `bare` a sequence of entries without a start. -/
def node (g : Grammar) : (fuel : Nat) → (block bare : Bool) → List Token →
    Except Error (Tree × List Token)
  | 0, _, _, _ => .error .misplaced
  | fuel + 1, block, bare, tokens =>
    match tokens with
    | .alias name :: rest => .ok (.alias name, rest)
    | _ => do
      let (own, tokens) ← properties g tokens
      match tokens with
      | .scalar style text :: rest => return (.scalar own style text, rest)
      | .flowSequenceStart :: rest =>
        let (items, rest) ← flowItems g fuel true rest
        return (.sequence own items, rest)
      | .flowMappingStart :: rest =>
        let (parts, rest) ← flowParts g fuel true rest
        return (.mapping own parts, rest)
      | .blockEntry :: _ =>
        if bare then
          let (items, rest) ← bareItems g fuel tokens
          return (.sequence own items, rest)
        else emptyNode own tokens
      | .blockSequenceStart :: rest =>
        if block then
          let (items, rest) ← blockItems g fuel rest
          return (.sequence own items, rest)
        else emptyNode own tokens
      | .blockMappingStart :: rest =>
        if block then
          let (parts, rest) ← blockParts g fuel rest
          return (.mapping own parts, rest)
        else emptyNode own tokens
      | _ => emptyNode own tokens
where
  /-- Nothing but properties. -/
  emptyNode (own : Properties) (tokens : List Token) : Except Error (Tree × List Token) :=
    if own = ⟨none, none⟩ then .error .misplaced else .ok (.scalar own .plain "", tokens)

/-- Reads a node, unless one of these tokens shows that it is left out. -/
def nodeUnless (g : Grammar) : (fuel : Nat) → (marks : List Token) → (block bare : Bool) →
    List Token → Except Error (Tree × List Token)
  | 0, _, _, _, _ => .error .misplaced
  | fuel + 1, marks, block, bare, tokens =>
    if startsWith marks tokens then .ok (omitted, tokens)
    else node g fuel block bare tokens

/-- Reads the value behind a key. -/
def valuePart (g : Grammar) : (fuel : Nat) → (marks : List Token) → (block bare : Bool) →
    List Token → Except Error (Tree × List Token)
  | 0, _, _, _, _ => .error .misplaced
  | fuel + 1, marks, block, bare, tokens =>
    match tokens with
    | .value :: rest => nodeUnless g fuel marks block bare rest
    | _ => .ok (omitted, tokens)

/-- Reads the pairs of a block mapping. -/
def blockParts (g : Grammar) : (fuel : Nat) → List Token →
    Except Error (List Tree × List Token)
  | 0, _ => .error .misplaced
  | fuel + 1, tokens =>
    let marks : List Token := [.key, .value, .blockEnd]
    match tokens with
    | .key :: rest => do
      let (key, rest) ← nodeUnless g fuel marks true true rest
      let (value, rest) ← valuePart g fuel marks true true rest
      let (parts, rest) ← blockParts g fuel rest
      return (key :: value :: parts, rest)
    | .value :: _ =>
      if g.keyless then do
        let (value, rest) ← valuePart g fuel marks true true tokens
        let (parts, rest) ← blockParts g fuel rest
        return (omitted :: value :: parts, rest)
      else .error .misplaced
    | .blockEnd :: rest => .ok ([], rest)
    | _ => .error .misplaced

/-- Reads the entries of a block sequence. -/
def blockItems (g : Grammar) : (fuel : Nat) → List Token →
    Except Error (List Tree × List Token)
  | 0, _ => .error .misplaced
  | fuel + 1, tokens =>
    match tokens with
    | .blockEnd :: rest => .ok ([], rest)
    | .blockEntry :: rest => do
      let (item, rest) ← nodeUnless g fuel [.blockEntry, .blockEnd] true false rest
      let (items, rest) ← blockItems g fuel rest
      return (item :: items, rest)
    | _ => .error .misplaced

/-- Reads entries as deep as the key in front of them. -/
def bareItems (g : Grammar) : (fuel : Nat) → List Token →
    Except Error (List Tree × List Token)
  | 0, _ => .error .misplaced
  | fuel + 1, tokens =>
    match tokens with
    | .blockEntry :: rest => do
      let (item, rest) ←
        nodeUnless g fuel [.blockEntry, .key, .value, .blockEnd] true false rest
      let (items, rest) ← bareItems g fuel rest
      return (item :: items, rest)
    | _ => .ok ([], tokens)

/-- Reads the pairs of a flow mapping; a key may stand alone. -/
def flowParts (g : Grammar) : (fuel : Nat) → (first : Bool) → List Token →
    Except Error (List Tree × List Token)
  | 0, _, _ => .error .misplaced
  | fuel + 1, first, tokens =>
    let ends : List Token := [.flowEntry, .flowMappingEnd]
    match tokens with
    | .flowMappingEnd :: rest => .ok ([], rest)
    | _ => do
      let tokens ←
        if first then pure tokens
        else
          match tokens with
          | .flowEntry :: rest => pure rest
          | _ => throw .misplaced
      match tokens with
      | .key :: rest =>
        let (key, rest) ← nodeUnless g fuel (.value :: ends) false false rest
        let (value, rest) ← valuePart g fuel ends false false rest
        let (parts, rest) ← flowParts g fuel false rest
        return (key :: value :: parts, rest)
      | .value :: _ =>
        if !g.keyless then throw .misplaced
        let (value, rest) ← valuePart g fuel ends false false tokens
        let (parts, rest) ← flowParts g fuel false rest
        return (omitted :: value :: parts, rest)
      | .flowMappingEnd :: rest => return ([], rest)
      | _ =>
        let (key, rest) ← node g fuel false false tokens
        let (parts, rest) ← flowParts g fuel false rest
        return (key :: omitted :: parts, rest)

/-- Reads the items of a flow sequence; a pair without braces is a mapping of its own. -/
def flowItems (g : Grammar) : (fuel : Nat) → (first : Bool) → List Token →
    Except Error (List Tree × List Token)
  | 0, _, _ => .error .misplaced
  | fuel + 1, first, tokens =>
    let ends : List Token := [.flowEntry, .flowSequenceEnd]
    match tokens with
    | .flowSequenceEnd :: rest => .ok ([], rest)
    | _ => do
      let tokens ←
        if first then pure tokens
        else
          match tokens with
          | .flowEntry :: rest => pure rest
          | _ => throw .misplaced
      match tokens with
      | .flowSequenceEnd :: rest => return ([], rest)
      | .key :: rest =>
        -- an empty key takes the mark behind it along
        let (key, rest) ←
          if startsWith (.value :: ends) rest then pure (omitted, rest.tail)
          else node g fuel false false rest
        let (value, rest) ← valuePart g fuel ends false false rest
        let (items, rest) ← flowItems g fuel false rest
        return (.mapping ⟨none, none⟩ [key, value] :: items, rest)
      | _ =>
        let (item, rest) ← node g fuel false false tokens
        let (items, rest) ← flowItems g fuel false rest
        return (item :: items, rest)

end

/-! ## Documents -/

def isDirective : Token → Bool
  | .versionDirective | .tagDirective .. => true
  | _ => false

/-- Reads directives; each one replaces the handles of those before it, and the version may be given
once. -/
def directives (versioned : Bool) (handles : Handles) :
    List Token → Except Error (Handles × List Token)
  | .versionDirective :: rest =>
    if versioned then .error .directive else directives true [] rest
  | .tagDirective handle start :: rest => directives versioned [(handle, start)] rest
  | tokens => .ok (handles, tokens)

/-- Reads a document behind its mark. -/
def content (g : Grammar) (fuel : Nat) : List Token → Except Error (Tree × List Token)
  | [] => .error .misplaced
  | token :: rest =>
    if isDirective token || token = .documentStart || token = .documentEnd || token = .streamEnd then
      .ok (omitted, token :: rest)
    else node g fuel true false (token :: rest)

/-- Reads one document; `implicit` lets it do without a mark. -/
def document (fuel : Nat) (implicit : Bool) (tokens : List Token) :
    Except Error (Tree × List Token) :=
  match tokens with
  | [] => .error .misplaced
  | token :: _ =>
    if isDirective token || token = .documentStart || !implicit then do
      match ← directives false [] tokens with
      | (handles, .documentStart :: rest) => content (.declaring handles) fuel rest
      | _ => throw .misplaced
    else node (.declaring []) fuel true false tokens

/-- Reads the documents up to the end of the stream. A directive comes behind an end mark only. -/
def documentsFrom : (fuel : Nat) → (implicit : Bool) → List Token → Except Error (List Tree)
  | 0, _, _ => .error .misplaced
  | fuel + 1, implicit, tokens =>
    match tokens.dropWhile (· == .documentEnd) with
    | [] => .error .misplaced
    | .streamEnd :: _ => .ok []
    | tokens => do
      let (tree, rest) ← document (3 * tokens.length + 3) implicit tokens
      match rest with
      | .documentEnd :: rest => return tree :: (← documentsFrom fuel true rest)
      | token :: _ =>
        if isDirective token then throw .directive
        else return tree :: (← documentsFrom fuel false rest)
      | [] => throw .misplaced

/-- The documents of a stream. -/
def documents (tokens : List Token) : Except Error (List Tree) :=
  documentsFrom (tokens.length + 1) true tokens

end Tree
end SessionGate.Yaml
