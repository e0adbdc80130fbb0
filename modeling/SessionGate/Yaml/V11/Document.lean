import SessionGate.Yaml.Tree
import SessionGate.Yaml.V11.Lexer
import SessionGate.Yaml.V11.Value

/-!
# Documents of YAML 1.1

- `trees` reads the documents of a stream from its tokens.
- `Linked.ofTree` finds out what the aliases of a document name, and `Linked.value` takes its value
  with a copy for each alias.
- `documents` reads the values of a text. It fails as a whole.
-/
namespace SessionGate.Yaml.V11
set_option autoImplicit false

/-! ## Streams -/

/-- Replaces a handle by what it stands for. -/
def resolve (handles : Tree.Handles) (handle suffix : String) : Except Error Tag :=
  if handle.isEmpty then .ok ⟨"", suffix⟩
  else
    match (handles ++ [("!", "!"), ("!!", Tree.coreHandle)]).lookup handle with
    | some start => .ok ⟨start, suffix⟩
    | none => .error .tag

def grammar (handles : Tree.Handles) : Tree.Grammar := ⟨resolve handles, false⟩

/-- Reads directives: a version at most, and each handle once. -/
def directives (versioned : Bool) (handles : Tree.Handles) :
    List Token → Except Error (Tree.Handles × List Token)
  | .versionDirective :: rest =>
    if versioned then .error .directive else directives true handles rest
  | .tagDirective handle start :: rest =>
    if (handles.lookup handle).isSome then .error .directive
    else directives versioned (handles ++ [(handle, start)]) rest
  | tokens => .ok (handles, tokens)

/-- Reads one document; `implicit` lets it do without a mark. -/
def document (fuel : Nat) (implicit : Bool) (tokens : List Token) :
    Except Error (Tree × List Token) :=
  match tokens with
  | [] => .error .misplaced
  | token :: _ =>
    if Tree.isDirective token || token = .documentStart || !implicit then do
      match ← directives false [] tokens with
      | (handles, .documentStart :: rest) => Tree.content (grammar handles) fuel rest
      | _ => throw .misplaced
    else Tree.node (grammar []) fuel true false tokens

/-- Reads the documents up to the end of the stream. Only the first one can do without a mark, and
end marks may stand in front of the others. -/
def treesFrom : (fuel : Nat) → (first : Bool) → List Token → Except Error (List Tree)
  | 0, _, _ => .error .misplaced
  | fuel + 1, first, tokens =>
    match if first then tokens else tokens.dropWhile (· == .documentEnd) with
    | [] => .error .misplaced
    | .streamEnd :: _ => .ok []
    | tokens => do
      let (tree, rest) ← document (3 * tokens.length + 3) first tokens
      return tree :: (← treesFrom fuel false rest)

def trees (tokens : List Token) : Except Error (List Tree) :=
  treesFrom (tokens.length + 1) true tokens

/-! ## Anchors -/

/-- A document whose aliases go by numbers. -/
inductive Linked where
  | alias (number : Nat)
  | scalar (tag : Option Tag) (style : Style) (text : String)
  | sequence (tag : Option Tag) (items : List Linked)
  /-- Keys and values in turn. -/
  | mapping (tag : Option Tag) (parts : List Linked)
deriving Inhabited

/-- The anchors of a document. -/
structure Anchors where
  /-- Number of the signs of the document: one for a scalar and an alias, two for a collection. -/
  signs : Nat
  /-- The numbers of the names. -/
  names : List (String × Nat)
  /-- Number and place of each node with an anchor. -/
  targets : List (Nat × Nat × Linked)
deriving Inhabited

namespace Anchors

/-- Gives a name the number of names so far, and forgets the number that it had. -/
def name (a : Anchors) (name : String) : Nat × Anchors :=
  let number := a.names.length
  let others := a.names.filter (·.1 != name)
  (number, { a with names := (name, number) :: others })

def count (a : Anchors) (signs : Nat) : Anchors := { a with signs := a.signs + signs }

/-- The last node with a number. -/
def target? (a : Anchors) (number : Nat) : Option Linked :=
  (a.targets.foldl (fun (best : Option (Nat × Linked)) (n, place, node) =>
    if n ≠ number || best.any (place < ·.1) then best else some (place, node)) none).map (·.2)

end Anchors

namespace Linked

mutual

/-- Gives the aliases of a document their numbers. An alias names what has been named before it. -/
def ofTree (a : Anchors) : Tree → Except Error (Linked × Anchors)
  | .alias name =>
    match a.names.lookup name with
    | some number => .ok (.alias number, a.count 1)
    | none => .error .unknownAlias
  | .scalar own style text => .ok (finish (begin a own) own (.scalar own.tag style text))
  | .sequence own items => do
    let (place, opened) := begin a own
    let (items, a) ← ofTrees opened items
    return finish (place, a) own (.sequence own.tag items)
  | .mapping own parts => do
    let (place, opened) := begin a own
    let (parts, a) ← ofTrees opened parts
    return finish (place, a) own (.mapping own.tag parts)
where
  /-- Counts the first sign of a node; answers its place and the number of its anchor. -/
  begin (a : Anchors) (own : Properties) : (Nat × Nat) × Anchors :=
    match own.anchor with
    | some name =>
      let (number, named) := a.name name
      ((a.signs, number), named.count 1)
    | none => ((a.signs, 0), a.count 1)
  /-- Notes a node with an anchor and counts the end of a collection. -/
  finish (begun : (Nat × Nat) × Anchors) (own : Properties) (node : Linked) : Linked × Anchors :=
    let ((place, number), a) := begun
    let a :=
      match node with
      | .scalar .. => a
      | _ => a.count 1
    (node, if own.anchor.isSome then { a with targets := (number, place, node) :: a.targets } else a)

def ofTrees (a : Anchors) : List Tree → Except Error (List Linked × Anchors)
  | [] => .ok ([], a)
  | tree :: rest => do
    let (node, a) ← ofTree a tree
    let (nodes, a) ← ofTrees a rest
    return (node :: nodes, a)

end

/-! ## Values -/

def isCore (tag : Tag) (name : String) : Bool :=
  tag.handle ++ tag.suffix == Tree.coreHandle ++ name

/-- The name in a tag of the writer's own. -/
def own? (tag : Option Tag) : Option String :=
  tag.bind fun tag =>
    match (tag.handle ++ tag.suffix).toList with
    | '!' :: name => some (String.ofList name)
    | _ => none

/-- Puts the tag of the writer's own in front of a value; it is not empty. -/
def withTag (tag : Option Tag) (value : Value) : Except Error Value :=
  match own? tag with
  | none => .ok value
  | some name => if name.isEmpty then .error .tag else .ok (.tagged name value)

/-- The value of a scalar. A tag of one exclamation mark says nothing of a scalar that is written. -/
def ofScalar (tag : Option Tag) (style : Style) (text : String) : Except Error Value :=
  let held (value : Option Value) : Except Error Value :=
    match value with
    | some value => .ok value
    | none => .error .tag
  let untagged : Except Error Value :=
    if style = .plain then held (Value.ofPlain? text) else .ok (.text text)
  let empty := style = .plain && text.isEmpty
  match tag, own? tag with
  | none, _ => untagged
  | _, some name =>
    if name.isEmpty && !empty then untagged else do withTag tag (← untagged)
  | some tag, none =>
    if isCore tag "bool" then held ((Value.bool? text).map .bool)
    else if isCore tag "int" then
      held (((Value.integer? text.toList).filter Value.isHeld).map .int)
    else if isCore tag "float" then held ((Value.real? text).map .real)
    else if isCore tag "null" then held (if Value.isNull text then some .null else none)
    else .ok (.text text)

/-- Pairs keys with values; no key comes twice. -/
def pairUp (seen : List (Value × Value)) : List Value → Except Error (List (Value × Value))
  | key :: value :: rest =>
    if seen.any (·.1.same key) then .error .duplicateKey
    else pairUp ((key, value) :: seen) rest
  | _ => .ok seen.reverse

/-- Takes a node for an alias and counts the step. There may be a hundred steps for each sign of the
document. -/
def follow (a : Anchors) : Linked → StateT Nat (Except Error) Linked
  | .alias number => do
    let steps ← get
    set (steps + 1)
    match a.target? number with
    | some node => if a.signs * 100 < steps + 1 then throw .depth else return node
    | none => throw .unknownAlias
  | node => return node

/-- The value of a node; `depth` more levels of collections are allowed. -/
def value (a : Anchors) : (depth : Nat) → Linked → StateT Nat (Except Error) Value
  | 0, node => do
    match ← follow a node with
    | .scalar tag style text => ofScalar tag style text
    | _ => throw .depth
  | depth + 1, node => do
    match ← follow a node with
    | .scalar tag style text => ofScalar tag style text
    | .sequence tag items => withTag tag (.sequence (← items.mapM (value a depth)))
    | .mapping tag parts => withTag tag (.mapping (← pairUp [] (← parts.mapM (value a depth))))
    | .alias _ => throw .unknownAlias

end Linked

/-! ## Documents -/

/-- Most levels of collections. -/
def maxDepth : Nat := 128

def valueOf (tree : Tree) : Except Error Value := do
  let (node, anchors) ← Linked.ofTree ⟨0, [], []⟩ tree
  return (← (Linked.value anchors maxDepth node).run 0).1

/-- The values of the documents of a text; a text without any is null. -/
def documents (text : String) : Except Error (List Value) := do
  match ← trees (← scan text) with
  | [] => return [.null]
  | trees => trees.mapM valueOf

end SessionGate.Yaml.V11
