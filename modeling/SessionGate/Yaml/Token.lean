/-!
# Tokens of YAML text

The alphabet between the characters of a stream and the structure of its documents: marks of
documents, collections, keys and values, node properties, and scalars. Block collections have marks of
their own for start and end, although nothing is written for them.
-/
namespace SessionGate.Yaml
set_option autoImplicit false

/-- Why a text is no stream of documents. -/
inductive Error where
  | indentation
  | tab
  | comment
  | character
  | directive
  | documentMark
  | anchor
  | tag
  | blockScalar
  | quotedScalar
  | plainScalar
  | escape
  | simpleKey
  | context
  | depth
  | misplaced
  | unknownAlias
  | duplicateKey
deriving DecidableEq, Inhabited

def Error.message : Error → String
  | .indentation => "wrong indentation"
  | .tab => "a tab where it is not allowed"
  | .comment => "a comment without a blank before it"
  | .character => "a character that cannot start a token"
  | .directive => "a malformed directive"
  | .documentMark => "text behind a document mark"
  | .anchor => "an anchor or alias without a name"
  | .tag => "a malformed tag"
  | .blockScalar => "a malformed block scalar"
  | .quotedScalar => "a malformed quoted scalar"
  | .plainScalar => "a malformed plain scalar"
  | .escape => "an unknown escape"
  | .simpleKey => "a key without a colon"
  | .context => "an indicator where it is not allowed"
  | .depth => "collections nested too deep"
  | .misplaced => "tokens that form no document"
  | .unknownAlias => "an alias of an unknown anchor"
  | .duplicateKey => "a key that occurs twice"

/-- How a scalar is written. Only a plain one can stand for anything but a text. -/
inductive Style where
  | plain
  | other
deriving DecidableEq, Inhabited

inductive Token where
  | streamEnd
  | versionDirective
  | tagDirective (handle start : String)
  | documentStart
  | documentEnd
  | blockSequenceStart
  | blockMappingStart
  | blockEnd
  | blockEntry
  | flowSequenceStart
  | flowSequenceEnd
  | flowMappingStart
  | flowMappingEnd
  | flowEntry
  | key
  | value
  | alias (name : String)
  | anchor (name : String)
  | tag (handle suffix : String)
  | scalar (style : Style) (text : String)
deriving DecidableEq, Inhabited

/-! ## Classes of characters -/

/-- The null character marks the end of the stream. -/
def isEnd (c : Char) : Bool := c == '\x00'
def isBreak (c : Char) : Bool := c == '\n' || c == '\r'
def isBlank (c : Char) : Bool := c == ' ' || c == '\t'
def isBreakOrEnd (c : Char) : Bool := isBreak c || isEnd c
def isGap (c : Char) : Bool := isBlank c || isBreakOrEnd c

/-- Indicators of flow collections. -/
def isFlow (c : Char) : Bool :=
  c == ',' || c == '[' || c == ']' || c == '\x7b' || c == '\x7d'

def isWord (c : Char) : Bool := c.isAlphanum || c == '_' || c == '-'

def isAnchorChar (c : Char) : Bool := !isGap c && !isFlow c && c != '\ufeff'

def isUriChar (c : Char) : Bool :=
  (isWord c && c != '_') || "#;/?:@&=+$,_.!~*()[]%".toList.contains c || c == '\x27'

def isTagChar (c : Char) : Bool := isUriChar c && !isFlow c && c != '!'

end SessionGate.Yaml
