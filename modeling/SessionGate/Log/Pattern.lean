/-!
# Patterns of field values

A pattern is a regular expression that is matched against the text of a field.

- `Pattern` and `Members` say what a pattern consists of.
- `Pattern.height` is how deep its parts lie inside each other; there is a limit to it.
- `Pattern.unicodeAfter?` says whether the pattern has a meaning for text. Its characters are those
  of Unicode until a setting asks for bytes. A byte that is no character of its own cannot occur in
  a text, and the edges of a word can be told only among bytes.
-/
namespace SessionGate.Log
set_option autoImplicit false

/-- What stands between the brackets of a class. -/
inductive Members where
  | character (c : Char)
  | range (first last : Char)
  /-- Members that go by a name, such as the digits, or all characters but them. -/
  | named (negated : Bool)
  /-- Characters of a Unicode category. -/
  | category
  | bracketed (negated : Bool) (inner : Members)
  | union (items : List Members)
  /-- What two sets have in common, or in what they differ. -/
  | combined (left right : Members)
deriving Inhabited

/-- A regular expression. -/
inductive Pattern where
  /-- One character; `isByte` says that it was written by the number of a byte. -/
  | character (c : Char) (isByte : Bool)
  | anyCharacter
  /-- The begin or the end of a line or of the text. -/
  | lineEdge
  | wordEdge
  | named (negated : Bool)
  | category
  | bracketed (negated : Bool) (inner : Members)
  /-- Letters of settings that hold up to the end of the group. -/
  | setting (flags : List Char)
  | repeated (inner : Pattern)
  | group (name : Option String) (flags : List Char) (inner : Pattern)
  | sequence (items : List Pattern)
  | choice (branches : List Pattern)
deriving Inhabited

/-- The value that letters of settings give to a setting; those behind a hyphen are switched off. -/
def settingValue? (flags : List Char) (letter : Char) : Option Bool :=
  if flags.contains letter then some (!(flags.takeWhile (· != letter)).contains '-') else none

namespace Members

/-- Members in a row; one alone stands for itself. -/
def ofItems : List Members → Members
  | [item] => item
  | items => .union items

mutual

/-- How deep brackets, rows and combinations lie inside each other. -/
def height : Members → Nat
  | .bracketed _ inner => inner.height + 1
  | .union items => if items.isEmpty then 0 else listHeight items + 1
  | .combined left right => max left.height right.height + 1
  | _ => 0

def listHeight : List Members → Nat
  | [] => 0
  | item :: items => max item.height (listHeight items)

end

mutual

/-- Whether no member is a byte that is no character. -/
def isAscii : Members → Bool
  | .character c => c.toNat < 0x80
  | .range first last => first.toNat < 0x80 && last.toNat < 0x80
  | .named negated => !negated
  | .category => false
  | .bracketed negated inner => !negated && inner.isAscii
  | .union items => listIsAscii items
  | .combined left right => left.isAscii && right.isAscii

def listIsAscii : List Members → Bool
  | [] => true
  | item :: items => item.isAscii && listIsAscii items

end

end Members

namespace Pattern

/-- Parts that follow each other; one alone stands for itself. -/
def ofItems : List Pattern → Pattern
  | [item] => item
  | items => .sequence items

mutual

def height : Pattern → Nat
  | .bracketed _ inner => inner.height + 1
  | .repeated inner | .group _ _ inner => inner.height + 1
  | .sequence items => if items.isEmpty then 0 else listHeight items + 1
  | .choice branches => listHeight branches + 1
  | _ => 0

def listHeight : List Pattern → Nat
  | [] => 0
  | item :: items => max item.height (listHeight items)

end

mutual

/-- The names of the groups, in order. -/
def names : Pattern → List String
  | .repeated inner => inner.names
  | .group name _ inner => name.toList ++ inner.names
  | .sequence items | .choice items => listNames items
  | _ => []

def listNames : List Pattern → List String
  | [] => []
  | item :: items => item.names ++ listNames items

end

mutual

/-- Answers whether characters are still those of Unicode behind a pattern in front of which
`unicode` says so; `none` if the pattern has no meaning for text. -/
def unicodeAfter? (unicode : Bool) : Pattern → Option Bool
  | .character c isByte => if unicode || !isByte || c.toNat < 0x80 then some unicode else none
  | .anyCharacter | .category => if unicode then some unicode else none
  | .lineEdge => some unicode
  | .wordEdge => if unicode then none else some unicode
  | .named negated => if unicode || !negated then some unicode else none
  | .bracketed negated inner =>
    if unicode || (!negated && inner.isAscii) then some unicode else none
  | .setting flags => some ((settingValue? flags 'u').getD unicode)
  | .repeated inner => unicodeAfter? unicode inner
  | .group _ flags inner =>
    (unicodeAfter? ((settingValue? flags 'u').getD unicode) inner).map fun _ => unicode
  | .sequence items | .choice items => listUnicodeAfter? unicode items

def listUnicodeAfter? (unicode : Bool) : List Pattern → Option Bool
  | [] => some unicode
  | item :: items => (unicodeAfter? unicode item).bind (listUnicodeAfter? · items)

end

def maxHeight : Nat := 250

/-- Whether a pattern has a meaning, no two groups have one name and it is not too high. -/
def isSound (pattern : Pattern) : Bool :=
  pattern.height ≤ maxHeight && pattern.names.Nodup && (pattern.unicodeAfter? true).isSome

end Pattern
end SessionGate.Log
