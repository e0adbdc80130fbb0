import SessionGate.Text.Case

/-!
# Cutting texts

- `Text.replaceAll` replaces the occurrences of a text.
- `Text.splitAll` cuts a text at a separator, `Text.words` at its blanks and `Text.lines` at the ends of
  its lines.
-/
namespace SessionGate.Text
set_option autoImplicit false

/-- Replaces every occurrence of a text; an empty one stands around every character. -/
def replaceAll (old new : List Char) : (fuel : Nat) → List Char → List Char
  | 0, text => text
  | fuel + 1, text =>
    match text with
    | [] => if old.isEmpty then new else []
    | c :: rest =>
      if old.isEmpty then new ++ c :: replaceAll old new fuel rest
      else if old.isPrefixOf text then new ++ replaceAll old new fuel (text.drop old.length)
      else c :: replaceAll old new fuel rest

/-- Replaces every occurrence of a text. -/
def replaceText (old new text : List Char) : List Char := replaceAll old new (text.length + 1) text

/-- Cuts at most `cuts` times where `cut?` gives the rest behind a separator; `part` is in reverse. -/
def splitWhere (cut? : List Char → Option (List Char)) :
    (fuel : Nat) → (cuts : Option Nat) → (part : List Char) → List Char → List (List Char)
  | 0, _, part, text => [part.reverse ++ text]
  | fuel + 1, cuts, part, text =>
    match text with
    | [] => [part.reverse]
    | c :: rest =>
      match if cuts = some 0 then none else cut? text with
      | some behind => part.reverse :: splitWhere cut? fuel (cuts.map (· - 1)) [] behind
      | none => splitWhere cut? fuel cuts (c :: part) rest

/-- The parts between the places in front of, between and behind the characters. -/
def splitEverywhere (cuts : Option Nat) (text : List Char) : List (List Char) :=
  match cuts with
  | some 0 => [text]
  | _ =>
    let most := (cuts.getD (text.length + 1)) - 1
    [] :: ((text.take most).map ([·]) ++ [text.drop most])

/-- The parts between the occurrences of a separator, at most `cuts` of them cut off. -/
def splitAll (separator : List Char) (cuts : Option Nat) (text : List Char) : List (List Char) :=
  if separator.isEmpty then splitEverywhere cuts text
  else
    splitWhere (fun text =>
      if separator.isPrefixOf text then some (text.drop separator.length) else none)
      (text.length + 1) cuts [] text

/-- The parts between single blanks, at most `cuts` of them cut off. -/
def splitBlanks (cuts : Option Nat) (text : List Char) : List (List Char) :=
  splitWhere (fun text => if text.head?.any isWhitespace then some text.tail else none)
    (text.length + 1) cuts [] text

/-- The words between blanks. -/
def words (text : List Char) : List (List Char) := (splitBlanks none text).filter (!·.isEmpty)

/-- The lines of a text, without their ends; nothing behind the last end is no line. -/
def lines (text : List Char) : List (List Char) :=
  let parts := splitAll ['\n'] none text
  let parts := if parts.getLast? = some [] then parts.dropLast else parts
  parts.map fun line => if line.getLast? = some '\r' then line.dropLast else line

end SessionGate.Text
