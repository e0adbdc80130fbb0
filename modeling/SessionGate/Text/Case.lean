import SessionGate.Text.CaseTable
import SessionGate.Text.PropertyTable

/-!
# Case mapping of texts

- `Text.lower` and `Text.upper` map a text by the full mappings of Unicode.
- A capital sigma at the end of a word becomes the final sigma.
-/
namespace SessionGate.Text
set_option autoImplicit false

def inRanges (ranges : List (Nat × Nat)) (c : Char) : Bool :=
  ranges.any fun (first, last) => first ≤ c.toNat && c.toNat ≤ last

def isWhitespace (c : Char) : Bool := inRanges whiteSpace c

/-- The one character a run maps to. -/
def CaseRun.mapped? (run : CaseRun) (n : Nat) : Option Nat :=
  if run.first ≤ n ∧ n ≤ run.last ∧ (n - run.first) % run.step = 0 then
    some ((n : Int) + run.shift).toNat
  else none

/-- Maps a character beyond ASCII by its sequence, by its run, or to itself. -/
def mapChar (runs : List CaseRun) (sequences : List (Nat × List Nat)) (c : Char) : List Char :=
  match sequences.lookup c.toNat with
  | some mapped => mapped.map Char.ofNat
  | none =>
    match runs.findSome? (·.mapped? c.toNat) with
    | some n => [Char.ofNat n]
    | none => [c]

def lowerChar (c : Char) : List Char :=
  if c.toNat < 128 then [c.toLower] else mapChar lowerRuns lowerSequences c

def upperChar (c : Char) : List Char :=
  if c.toNat < 128 then [c.toUpper] else mapChar upperRuns upperSequences c

/-- Whether the first character that is not passed over is a letter with a case. -/
def startsCased (text : List Char) : Bool :=
  match text.dropWhile (inRanges caseIgnorable) with
  | [] => false
  | c :: _ => inRanges cased c

/-- Lower-case form of a text; `before` holds the characters in front of it, in reverse. -/
def lowerFrom (before : List Char) : List Char → List Char
  | [] => []
  | c :: rest =>
    let mapped :=
      if c = 'Σ' then
        if startsCased before && !startsCased rest then ['ς'] else ['σ']
      else lowerChar c
    mapped ++ lowerFrom (c :: before) rest

def lower (text : String) : String := String.ofList (lowerFrom [] text.toList)

def upper (text : String) : String := String.ofList (text.toList.flatMap upperChar)

/-! ## Trimming -/

def trimStart (text : List Char) : List Char := text.dropWhile isWhitespace

def trimEnd (text : List Char) : List Char := (text.reverse.dropWhile isWhitespace).reverse

def trim (text : String) : String := String.ofList (trimEnd (trimStart text.toList))

end SessionGate.Text
