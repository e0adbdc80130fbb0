import SessionGate.Text.Base64
import SessionGate.Text.Case

/-!
# Armoured sections

A section stands between a line that begins it and the next line that ends a section of its label.
Lines outside of sections are skipped.

`Pem.sections?` reads the sections whose labels are known. It fails where a line does not begin a
section well, data cannot be read, or a section does not end.
-/
namespace SessionGate.Pem
set_option autoImplicit false
open Utf8 (Bytes)

/-- What a section holds. -/
inductive SectionKind where
  | certificate
  /-- A private key with the name of its algorithm. -/
  | key
  /-- A private key of factors. -/
  | factorKey
  /-- A private key of a curve. -/
  | curveKey
  | other
deriving DecidableEq, Inhabited

/-- The labels that are known. -/
def sectionKinds : List (String × SectionKind) :=
  [("CERTIFICATE", .certificate), ("PRIVATE KEY", .key), ("RSA PRIVATE KEY", .factorKey),
    ("EC PRIVATE KEY", .curveKey), ("PUBLIC KEY", .other), ("X509 CRL", .other),
    ("CERTIFICATE REQUEST", .other), ("ECHCONFIG", .other)]

structure Section where
  kind : SectionKind
  contents : Bytes
deriving DecidableEq, Inhabited

/-- The lines of a file, without the signs that end them. -/
def fileLines (text : Bytes) : List Bytes :=
  text.splitOnP fun b => b == 10 || b == 13

def sectionBegin : Bytes := Utf8.encode "-----BEGIN "

/-- The line that ends a section. -/
def sectionEnd (label : Bytes) : Bytes :=
  Utf8.encode "-----END " ++ label ++ Utf8.encode "-----"

/-- The label in a line that begins a section: it ends in five dashes, with any blanks. -/
def beginLabel? (line : Bytes) : Option Bytes :=
  let isTrail (b : UInt8) : Bool := b == 45 || b == 32
  let trail := line.reverse.takeWhile isTrail
  let dashes := trail.reverse.dropWhile (· == 32)
  if dashes.count 45 = 5 then
    some ((line.take (line.length - dashes.length)).drop sectionBegin.length)
  else none

/-- The data of a section. -/
def sectionData? (lines : List Bytes) : Option Bytes :=
  let signs := lines.flatten.map fun b => Char.ofNat b.toNat
  Base64.decode? (signs.filter fun c => c != ' ' && c != '\t')

/-- Reads sections; `inside` has the label and the lines of the one that is read, the last line
first. -/
def sectionsFrom? (inside : Option (Bytes × List Bytes)) : List Bytes → Option (List Section)
  | [] => if inside.isNone then some [] else none
  | line :: rest =>
    if sectionBegin.isPrefixOf line then do
      let label ← beginLabel? line
      sectionsFrom? (some (label, [])) rest
    else
      match inside with
      | none => sectionsFrom? none rest
      | some (label, lines) =>
        if (sectionEnd label).isPrefixOf line then
          match (Utf8.decode? label).bind (sectionKinds.lookup ·) with
          | none => sectionsFrom? none rest
          | some kind => do
            let data ← sectionData? lines.reverse
            return ⟨kind, data⟩ :: (← sectionsFrom? none rest)
        else sectionsFrom? (some (label, line :: lines)) rest

def sections? (text : Bytes) : Option (List Section) := sectionsFrom? none (fileLines text)

end SessionGate.Pem
