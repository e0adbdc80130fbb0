import SessionGate.Text.Utf8

/-!
# Files

What is read of files: the contents of a path, or why it cannot be read.
-/
namespace SessionGate
set_option autoImplicit false
open Utf8 (Bytes)

inductive FileError where
  | notFound
  | isDirectory
  | denied
  /-- The contents are no text where a text is read. -/
  | notText
deriving DecidableEq, Inhabited

def FileError.message : FileError → String
  | .notFound => "No such file or directory (os error 2)"
  | .isDirectory => "Is a directory (os error 21)"
  | .denied => "Permission denied (os error 13)"
  | .notText => "stream did not contain valid UTF-8"

/-- The contents of each path. -/
abbrev Files := String → Except FileError Bytes

/-- Reads a file as a text. -/
def Files.text (files : Files) (path : String) : Except FileError String := do
  match Utf8.decode? (← files path) with
  | some text => return text
  | none => throw .notText

end SessionGate
