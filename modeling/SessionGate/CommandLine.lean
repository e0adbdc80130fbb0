import SessionGate.Number.Decimal

/-!
# Command lines

A command has options; each of them changes the settings by its value. `Command.read` reads the
arguments, then the environment for the options that were not given, and then looks for what is
missing.

- An option is written `--name value`, `--name=value`, `-n value`, `-nvalue` or `-n=value`.
- The value of an option is read when the next one begins, so that an argument that is not known is
  told first.
- A word that names a subcommand ends the command's own arguments.
-/
namespace SessionGate.CommandLine
set_option autoImplicit false

/-- Why arguments are refused, or what they ask for instead of a run. -/
inductive Failure where
  | unknownArgument
  /-- The value has no valid form. -/
  | invalidForm
  /-- There is no value, or it is empty and may not be. -/
  | missingValue
  | tooManyValues
  /-- An option is given twice. -/
  | repeated
  | missingOption
  | unknownSubcommand
  | missingSubcommand
  /-- Nothing is given at all. -/
  | nothingGiven
  | help
  | version
deriving DecidableEq, Inhabited

namespace Failure

def message : Failure → String
  | .unknownArgument => "error: unexpected argument"
  | .invalidForm => "error: invalid value"
  | .missingValue => "error: a value is required"
  | .tooManyValues => "error: unexpected value"
  | .repeated => "error: an argument is used twice"
  | .missingOption => "error: a required argument is missing"
  | .unknownSubcommand => "error: unrecognized subcommand"
  | .missingSubcommand | .nothingGiven => "error: a subcommand is required"
  | .help => "usage: gateway [OPTIONS] | intercept [OPTIONS]"
  | .version => "0.1.0"

/-- Help and version are answers; everything else is an error of usage. -/
def exitCode : Failure → UInt32
  | .help | .version => 0
  | _ => 2

end Failure

/-- An option of a command with settings `σ`. -/
structure Setting (σ : Type) where
  name : String
  letter : Option Char := none
  /-- Variable of the environment that stands in for the option. -/
  fallback : Option String := none
  /-- Value of the option where it is given without one. -/
  implied : Option String := none
  required : Bool := false
  read : String → Except Failure (σ → σ)

structure Command (σ : Type) where
  settings : List (Setting σ)
  /-- Whether the command tells its version. -/
  hasVersion : Bool := false
  subcommands : List String := []

/-- Variables of the environment. -/
abbrev Environment := List (String × String)

/-- What has been read. -/
structure Reading (σ : Type) where
  values : σ
  /-- Names of the options that were given. -/
  given : List String
  /-- The option whose value is not read yet, with the value if it is there. -/
  pending : Option (Setting σ × Option String)

namespace Reading

variable {σ : Type}

/-- Gives an option its value. -/
def give (r : Reading σ) (setting : Setting σ) (value : Option String) :
    Except Failure (Reading σ) := do
  match value.orElse fun _ => setting.implied with
  | none => throw .missingValue
  | some text =>
    if r.given.contains setting.name then throw .repeated
    let change ← setting.read text
    return { r with values := change r.values, given := setting.name :: r.given }

/-- Reads the value that is still to be read. -/
def settle (r : Reading σ) : Except Failure (Reading σ) :=
  match r.pending with
  | none => .ok r
  | some (setting, value) => { r with pending := none }.give setting value

/-- Whether the next argument is the value of an option. -/
def awaitsValue (r : Reading σ) : Bool := r.pending.any (·.2.isNone)

end Reading

namespace Command

variable {σ : Type}

/-- An option begins, perhaps with its value. -/
def begin (r : Reading σ) (setting : Setting σ) (value : Option String) :
    Except Failure (Reading σ) := do
  let r ← r.settle
  match value with
  | some text => r.give setting (some text)
  | none => return { r with pending := some (setting, none) }

/-- A flag begins, which ends the reading. -/
def flag (r : Reading σ) (failure : Failure) : Except Failure (Reading σ) := do
  discard r.settle
  throw failure

/-- Reads an argument behind two dashes. -/
def readLong (c : Command σ) (r : Reading σ) (text : List Char) : Except Failure (Reading σ) :=
  let name := String.ofList (text.takeWhile (· != '='))
  let value :=
    match text.dropWhile (· != '=') with
    | _ :: value => some (String.ofList value)
    | [] => none
  match c.settings.find? (·.name == name) with
  | some setting => begin r setting value
  | none =>
    if name = "help" ∨ (name = "version" ∧ c.hasVersion) then
      if value.isSome then .error .tooManyValues
      else flag r (if name = "help" then .help else .version)
    else .error .unknownArgument

/-- Reads an argument behind one dash. -/
def readShort (c : Command σ) (r : Reading σ) (letter : Char) (rest : List Char) :
    Except Failure (Reading σ) :=
  match c.settings.find? (·.letter == some letter) with
  | some setting =>
    let value :=
      match rest with
      | [] => none
      | '=' :: value => some (String.ofList value)
      | value => some (String.ofList value)
    begin r setting value
  | none =>
    if letter = 'h' then flag r .help
    else if letter = 'V' ∧ c.hasVersion then flag r .version
    else .error .unknownArgument

/-- A word that no option takes. `behind` says whether it stands behind two lone dashes. -/
def strayWord (c : Command σ) (behind : Bool) (word : String) : Failure :=
  if c.subcommands.isEmpty then .unknownArgument
  else if behind && c.subcommands.contains word then .unknownArgument
  else .unknownSubcommand

/-- A subcommand and its arguments. -/
abbrev Remainder := Option (String × List String)

/-- Reads arguments up to a subcommand. -/
def readArguments (c : Command σ) :
    List String → Reading σ → Except Failure (Reading σ × Remainder)
  | [], r => .ok (r, none)
  | argument :: rest, r =>
    if !r.awaitsValue && c.subcommands.contains argument then .ok (r, some (argument, rest))
    else
      match argument.toList with
      | ['-', '-'] =>
        match rest with
        | [] => .ok (r, none)
        | word :: _ => .error (c.strayWord true word)
      | '-' :: '-' :: text => do
        let r ← c.readLong r text
        readArguments c rest r
      | '-' :: letter :: text => do
        let r ← c.readShort r letter text
        readArguments c rest r
      | _ =>
        match r.pending with
        | some (setting, none) =>
          readArguments c rest { r with pending := some (setting, some argument) }
        | _ => .error (c.strayWord false argument)

/-- Reads the variables of the options that were not given. -/
def readEnvironment (c : Command σ) (environment : Environment) (r : Reading σ) :
    Except Failure (Reading σ) :=
  c.settings.foldlM (fun r setting =>
    match setting.fallback.bind fun name => List.lookup name environment with
    | some text => if r.given.contains setting.name then .ok r else r.give setting (some text)
    | none => .ok r) r

/-- Looks for options that must be given. -/
def checkRequired (c : Command σ) (r : Reading σ) : Except Failure Unit :=
  if c.settings.any fun s => s.required && !r.given.contains s.name then .error .missingOption
  else .ok ()

/-- Reads the arguments of a command without subcommands. -/
def read (c : Command σ) (defaults : σ) (environment : Environment) (arguments : List String) :
    Except Failure (Reading σ) := do
  let (r, _) ← c.readArguments arguments ⟨defaults, [], none⟩
  let r ← c.readEnvironment environment (← r.settle)
  c.checkRequired r
  return r

end Command

/-! ## Values -/

/-- Reads a count below `2 ^ 64`; a plus sign may stand in front. -/
def count? (text : String) : Except Failure Nat :=
  match Number.unsigned? text with
  | some n => .ok n
  | none => .error .invalidForm

def yesWords : List String := ["y", "yes", "t", "true", "on", "1"]

def noWords : List String := ["n", "no", "f", "false", "off", "0"]

/-- Reads a word for yes or no, whatever its case. -/
def choice? (text : String) : Except Failure Bool :=
  let word := text.map Char.toLower
  if yesWords.contains word then .ok true
  else if noWords.contains word then .ok false
  else .error .invalidForm

/-- Reads the path of a file, which is not empty. -/
def path? (text : String) : Except Failure String :=
  if text.isEmpty then .error .missingValue else .ok text

end SessionGate.CommandLine
