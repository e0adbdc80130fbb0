import SessionGate.Cluster.Kubeconfig
import SessionGate.Number.Timestamp
import SessionGate.Text.PemSection
import SessionGate.Text.SocketAddress

/-!
# How a client proves itself

- `Identity.of?` finds the way in which a user of a configuration proves itself on a machine, a `Host`.
- `Identity.hasCertificate?` says whether a user has a certificate of its own; it fails where the
  certificate and its key are no pair.
- `isServerName` says whether a text is the name or the address of a server.
-/
namespace SessionGate.Cluster
set_option autoImplicit false
open Utf8 (Bytes)
open Kubeconfig (User Provider Command)

/-! ## Outlines of encoded values -/

/-- Cuts a value of a kind, with its length in front, off octets. -/
def element? (tag : UInt8) : Bytes → Option (Bytes × Bytes)
  | t :: n :: rest =>
    if t ≠ tag then none
    else
      let (length, rest) :=
        if n < 0x80 then (n.toNat, rest)
        else
          let count := n.toNat - 0x80
          ((rest.take count).foldl (fun l b => l * 256 + b.toNat) 0, rest.drop count)
      if rest.length < length then none else some (rest.take length, rest.drop length)
  | _ => none

/-- Passes over values of these kinds. -/
def afterElements? (octets : Bytes) (tags : List UInt8) : Option Bytes :=
  tags.foldlM (fun octets tag => (element? tag octets).map (·.2)) octets

/-- What is behind values of these kinds in a sequence that nothing follows. -/
def inSequence? (octets : Bytes) (tags : List UInt8) : Option Bytes := do
  let (inner, behind) ← element? 0x30 octets
  if behind.isEmpty then afterElements? inner tags else none

/-- Whether octets have the outline of a certificate: a sequence of what is certified, an algorithm
and a signature. -/
def isCertificate (octets : Bytes) : Bool := inSequence? octets [0x30, 0x30, 0x03] = some []

/-- Whether octets have the outline of a private key of a kind. -/
def isPrivateKey (kind : Pem.SectionKind) (octets : Bytes) : Bool :=
  match kind with
  | .key => (inSequence? octets [0x02, 0x30, 0x04]).isSome
  | .factorKey => inSequence? octets (List.replicate 9 0x02) = some []
  | .curveKey => (inSequence? octets [0x02, 0x04]).isSome
  | _ => false

/-! ## Names of servers -/

/-- What has been seen of the label that is read. -/
inductive LabelScan where
  | empty
  | numeric (length : Nat)
  | word (length : Nat)
  | hyphen (length : Nat)
deriving DecidableEq, Inhabited

def LabelScan.length : LabelScan → Nat
  | .empty => 0
  | .numeric n | .word n | .hyphen n => n

/-- Reads one sign of a name: labels of up to 63 letters, digits, underscores and inner hyphens with
dots between them. -/
def LabelScan.step? (scan : LabelScan) (c : Char) : Option LabelScan :=
  if c = '.' then
    match scan with
    | .numeric _ | .word _ => some .empty
    | _ => none
  else if 63 ≤ scan.length then none
  else if c.isDigit then
    match scan with
    | .empty | .numeric _ => some (.numeric (scan.length + 1))
    | _ => some (.word (scan.length + 1))
  else if c.isAlpha || c = '_' then some (.word (scan.length + 1))
  else if c = '-' && scan ≠ .empty then some (.hyphen (scan.length + 1))
  else none

/-- Whether a text is the name of a host. Its last label is not a number; it may be empty, but only
behind a label with a letter. -/
def isHostName (text : List Char) : Bool :=
  text.length ≤ 253 &&
    match text.foldlM LabelScan.step? .empty with
    | some (.word _) => true
    | some .empty =>
      match text.dropLast.foldlM LabelScan.step? .empty with
      | some (.word _) => true
      | _ => false
    | _ => false

def isHostAddress (text : List Char) : Bool :=
  (SocketAddress.octets? text).any (·.2.isEmpty) || (SocketAddress.groups? text).any (·.2.isEmpty)

def isServerName (text : String) : Bool := isHostName text.toList || isHostAddress text.toList

/-! ## Identities -/

inductive Identity where
  | anonymous
  /-- A name and a password. -/
  | password
  /-- A token that is sent as it is. -/
  | bearer (token : String)
  /-- A token that is read anew from time to time. -/
  | refreshed
deriving DecidableEq, Inhabited

/-- The machine that a client runs on. -/
structure Host where
  /-- The present, in seconds since the start of the year 1970. -/
  present : Int
  /-- The identity that the command of a provider gives. -/
  provided : Provider → Option Identity
  /-- The identity that the command of a user gives. -/
  executed : Command → Option Identity

/-- A machine without commands at the start of the year 1970. -/
def Host.bare : Host := ⟨0, fun _ => none, fun _ => none⟩

namespace Identity

/-- Whether a provider has a token that is good for more than a minute; `none` where the end of it
cannot be read. -/
def isFresh? (present : Int) (provider : Provider) : Option Bool :=
  match provider.settings.lookup "access-token", provider.settings.lookup "expiry" with
  | some _, some expiry =>
    (Timestamp.ofText? expiry).map fun expiry => decide (present + 60 < expiry.seconds)
  | _, _ => some false

/-- The identity that a provider gives: a token of its settings, or else that of its command. -/
def ofProvider? (host : Host) (provider : Provider) : Option Identity :=
  let setting (name : String) : Option String := provider.settings.lookup name
  match provider.name, setting "id-token" with
  | "oidc", token => token.map .bearer
  | "gcp", some token => some (.bearer token)
  | "gcp", none => do
    if ← isFresh? host.present provider then return .refreshed
    let _ ← setting "cmd-path"
    host.provided provider
  | _, _ => none

/-- The identity of a user; `none` where it cannot be set up. -/
def of? (host : Host) (files : Files) (user : User) : Option Identity :=
  match user.provider with
  | some provider => ofProvider? host provider
  | none =>
    if user.username.isSome && user.password.isSome then some .password
    else
      match user.token, user.tokenFile with
      | some token, _ => some (.bearer token)
      | none, some path => (files.text path).toOption.map fun _ => .refreshed
      | none, none => user.command.elim (some .anonymous) host.executed

/-- Whether a text can be sent in a header. -/
def isHeaderText (text : String) : Bool :=
  text.toList.all fun c => c = '\t' || (0x20 ≤ c.toNat && c.toNat ≠ 0x7f)

/-- Whether a token cannot be sent. -/
def isUnsendable : Identity → Bool
  | .bearer token => !isHeaderText token
  | _ => false

/-- Whether a user has a certificate of its own. It has none unless both the certificate and its key
can be loaded. -/
def hasCertificate? (files : Files) (user : User) : Option Bool :=
  match Kubeconfig.load? files user.keyData user.key,
      Kubeconfig.load? files user.certificateData user.certificate with
  | some key, some certificate => do
    let found ← Pem.sections? (key ++ [10] ++ certificate)
    let certificates := found.filter (·.kind == .certificate)
    let keys := [Pem.SectionKind.key, .factorKey, .curveKey].filterMap fun kind =>
      (found.filter (·.kind == kind)).getLast?
    let chosen ← keys.head?
    if found.any (·.kind == .other) || certificates.isEmpty then none
    else if isPrivateKey chosen.kind chosen.contents
        && certificates.head?.all (isCertificate ·.contents) then some true
    else none
  | _, _ => some false

/-- Whether the user and the groups that are acted for can be sent. -/
def canActFor (user : User) : Bool :=
  user.actsFor.all isHeaderText && (user.groups.getD []).all isHeaderText

end Identity
end SessionGate.Cluster
