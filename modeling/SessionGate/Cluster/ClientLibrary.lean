import SessionGate.Cluster.Error
import SessionGate.Cluster.Kubeconfig
import SessionGate.Log.Event

/-!
# Making a client

The library that makes clients is a parameter: each of its calls gives a result, is refused or
crashes.

- `ClientLibrary.load` finds the settings of a client: those of a named file, or else those inside of
  a cluster, or else those of the configuration files of the environment.
- `authorities` reads the certificates of a bundle file.
- `ClientLibrary.create` makes a client and tells what it has done.
-/
namespace SessionGate.Cluster
set_option autoImplicit false
open Utf8 (Bytes)

/-! ## Options -/

/-- How the certificate of the server is verified. -/
inductive ServerTrust where
  /-- Not at all. -/
  | disabled
  /-- As the configuration says. -/
  | configured
  /-- By the authorities of a bundle. -/
  | caFile (path : String)
deriving DecidableEq, Inhabited

def ServerTrust.display : ServerTrust → String
  | .disabled => "disabled"
  | .configured => "default"
  | .caFile path => "ca-file:" ++ path

structure ConnectionOptions where
  kubeconfig : Option String := none
  tls : ServerTrust := .configured
  connectTimeout : Duration := .ofSecs 5
  readTimeout : Duration := .ofSecs 30
deriving DecidableEq, Inhabited

/-! ## The library -/

/-- Why a call of the library has no result. -/
inductive CallFailure where
  | refused (reason : String)
  | crashed (text : String)
deriving DecidableEq, Inhabited

/-- Whom a client trusts: the authorities of its settings, anyone, or other authorities. -/
inductive Trust where
  | configured
  | anyone
  | only (certificates : List Bytes)
deriving DecidableEq, Inhabited

/-- What is set in settings that have been found. -/
structure Adjustments where
  connectTimeout : Duration
  readTimeout : Duration
  trust : Trust
deriving DecidableEq, Inhabited

structure ClientLibrary (File Settings Client : Type) where
  /-- The settings of a program that runs inside of a cluster. -/
  inCluster : Except CallFailure Settings
  /-- Reads the configuration file at a path. -/
  readFile : String → Except CallFailure File
  /-- The settings of a configuration file. -/
  ofFile : File → Except CallFailure Settings
  /-- The settings of the configuration files of the environment. -/
  inferred : Except CallFailure Settings
  make : Settings → Adjustments → Except CallFailure Client

/-! ## Certificates -/

/-- Reads the certificates of a bundle; a bundle without any is refused. -/
def authorities (files : Files) (path : String) : Except Error (List Bytes) :=
  match files path with
  | .error e => .error (.clientConfig ("failed to read CA file " ++ path ++ ": " ++ e.message))
  | .ok bundle =>
    match Kubeconfig.certificates? bundle with
    | none => .error (.clientConfig ("invalid PEM in " ++ path ++ ": malformed block"))
    | some [] => .error (.clientConfig ("no certificates found in " ++ path))
    | some certificates => .ok certificates

/-- Whom a client is to trust, and what is told about it. -/
def ServerTrust.resolve (files : Files) : ServerTrust → List Log.Event × Except Error Trust
  | .disabled => ([.warn "TLS verification disabled for the kube client" []], .ok .anyone)
  | .configured => ([], .ok .configured)
  | .caFile path => ([], (authorities files path).map .only)

/-! ## Clients -/

/-- Where settings come from. -/
inductive Source where
  | inCluster
  | kubeconfig
deriving DecidableEq, Inhabited

def Source.name : Source → String
  | .inCluster => "incluster"
  | .kubeconfig => "kubeconfig"

/-- Why there is no client. -/
inductive ConnectionFailure where
  | refused (cause : Error)
  | crashed (text : String)
deriving DecidableEq, Inhabited

/-- Describes what was refused; a crash stays one. -/
def CallFailure.describe (cause : String → Error) : CallFailure → ConnectionFailure
  | .refused reason => .refused (cause reason)
  | .crashed text => .crashed text

def unreadable (path reason : String) : Error :=
  .clientConfig ("failed to read kubeconfig " ++ path ++ ": " ++ reason)

def unloadable (reason : String) : Error := .clientConfig ("failed to load kubeconfig: " ++ reason)

def unmade (reason : String) : Error :=
  .internal ("failed to create client: " ++ reason) "create_client"

namespace ClientLibrary

variable {File Settings Client : Type} (library : ClientLibrary File Settings Client)

/-- The settings of a named file. -/
def ofPath (path : String) : Except ConnectionFailure Settings := do
  let file ← (library.readFile path).mapError (·.describe (unreadable path))
  (library.ofFile file).mapError (·.describe unloadable)

/-- Finds settings and tells where they come from. -/
def load (kubeconfig : Option String) :
    List Log.Event × Except ConnectionFailure (Settings × Source) :=
  match kubeconfig with
  | some path => ([], (library.ofPath path).map (·, .kubeconfig))
  | none =>
    match library.inCluster with
    | .ok settings => ([], .ok (settings, .inCluster))
    | .error (.crashed text) => ([], .error (.crashed text))
    | .error (.refused reason) =>
      ([.debug "not running in-cluster, falling back to kubeconfig" [("error", .shown reason)]],
        (library.inferred.mapError (·.describe unloadable)).map (·, .kubeconfig))

/-- The events of making a client, in order, and the client or why there is none. -/
def create (files : Files) (options : ConnectionOptions) :
    List Log.Event × Except ConnectionFailure Client :=
  match library.load options.kubeconfig with
  | (log, .error failure) => (log, .error failure)
  | (log, .ok (settings, source)) =>
    let (warnings, trust) := options.tls.resolve files
    match trust with
    | .error e => (log ++ warnings, .error (.refused e))
    | .ok trust =>
      match library.make settings ⟨options.connectTimeout, options.readTimeout, trust⟩ with
      | .error failure => (log ++ warnings, .error (failure.describe unmade))
      | .ok client =>
        (log ++ warnings ++ [.info "kube client ready"
          [("auth_mode", .text source.name), ("tls", .shown options.tls.display)]], .ok client)

end ClientLibrary
end SessionGate.Cluster
