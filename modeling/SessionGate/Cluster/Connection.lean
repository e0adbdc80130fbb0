import SessionGate.Cluster.ClientLibrary
import SessionGate.Cluster.Identity
import SessionGate.CommandLine

/-!
# Connections to a cluster

- `serviceAccount` reads the settings of a program inside of a cluster.
- `Host.library` is the library of a machine: what it makes of the files and the environment.
- `connect` makes a client by this library.
-/
namespace SessionGate.Cluster
set_option autoImplicit false
open Utf8 (Bytes)
open CommandLine (Environment)

/-! ## Inside of a cluster -/

/-- A file of the service account that a program runs under. -/
def accountFile (name : String) : String := "/var/run/secrets/kubernetes.io/serviceaccount/" ++ name

def accountFiles : List String := ["namespace", "ca.crt", "token"].map accountFile

/-- The variables that tell where the server is. -/
def serviceVariables : List String := ["KUBERNETES_SERVICE_HOST", "KUBERNETES_SERVICE_PORT"]

/-- Reads the number of a port; a plus may stand in front of it. -/
def port? (text : String) : Option Nat :=
  let digits :=
    match text.toList with
    | '+' :: rest => rest
    | all => all
  match SocketAddress.number? 10 65536 none digits with
  | some (port, []) => some port
  | _ => none

/-- The address of the server inside of a cluster: addresses of groups stand in brackets, and the
usual port is left out. -/
def serverAddress (host : String) (port : Nat) : String :=
  let inBrackets := (SocketAddress.groups? host.toList).any (·.2.isEmpty)
  let name := if inBrackets then "[" ++ host ++ "]" else host
  if port = 443 then "https://" ++ name else "https://" ++ name ++ ":" ++ toString port

/-- The settings of a program inside of a cluster, or why it is not inside of one. -/
def serviceAccount (environment : Environment) (files : Files) :
    Except String Kubeconfig.Access := do
  let setting (name : String) : Except String String :=
    match List.lookup name environment with
    | some value => .ok value
    | none => .error "failed to read an incluster environment variable: environment variable not found"
  let host ← setting "KUBERNETES_SERVICE_HOST"
  let some port := port? (← setting "KUBERNETES_SERVICE_PORT")
    | throw "failed to parse cluster port"
  let some server := Address.ofText? (serverAddress host port) | throw "failed to parse cluster url"
  let namespaceName ← (files.text (accountFile "namespace")).mapError fun e =>
    "failed to read the default namespace: " ++ e.message
  let bundle ← (files (accountFile "ca.crt")).mapError fun e =>
    "failed to read a certificate bundle: " ++ e.message
  let some certificates := Kubeconfig.certificates? bundle
    | throw "failed to parse PEM-encoded certificates"
  return {
    server, namespaceName
    user := { tokenFile := some (accountFile "token") }
    authorities := some certificates
    proxied := false
    serverName := none }

/-! ## Configuration files -/

/-- Paths between colons. -/
def splitPaths (text : String) : List String :=
  let parts := text.toList.splitBy fun c _ => c != ':'
  (parts.map fun part => String.ofList (part.filter (· != ':'))).filter (!·.isEmpty)

/-- The files of the environment, or else the one in the home directory. -/
def defaultPaths (environment : Environment) : List String :=
  match splitPaths ((List.lookup "KUBECONFIG" environment).getD "") with
  | [] => [(List.lookup "HOME" environment).getD "/nonexistent" ++ "/.kube/config"]
  | paths => paths

def proxyVariables : List String := ["HTTP_PROXY", "http_proxy", "HTTPS_PROXY", "https_proxy"]

/-- Proxies of the environment. -/
def proxies (environment : Environment) : List String :=
  proxyVariables.filterMap (environment.lookup ·)

/-! ## Clients -/

structure Connection where
  namespaceName : String
deriving DecidableEq, Inhabited

/-- Makes a client that trusts some certificates. Requests through a proxy are not supported, and a
token that cannot be sent crashes. -/
def Connection.make (host : Host) (files : Files) (found : Kubeconfig.Access)
    (certificates : List Bytes) : Except CallFailure Connection := do
  let refuse {α : Type} (reason : String) : Except CallFailure α := .error (.refused reason)
  if found.proxied then refuse "proxies are not supported"
  match Identity.of? host files found.user with
  | none => refuse "unusable identity"
  | some identity =>
    if identity.isUnsendable then throw (.crashed "token is not valid header: InvalidHeaderValue")
  if !certificates.all isCertificate then refuse "malformed authority"
  if (Identity.hasCertificate? files found.user).isNone then refuse "malformed certificate"
  if !found.serverName.all isServerName then refuse "malformed server name"
  if !Identity.canActFor found.user then refuse "unsendable user"
  return ⟨found.namespaceName⟩

/-- The certificates that a client trusts. -/
def Trust.certificates (found : Kubeconfig.Access) : Trust → List Bytes
  | .only certificates => certificates
  | .configured | .anyone => found.authorities.getD []

/-- The library of a machine. -/
def Host.library (host : Host) (environment : Environment) (files : Files) :
    ClientLibrary Kubeconfig Kubeconfig.Access Connection where
  inCluster := (serviceAccount environment files).mapError .refused
  readFile path := (Kubeconfig.ofFiles? files [path]).elim (.error (.refused "unreadable")) .ok
  ofFile config :=
    (config.current? files (proxies environment)).elim (.error (.refused "no usable context")) .ok
  inferred :=
    ((Kubeconfig.ofFiles? files (defaultPaths environment)).bind
      (·.current? files (proxies environment))).elim (.error (.refused "no usable context")) .ok
  make found adjustments := Connection.make host files found (adjustments.trust.certificates found)

/-- The events of a connection that are no details, in order, and the connection or why there is
none. -/
def connect (environment : Environment) (files : Files) (options : ConnectionOptions)
    (host : Host := .bare) : List Log.Event × Except ConnectionFailure Connection :=
  let (log, connection) := (host.library environment files).create files options
  (log.filter (·.level != .debug), connection)

end SessionGate.Cluster
