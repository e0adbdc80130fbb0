import SessionGate.Cluster.ClientLibrary
import SessionGate.CommandLine
import SessionGate.Session.Labels
import SessionGate.Text.SocketAddress

/-!
# Settings of the gateway

- `Config.ofArguments` reads the settings from arguments and the environment.
- `Config.tls` says how the API server is verified.
- `Config.parameters` is the event that tells the settings at the start.
-/
namespace SessionGate.Gateway
set_option autoImplicit false
open CommandLine

structure Config where
  /-- Where the gateway listens. -/
  listenAddress : SocketAddress := .octets [0, 0, 0, 0] 8080
  /-- Namespace of the Services and Pods of sessions. -/
  namespaceName : String := Session.defaultNamespace
  /-- Seconds for which an owner is cached. -/
  cacheTtl : Nat := 3600
  cacheSize : Nat := 4096
  keys : Session.LabelNames := .default
  /-- Seconds that a query to the cluster may take. -/
  queryTimeout : Nat := 5
  logLevel : String := "info"
  /-- The API server is not verified. -/
  devMode : Bool := false
  /-- The API server is verified by the authority of the cluster. -/
  prod : Bool := false
  /-- The API server is verified by this bundle. -/
  caFile : Option String := none
deriving DecidableEq, Inhabited

namespace Config

/-! ## Arguments -/

def address? (text : String) : Except Failure SocketAddress :=
  match SocketAddress.ofText? text with
  | some address => .ok address
  | none => .error .invalidForm

def settings : List (Setting Config) :=
  [{ name := "listen-addr", fallback := some "LISTEN_ADDR",
     read := fun text => do
       let address ← address? text
       return fun c => { c with listenAddress := address } },
    { name := "namespace", fallback := some "TARGET_NAMESPACE",
      read := fun text => .ok fun c => { c with namespaceName := text } },
    { name := "cache-ttl-seconds", fallback := some "CACHE_TTL_SECONDS",
      read := fun text => do
        let n ← count? text
        return fun c => { c with cacheTtl := n } },
    { name := "cache-max-size", fallback := some "CACHE_MAX_SIZE",
      read := fun text => do
        let n ← count? text
        return fun c => { c with cacheSize := n } },
    { name := "session-label-key", fallback := some "SESSION_LABEL_KEY",
      read := fun text => .ok fun c => { c with keys := { c.keys with session := text } } },
    { name := "user-label-key", fallback := some "USER_LABEL_KEY",
      read := fun text => .ok fun c => { c with keys := { c.keys with user := text } } },
    { name := "query-timeout-seconds", fallback := some "CLUSTER_QUERY_TIMEOUT_SECONDS",
      read := fun text => do
        let n ← count? text
        return fun c => { c with queryTimeout := n } },
    { name := "log-level", fallback := some "LOG_LEVEL",
      read := fun text => .ok fun c => { c with logLevel := text } },
    { name := "dev-mode", fallback := some "DEV_MODE", implied := some "true",
      read := fun text => do
        let b ← choice? text
        return fun c => { c with devMode := b } },
    { name := "prod", fallback := some "PROD", implied := some "true",
      read := fun text => do
        let b ← choice? text
        return fun c => { c with prod := b } },
    { name := "ca-file", fallback := some "CLUSTER_CA_FILE",
      read := fun text => do
        let path ← path? text
        return fun c => { c with caFile := some path } }]

/-- Reads the settings from arguments and the environment. -/
def ofArguments (environment : Environment) (arguments : List String) : Except Failure Config := do
  let r ← ({ settings } : Command Config).read {} environment arguments
  return r.values

/-! ## Consequences -/

/-- Bundle of the authority of the cluster. -/
def serviceAccountBundle : String := "/var/run/secrets/kubernetes.io/serviceaccount/ca.crt"

/-- Dev mode goes before a bundle, and a bundle before the authority of the cluster. -/
def tls (c : Config) : Cluster.ServerTrust :=
  if c.devMode then .disabled
  else
    match c.caFile with
    | some path => .caFile path
    | none => if c.prod then .caFile serviceAccountBundle else .configured

def lifetime (c : Config) : Duration := .ofSecs c.cacheTtl

def timeout (c : Config) : Duration := .ofSecs c.queryTimeout

def connection (c : Config) : Cluster.ConnectionOptions :=
  { tls := c.tls, connectTimeout := c.timeout }

/-- How paths of sessions look. -/
def sessionPattern : String := Session.publicPath "([a-z0-9]+)"

/-- Tells the settings. -/
def parameters (c : Config) : Log.Event :=
  .info "startup_parameters"
    [("listen_addr", .shown c.listenAddress.display), ("namespace", .shown c.namespaceName),
      ("session_label_key", .shown c.keys.session), ("user_label_key", .shown c.keys.user),
      ("session_pattern", .shown sessionPattern), ("cache_ttl_seconds", .number c.cacheTtl),
      ("cache_max_size", .number c.cacheSize), ("query_timeout_seconds", .number c.queryTimeout),
      ("tls_verification", .shown c.tls.display)]

end Config
end SessionGate.Gateway
