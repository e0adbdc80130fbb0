import SessionGate.Files
import SessionGate.Text.Address
import SessionGate.Text.Pem
import SessionGate.Text.Utf16
import SessionGate.Yaml.V11.Document

/-!
# Configuration files of clients

A file lists clusters, users and contexts by name; a context names a cluster and a user, and one
context is the current one.

- `Kubeconfig.ofText?` reads a file; the documents of it are merged.
- `Kubeconfig.current?` looks the current context up.
-/
namespace SessionGate.Cluster
set_option autoImplicit false
open Utf8 (Bytes)
open Yaml.V11 (Value Fields)

namespace Kubeconfig

/-! ## Entries -/

/-- How a cluster is reached. -/
structure Endpoint where
  server : Option String
  authority : Option String
  authorityData : Option String
  proxy : Option String
  serverName : Option String
deriving DecidableEq, Inhabited

/-- A service that gives tokens, and its settings. -/
structure Provider where
  name : String
  settings : List (String × String)
deriving DecidableEq, Inhabited

/-- A command that is run for a credential. -/
structure Command where
  apiVersion : Option String
  program : Option String
  arguments : List String
  /-- Variables that are set for it. -/
  environment : List (List (String × String))
  /-- Whether it may ask for input. -/
  mode : Option String
  /-- Whether it is told about the cluster. -/
  seesCluster : Bool
deriving DecidableEq, Inhabited

/-- How a user proves itself. -/
structure User where
  username : Option String := none
  password : Option String := none
  token : Option String := none
  tokenFile : Option String := none
  certificate : Option String := none
  certificateData : Option String := none
  key : Option String := none
  keyData : Option String := none
  /-- The user and the groups that are acted for. -/
  actsFor : Option String := none
  groups : Option (List String) := none
  provider : Option Provider := none
  command : Option Command := none
deriving DecidableEq, Inhabited

structure Context where
  cluster : String
  user : Option String
  namespaceName : Option String
deriving DecidableEq, Inhabited

end Kubeconfig

open Kubeconfig in
/-- A configuration; of an entry its name is known, but it can be empty. -/
structure Kubeconfig where
  kind : Option String := none
  apiVersion : Option String := none
  current : Option String := none
  clusters : List (String × Option Endpoint) := []
  users : List (String × Option User) := []
  contexts : List (String × Option Context) := []
deriving Inhabited

namespace Kubeconfig

/-! ## Reading -/

/-- Checks an extension: its name, and any value. -/
def extension? (value : Value) : Option Unit := do
  let fields ← value.fields?
  let _ ← fields.needed? "name" Value.text?
  fields.needed? "extension" fun v => if v.isPlain then some () else none

def extensions? (fields : Fields) : Option Unit :=
  discard (fields.optional? "extensions" (·.list? extension?))

/-- Reads texts by name. -/
def table? (value : Value) : Option (List (String × String)) := do
  (← value.fields?).mapM fun (name, value) => value.text?.map (name, ·)

def endpoint? (value : Value) : Option Endpoint := do
  let fields ← value.fields?
  let text (name : String) : Option (Option String) := fields.optional? name Value.text?
  let _ ← fields.optional? "insecure-skip-tls-verify" Value.flag?
  let _ ← fields.optional? "disable-compression" Value.flag?
  extensions? fields
  return {
    server := ← text "server"
    authority := ← text "certificate-authority"
    authorityData := ← text "certificate-authority-data"
    proxy := ← text "proxy-url"
    serverName := ← text "tls-server-name" }

def provider? (value : Value) : Option Provider := do
  let fields ← value.fields?
  return ⟨← fields.needed? "name" Value.text?, ← fields.filled? "config" [] table?⟩

/-- Ways in which a command may ask for input: a word, or a tag of null. -/
def mode? (value : Value) : Option String :=
  let isMode (word : String) : Bool := ["Never", "IfAvailable", "Always"].contains word
  match value with
  | .text word | .tagged word .null => if isMode word then some word else none
  | _ => none

def command? (value : Value) : Option Command := do
  let fields ← value.fields?
  return {
    apiVersion := ← fields.optional? "apiVersion" Value.text?
    program := ← fields.optional? "command" Value.text?
    arguments := (← fields.optional? "args" (·.list? Value.text?)).getD []
    environment := (← fields.optional? "env" (·.list? table?)).getD []
    mode := ← fields.optional? "interactiveMode" mode?
    seesCluster := ← fields.filled? "provideClusterInfo" false Value.flag? }

def user? (value : Value) : Option User := do
  let fields ← value.fields?
  let text (name : String) : Option (Option String) := fields.optional? name Value.text?
  return {
    username := ← text "username"
    password := ← text "password"
    token := ← text "token"
    tokenFile := ← text "tokenFile"
    certificate := ← text "client-certificate"
    certificateData := ← text "client-certificate-data"
    key := ← text "client-key"
    keyData := ← text "client-key-data"
    actsFor := ← text "as"
    groups := ← fields.optional? "as-groups" (·.list? Value.text?)
    provider := ← fields.optional? "auth-provider" provider?
    command := ← fields.optional? "exec" command? }

def context? (value : Value) : Option Context := do
  let fields ← value.fields?
  extensions? fields
  return ⟨← fields.needed? "cluster" Value.text?, ← fields.optional? "user" Value.text?,
    ← fields.optional? "namespace" Value.text?⟩

/-- Reads a list of named entries; null stands for an empty list. -/
def entries? {α : Type} (fields : Fields) (list part : String) (read? : Value → Option α) :
    Option (List (String × Option α)) := do
  let entries ← fields.optional? list fun value => value.list? fun entry => do
    let fields ← entry.fields?
    return (← fields.needed? "name" Value.text?, ← fields.optional? part read?)
  return entries.getD []

/-- Checks the preferences of a user. -/
def preferences? (value : Value) : Option Unit := do
  let fields ← value.fields?
  let _ ← fields.optional? "colors" Value.flag?
  extensions? fields

/-- Reads one document. -/
def ofValue? (value : Value) : Option Kubeconfig := do
  let fields ← value.fields?
  let _ ← fields.optional? "preferences" preferences?
  extensions? fields
  return {
    kind := ← fields.optional? "kind" Value.text?
    apiVersion := ← fields.optional? "apiVersion" Value.text?
    current := ← fields.optional? "current-context" Value.text?
    clusters := ← entries? fields "clusters" "cluster" endpoint?
    users := ← entries? fields "users" "user" user?
    contexts := ← entries? fields "contexts" "context" context? }

/-! ## Merging -/

/-- Whether two texts agree where both are there. -/
def agree (a b : Option String) : Bool := a.isNone || b.isNone || a == b

/-- Adds the entries whose names are new. -/
def mergeEntries {α : Type} (first second : List (String × Option α)) : List (String × Option α) :=
  first ++ second.filter fun (name, _) => !(first.any (·.1 == name))

/-- Puts two configurations together; the first one wins. -/
def merge? (first second : Kubeconfig) : Option Kubeconfig :=
  if agree first.kind second.kind && agree first.apiVersion second.apiVersion then
    some {
      kind := first.kind.orElse fun _ => second.kind
      apiVersion := first.apiVersion.orElse fun _ => second.apiVersion
      current := first.current.orElse fun _ => second.current
      clusters := mergeEntries first.clusters second.clusters
      users := mergeEntries first.users second.users
      contexts := mergeEntries first.contexts second.contexts }
  else none

def mergeAll? : List Kubeconfig → Option Kubeconfig
  | [] => some {}
  | first :: rest => rest.foldlM merge? first

/-- Reads a text; one without a document is an empty configuration. -/
def ofText? (text : String) : Option Kubeconfig :=
  match Yaml.V11.documents text with
  | .error _ => none
  | .ok documents => (documents.mapM ofValue?).bind mergeAll?

/-- Reads a file in the encoding that it tells. -/
def ofFile? (bytes : Bytes) : Option Kubeconfig := (Utf16.decodeMarked? bytes).bind ofText?

/-- Reads the files of a list, the first one above the others. -/
def ofFiles? (files : Files) (paths : List String) : Option Kubeconfig := do
  mergeAll? (← paths.mapM fun path => (files path).toOption.bind ofFile?)

/-- Paths of other files that a configuration names. -/
def references (config : Kubeconfig) : List String :=
  let endpoints := config.clusters.filterMap (·.2)
  let users := config.users.filterMap (·.2)
  endpoints.filterMap (·.authority)
    ++ users.flatMap fun user => [user.tokenFile, user.certificate, user.key].filterMap id

/-! ## The current context -/

/-- What a client is made from. -/
structure Access where
  server : Address
  /-- The namespace where none is named. -/
  namespaceName : String
  user : User
  /-- Certificates of authorities that are trusted, if they are given. -/
  authorities : Option (List Bytes)
  /-- Whether requests go through a proxy. -/
  proxied : Bool
  /-- The name that the certificate of the server is to bear, if it is given. -/
  serverName : Option String

def find? {α : Type} (entries : List (String × Option α)) (name : String) : Option α :=
  (List.lookup name entries).join

/-- The certificates of a bundle. -/
def certificates? (bundle : Bytes) : Option (List Bytes) :=
  (Pem.blocks? bundle).map fun blocks =>
    (blocks.filter (·.label == "CERTIFICATE")).map (·.contents)

/-- The contents of inline data, or else of a file, and the end of a line behind them. -/
def load? (files : Files) (data path : Option String) : Option Bytes := do
  let contents ←
    match data, path with
    | some data, _ => Base64.decode? data.toList
    | none, some path => (files path).toOption
    | none, none => none
  return if contents.getLast? = some 10 then contents else contents ++ [10]

/-- The authorities of a cluster. -/
def authorities? (files : Files) (cluster : Endpoint) : Option (Option (List Bytes)) :=
  if cluster.authority.isNone && cluster.authorityData.isNone then some none
  else do
    let bundle ← load? files cluster.authorityData cluster.authority
    return some (← certificates? bundle)

/-- The address of a proxy: the first one that is not empty, if there is one. -/
def proxy? (candidates : List String) : Option (Option Address) :=
  match candidates.filter (!·.isEmpty) with
  | [] => some none
  | proxy :: _ => (Address.ofText? proxy).map some

/-- Looks the current context and its cluster up; a user that is not listed has no rights. Where the
cluster names no proxy, one of the `proxies` is taken. -/
def current? (config : Kubeconfig) (files : Files) (proxies : List String) : Option Access := do
  let context ← find? config.contexts (← config.current)
  let cluster ← find? config.clusters context.cluster
  let user := context.user.bind (find? config.users)
  return {
    server := ← Address.ofText? (← cluster.server)
    namespaceName := context.namespaceName.getD "default"
    user := user.getD {}
    authorities := ← authorities? files cluster
    proxied := (← proxy? (cluster.proxy.toList ++ proxies)).isSome
    serverName := cluster.serverName }

end Kubeconfig
end SessionGate.Cluster
