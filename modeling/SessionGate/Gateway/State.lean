import SessionGate.Cluster.Connection
import SessionGate.Gateway.ClusterQuery
import SessionGate.Gateway.Config
import SessionGate.Gateway.Error

/-!
# Starting the gateway

`State.start` makes a client and an empty cache. The cache refuses a lifetime that is too long by a
crash.
-/
namespace SessionGate.Gateway
set_option autoImplicit false
open Cluster (ClientLibrary Connection Host)

/-- What answers requests: a client, how it is asked, and the owners that are known. -/
structure State (Client : Type) where
  client : Client
  query : QuerySettings
  keys : Session.LabelNames
  cache : Cache

/-- Why the gateway does not start. -/
inductive StartFailure where
  | refused (cause : Error)
  | crashed (text : String)
deriving DecidableEq, Inhabited

variable {File Settings Client : Type}

/-- Connects to the cluster and makes the cache. -/
def State.start (library : ClientLibrary File Settings Client) (files : Files) (config : Config) :
    List Log.Event × Except StartFailure (State Client) :=
  match library.create files config.connection with
  | (log, .error (.refused e)) => (log, .error (.refused (.config ("kube client: " ++ e.message))))
  | (log, .error (.crashed text)) => (log, .error (.crashed text))
  | (log, .ok client) =>
    match Cache.make config.lifetime config.cacheSize with
    | .error text => (log, .error (.crashed text))
    | .ok cache => (log, .ok ⟨client, ⟨config.namespaceName, config.timeout⟩, config.keys, cache⟩)

/-- Starts the gateway on a machine. -/
def State.build (environment : CommandLine.Environment) (files : Files) (config : Config)
    (host : Host := .bare) : List Log.Event × Except StartFailure (State Connection) :=
  State.start (host.library environment files) files config

end SessionGate.Gateway
