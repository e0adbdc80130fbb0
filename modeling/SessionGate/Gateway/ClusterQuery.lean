import SessionGate.Cluster.Client
import SessionGate.Cluster.Server
import SessionGate.Cluster.Shape.Pod
import SessionGate.Cluster.Shape.Service
import SessionGate.Gateway.Cache
import SessionGate.Gateway.Decision

/-!
# The gateway before an API server

- `labelsFor` asks for the labels of the first object of a kind that a selector matches.
- `probe` asks whether the server answers.
- `Station` is a cache beside a scripted server: surroundings in which the gateway's programs run.
-/
namespace SessionGate.Gateway
set_option autoImplicit false
open Cluster
open Session (ObjectKind Labels)

/-- How the gateway asks the cluster. -/
structure QuerySettings where
  namespaceName : String
  timeout : Duration
deriving DecidableEq, Inhabited

/-- Labels in the metadata of an object. -/
def labelsOf (object : Json) : Labels :=
  (((object.pointer? ["metadata", "labels"]).bind Json.members?).getD []).filterMap fun (key, v) =>
    v.string?.map (key, ·)

/-- What a list of objects of a kind is called. -/
def listOperation : ObjectKind → String
  | .service => "list services"
  | .pod => "list pods"

def resourceOf : ObjectKind → Resource
  | .service => .of "v1" "Service"
  | .pod => .of "v1" "Pod"

def shapeOf : ObjectKind → Cluster.Shape
  | .service => Cluster.service
  | .pod => Cluster.pod

/-- Labels of the first object of a kind that a selector matches. -/
def labelsFor (settings : QuerySettings) (kind : ObjectKind) (selector : String) :
    Program http (Except Cluster.Error (Option Labels)) := do
  match ← Client.listWithin settings.timeout (listOperation kind) (resourceOf kind)
      (fun depth => (shapeOf kind).read? depth) settings.namespaceName ⟨some selector, some 1⟩ with
  | .error e => return .error e
  | .ok objects =>
    Program.report (.debug "label query" [("namespace", .shown settings.namespaceName),
      ("selector", .shown selector), ("matched", .number objects.length),
      ("operation", .text (listOperation kind))])
    return .ok (objects.head?.map labelsOf)

/-- Asks whether the server answers. -/
def probe (settings : QuerySettings) : Program http (Except Cluster.Error Unit) := do
  match ← Client.version settings.timeout with
  | .ok _ => return .ok ()
  | .error e => return .error e

/-- A cache beside a scripted server. -/
structure Station where
  cache : Cache
  moment : Cluster.ServerMoment

namespace Station

/-- The instant by the clock of the server. -/
def now (s : Station) : Duration := .ofMillis s.moment.now

/-- Answers a question. -/
def answer (settings : QuerySettings) : (q : Question) → Station → q.Answer × Station
  | .cached token, s => (s.cache.get? s.now token, s)
  | .remember token userid, s => ((), { s with cache := s.cache.put s.now token userid })
  | .labels kind selector, s =>
    let (a, moment) := Cluster.Server.run (labelsFor settings kind selector) s.moment
    (a, { s with moment })
  | .probe, s =>
    let (a, moment) := Cluster.Server.run (Gateway.probe settings) s.moment
    (a, { s with moment })

def note (event : Log.Event) (s : Station) : Station := { s with moment := s.moment.note event }

def run {α : Type} (settings : QuerySettings) (program : Program surroundings α) (s : Station) :
    α × Station :=
  program.run note (answer settings) s

end Station
end SessionGate.Gateway
