import SessionGate.Gateway.Cache
import SessionGate.Gateway.Decision

/-!
# A registry of session objects

Labels of Services and Pods in memory, a cache and a clock: surroundings in which the programs of the
gateway run.

- `Registry.answer` answers a question; failures can be set for each kind of object and the probe.
- `Registry.run` runs a program and keeps the calls it made and the events it reported.
-/
namespace SessionGate.Gateway
set_option autoImplicit false
open Session (ObjectKind Labels LabelNames)

structure Registry where
  services : List Labels
  pods : List Labels
  serviceFault : Option Cluster.Error
  podFault : Option Cluster.Error
  probeFault : Option Cluster.Error
  cache : Cache
  now : Duration
  /-- Questions to the cluster, in order. -/
  calls : List Question
  log : List Log.Event

namespace Registry

def make (cache : Cache) : Registry := ⟨[], [], none, none, none, cache, ⟨0⟩, [], []⟩

/-- Objects of a kind. -/
def objects (r : Registry) : ObjectKind → List Labels
  | .service => r.services
  | .pod => r.pods

def fault (r : Registry) : ObjectKind → Option Cluster.Error
  | .service => r.serviceFault
  | .pod => r.podFault

def setObjects (r : Registry) (items : List Labels) : ObjectKind → Registry
  | .service => { r with services := items }
  | .pod => { r with pods := items }

def setFault (r : Registry) (fault : Option Cluster.Error) : ObjectKind → Registry
  | .service => { r with serviceFault := fault }
  | .pod => { r with podFault := fault }

/-- Key and value of an equality selector, parted at its first equals sign. -/
def splitSelector (selector : String) : String × String :=
  let text := selector.toList
  (String.ofList (text.takeWhile (· != '=')), String.ofList (text.dropWhile (· != '=')).tail)

/-- Whether labels match an equality selector. -/
def selects (selector : String) (labels : Labels) : Bool :=
  let (key, value) := splitSelector selector
  labels.lookup key == some value

/-- Labels of the first object that a selector matches. -/
def labelsFor (r : Registry) (kind : ObjectKind) (selector : String) :
    Except Cluster.Error (Option Labels) :=
  match r.fault kind with
  | some e => .error e
  | none => .ok ((r.objects kind).find? (selects selector))

def probeResult (r : Registry) : Except Cluster.Error Unit :=
  match r.probeFault with
  | some e => .error e
  | none => .ok ()

/-- Answers a question; the cluster's questions are recorded. -/
def answer : (q : Question) → Registry → q.Answer × Registry
  | .cached token, r => (r.cache.get? r.now token, r)
  | .remember token userid, r => ((), { r with cache := r.cache.put r.now token userid })
  | .labels kind selector, r =>
    (r.labelsFor kind selector, { r with calls := r.calls ++ [.labels kind selector] })
  | .probe, r => (r.probeResult, { r with calls := r.calls ++ [.probe] })

def note (event : Log.Event) (r : Registry) : Registry := { r with log := r.log ++ [event] }

def run {α : Type} (program : Program surroundings α) (r : Registry) : α × Registry :=
  Program.run note answer program r

/-- Lets time pass. -/
def elapse (r : Registry) (span : Duration) : Registry :=
  { r with now := ⟨r.now.nanos + span.nanos⟩ }

end Registry
end SessionGate.Gateway
