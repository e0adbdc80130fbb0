import SessionGate.Intercept.Rehearsal
import SessionGate.Intercept.RouteTable

/-!
# Scripted sites

A site whose routes are a table and whose other answers are given beforehand. Only the logs take
time.
-/
namespace SessionGate.Intercept
set_option autoImplicit false
open Cluster (Error Manifest)

/-- Logs that end after some milliseconds. -/
structure LogScript where
  span : Nat
  ending : Attempt (Except Error Unit)

/-- The answers of the cluster. -/
structure Script where
  apply : Except Error Unit
  delete : Except Error Unit
  /-- Nothing stands for the preferred name. -/
  workload : Attempt (Except Error (Option String))
  /-- Nothing stands for logs that never end. -/
  logs : Option LogScript

/-- What a scripted site records. -/
inductive SiteCall where
  | cluster (call : ClusterCall)
  | stream (ns deployment : String)
  | streamEnd

namespace Script

/-- The answers of a script; the routes are a table. -/
def answer (script : Script) : (call : ClusterCall) → RouteDesk → call.Answer × RouteDesk
  | .apply _, desk => (script.apply, desk)
  | .delete _, desk => (script.delete, desk)
  | .workload _ preferred, desk =>
    let found :=
      match script.workload with
      | .returned (.ok name) => .returned (.ok (name.getD preferred))
      | .returned (.error e) => .returned (.error e)
      | .crashed crash => .crashed crash
    (found, desk)
  | .route call, desk => desk.answer call

/-- Logs that come to their end unless the task is stopped before. -/
def stream (script : Script) (ns deployment : String) (deadline : Option Nat)
    (m : Moment RouteDesk SiteCall) :
    Option (Attempt (Except Error Unit)) × Moment RouteDesk SiteCall :=
  let m := m.record (.stream ns deployment)
  match script.logs with
  | none => (none, m)
  | some logs =>
    let finish := m.now + logs.span
    if deadline.any (· ≤ finish) then (none, m)
    else
      let m := { m with now := finish }
      match logs.ending with
      | .crashed crash => (some (.crashed crash), m)
      | ending => (some ending, m.record .streamEnd)

def site (script : Script) : Site RouteDesk SiteCall where
  answer call m :=
    let (a, world) := script.answer call m.world
    (a, { m.record (.cluster call) with world })
  stream := script.stream
  cancelsFirst := false
  endsFirst := false

end Script
end SessionGate.Intercept
