import SessionGate.Intercept.Run
import SessionGate.Moment

/-!
# Runs against virtual time

A site answers the calls of a run and tells how the logs of a deployment go; time passes only where
something waits, in whole milliseconds. What comes first at one instant is up to the site.

- `exitPoll` is the poll that ends the wait for a cancelled run or for ended logs.
- `Rehearsal.run` runs an interception at a site; a run that waits for ever has no result.
-/
namespace SessionGate.Intercept
set_option autoImplicit false
open Cluster (Error)

/-! ## Instants -/

/-- Interval of the polls, unless another one is given. -/
def defaultPoll : Nat := 200

/-- The first instant at which something shows that happens at an instant: the same one, if it comes
first there, or the next one. -/
def showsFrom (first : Bool) (instant : Nat) : Nat := if first then instant else instant + 1

/-- The earlier one of two instants that may never come. -/
def earlier : Option Nat → Option Nat → Option Nat
  | some a, some b => some (min a b)
  | some a, none => some a
  | none, b => b

/-- The instant of the poll that ends the wait, and how, where a cancellation shows from an instant on
and an end from another one: a poll that sees both takes the run as cancelled. The polls are at `start`
and after every `interval`, which is not zero. -/
def exitPoll (interval start : Nat) (cancelledFrom endedFrom : Option Nat) : Option (Nat × Outcome) :=
  (earlier cancelledFrom endedFrom).map fun first =>
    let poll := start + (first - start + (interval - 1)) / interval * interval
    (poll, if cancelledFrom.any (· ≤ poll) then .interrupted else .completed)

/-! ## Sites -/

/-- What a run meets. -/
structure Site (σ κ : Type) where
  answer : (call : ClusterCall) → Moment σ κ → call.Answer × Moment σ κ
  /-- The task that follows the logs of a deployment, up to its end or to before an instant. -/
  stream : (ns deployment : String) → (deadline : Option Nat) → Moment σ κ →
    Option (Attempt (Except Error Unit)) × Moment σ κ
  /-- Whether a cancellation comes before a timer that fires at the same instant. -/
  cancelsFirst : Bool
  /-- Whether the task comes before a timer that fires at the same instant. -/
  endsFirst : Bool

/-! ## Runs -/

/-- A run at a site. -/
structure Rehearsal (σ κ : Type) where
  moment : Moment σ κ
  /-- Namespace and deployment of the task that was started. -/
  task : Option (String × String)
  /-- How the task ended. -/
  ended : Option (Attempt (Except Error Unit))

/-- When polls happen, and when the run is cancelled; zero stands for before its start. -/
structure Schedule where
  poll : Nat
  cancelledAt : Option Nat
deriving DecidableEq, Inhabited

/-- The first instant at which the cancellation of a run shows. -/
def Site.cancelledFrom {σ κ : Type} (site : Site σ κ) (schedule : Schedule) : Option Nat :=
  schedule.cancelledAt.map fun i => if i = 0 then 0 else showsFrom site.cancelsFirst i

namespace Rehearsal

variable {σ κ : Type}

def note (event : Log.Event) (r : Rehearsal σ κ) : Rehearsal σ κ :=
  { r with moment := r.moment.note event }

/-- What is noticed where the wait ends. -/
def leave (schedule : Schedule) (outcome : Outcome) (m : Moment σ κ) : Moment σ κ :=
  match outcome with
  | .interrupted => m.notice schedule.cancelledAt
  | .completed => m

/-- Waits for the exit while the task runs. -/
def awaitExit (site : Site σ κ) (schedule : Schedule) (r : Rehearsal σ κ) :
    Option Outcome × Rehearsal σ κ :=
  match r.task with
  | none => (none, r)
  | some (ns, deployment) =>
    let (foreseen, atEnd) := site.stream ns deployment none r.moment
    let endedAt := foreseen.map fun _ => atEnd.now
    let endedFrom := endedAt.map (showsFrom site.endsFirst)
    match exitPoll (max schedule.poll 1) r.moment.now (site.cancelledFrom schedule) endedFrom with
    | none => (none, r)
    | some (poll, outcome) =>
      -- what the task does at the instant of the poll counts if the task comes first there
      let deadline := showsFrom (!site.endsFirst) poll
      if deadline = r.moment.now then (some outcome, { r with moment := leave schedule outcome r.moment })
      else
        let (ended, m) := site.stream ns deployment (some deadline) r.moment
        let events := (ended.map (logTaskEvents deployment)).getD []
        let m : Moment σ κ := { m with now := poll, log := m.log ++ events }
        (some outcome, { r with ended, moment := leave schedule outcome m })

/-- Answers what a run asks. -/
def answer (site : Site σ κ) (schedule : Schedule) :
    (act : Act) → Rehearsal σ κ → Option act.Answer × Rehearsal σ κ
  | .cluster call, r =>
    let (a, moment) := site.answer call r.moment
    (some a, { r with moment })
  | .wait span, r =>
    let finish := r.moment.now + span.ceilMillis
    match schedule.cancelledAt with
    | some i =>
      if (site.cancelledFrom schedule).any (· ≤ finish) then
        let m : Moment σ κ := { r.moment with now := max r.moment.now i }
        (some true, { r with moment := m.notice (some i) })
      else (some false, { r with moment := { r.moment with now := finish } })
    | none => (some false, { r with moment := { r.moment with now := finish } })
  | .startLog ns deployment, r => (some (), { r with task := some (ns, deployment) })
  | .awaitExit, r => awaitExit site schedule r
  | .stopLog, r =>
    match r.ended with
    | some (.crashed crash) => (some (some crash), r)
    | _ => (some none, r)

/-- Runs a program at a site. -/
def run {α : Type} (site : Site σ κ) (schedule : Schedule) (program : Program stage α)
    (m : Moment σ κ) : Option α × Moment σ κ :=
  let (result, r) := program.runUntil note (answer site schedule) ⟨m, none, none⟩
  (result, r.moment)

end Rehearsal
end SessionGate.Intercept
