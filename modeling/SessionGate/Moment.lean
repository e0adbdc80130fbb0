import SessionGate.Log.Event

/-!
# Instants of virtual time

A moment is the state of something at an instant, with the calls it has received and the events that
have been reported. Time passes in whole milliseconds and only where something waits.

`Moment.trace` lists the calls in the order of their instants, a cancellation among them. Of calls at
the instant of the cancellation, those that were there when it was noticed come before it.
-/
namespace SessionGate
set_option autoImplicit false

/-- State at an instant, with the calls it received and the events reported so far. -/
structure Moment (σ κ : Type) where
  now : Nat
  world : σ
  calls : List (Nat × κ)
  log : List Log.Event
  /-- How many calls there were when a cancellation was noticed at its own instant. -/
  noticed : Option Nat := none

namespace Moment

variable {σ κ : Type}

/-- The start of time. -/
def start (world : σ) : Moment σ κ := { now := 0, world, calls := [], log := [] }

def note (event : Log.Event) (m : Moment σ κ) : Moment σ κ := { m with log := m.log ++ [event] }

/-- Records a call at the present instant. -/
def record (call : κ) (m : Moment σ κ) : Moment σ κ :=
  { m with calls := m.calls ++ [(m.now, call)] }

/-- Notices a cancellation. -/
def notice (cancelledAt : Option Nat) (m : Moment σ κ) : Moment σ κ :=
  if cancelledAt = some m.now then { m with noticed := some m.calls.length } else m

@[simp] theorem now_notice (cancelledAt : Option Nat) (m : Moment σ κ) : (m.notice cancelledAt).now = m.now := by
  unfold notice
  split <;> rfl

@[simp] theorem world_notice (cancelledAt : Option Nat) (m : Moment σ κ) : (m.notice cancelledAt).world = m.world := by
  unfold notice
  split <;> rfl

@[simp] theorem calls_notice (cancelledAt : Option Nat) (m : Moment σ κ) : (m.notice cancelledAt).calls = m.calls := by
  unfold notice
  split <;> rfl

/-- The calls in order, the cancellation as `none` where it came before the end. -/
def trace (m : Moment σ κ) (cancelledAt : Option Nat) : List (Option κ) :=
  let parts (before after : List (Nat × κ)) := before.map (some ·.2) ++ none :: after.map (some ·.2)
  match cancelledAt, m.noticed with
  | none, _ | some 0, _ => m.calls.map (some ·.2)
  | some _, some n => parts (m.calls.take n) (m.calls.drop n)
  | some i, none =>
    if i < m.now then parts (m.calls.filter (·.1 ≤ i)) (m.calls.filter (i < ·.1))
    else m.calls.map (some ·.2)

end Moment

end SessionGate
