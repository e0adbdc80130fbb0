import SessionGate.Log.Event

/-!
# Programs that ask

A program of an interface is a tree: it ends with a result, reports a log event and goes on, or asks
a question and goes on with the answer. The same program runs against a table of answers, against a
scripted server or inside an interleaving of several programs.

- `Program.bind` puts programs one after the other.
- `Program.expand` answers each question by a program of another interface.
- `Program.run` answers each question from a state, and `Program.runUntil` may leave one open.
-/
namespace SessionGate
set_option autoImplicit false

/-- The questions a program may ask and the type of the answer to each. -/
structure Interface where
  Query : Type
  Answer : Query → Type

inductive Program (I : Interface) (α : Type) where
  | done (result : α)
  | note (event : Log.Event) (next : Program I α)
  | ask (query : I.Query) (next : I.Answer query → Program I α)

namespace Program

variable {I J : Interface} {α β σ : Type}

/-- Goes on with `next` where the first program ends. -/
def bind : Program I α → (α → Program I β) → Program I β
  | .done result, next => next result
  | .note event rest, next => .note event (bind rest next)
  | .ask query rest, next => .ask query fun answer => bind (rest answer) next

instance : Monad (Program I) where
  pure := .done
  bind := bind

/-- Asks one question. -/
def query (q : I.Query) : Program I (I.Answer q) := .ask q .done

/-- Reports one event. -/
def report (event : Log.Event) : Program I Unit := .note event (.done ())

/-- Answers each question by a program of another interface. -/
def expand (answer : (q : I.Query) → Program J (I.Answer q)) : Program I α → Program J α
  | .done result => .done result
  | .note event rest => .note event (expand answer rest)
  | .ask query rest => (answer query).bind fun a => expand answer (rest a)

/-- Runs a program; the state answers the questions and takes the events. -/
def run (note : Log.Event → σ → σ) (answer : (q : I.Query) → σ → I.Answer q × σ) :
    Program I α → σ → α × σ
  | .done result, s => (result, s)
  | .note event rest, s => run note answer rest (note event s)
  | .ask query rest, s =>
    let (a, s) := answer query s
    run note answer (rest a) s

/-- Runs a program up to its end or to the first question that is not answered. -/
def runUntil (note : Log.Event → σ → σ)
    (answer : (q : I.Query) → σ → Option (I.Answer q) × σ) : Program I α → σ → Option α × σ
  | .done result, s => (some result, s)
  | .note event rest, s => runUntil note answer rest (note event s)
  | .ask query rest, s =>
    match answer query s with
    | (some a, s) => runUntil note answer (rest a) s
    | (none, s) => (none, s)

/-! ## Laws of sequencing -/

theorem bind_done (p : Program I α) : p.bind .done = p := by
  induction p with
  | done result => rfl
  | note event rest ih => simp [bind, ih]
  | ask query rest ih => simp [bind, ih]

theorem bind_assoc {γ : Type} (p : Program I α) (f : α → Program I β) (g : β → Program I γ) :
    (p.bind f).bind g = p.bind fun a => (f a).bind g := by
  induction p with
  | done result => rfl
  | note event rest ih => simp [bind, ih]
  | ask query rest ih => simp [bind, ih]

/-- A run of two programs in sequence is the run of the second one from where the first ended. -/
theorem run_bind (note : Log.Event → σ → σ) (answer : (q : I.Query) → σ → I.Answer q × σ)
    (p : Program I α) (f : α → Program I β) (s : σ) :
    (p.bind f).run note answer s =
      (f (p.run note answer s).1).run note answer (p.run note answer s).2 := by
  induction p generalizing s with
  | done result => rfl
  | note event rest ih => exact ih _
  | ask query rest ih => exact ih _ _

/-- A run in which every question is answered is not cut short. -/
theorem runUntil_answered (note : Log.Event → σ → σ)
    (answer : (q : I.Query) → σ → I.Answer q × σ) (p : Program I α) (s : σ) :
    p.runUntil note (fun q s => (some (answer q s).1, (answer q s).2)) s =
      (some (p.run note answer s).1, (p.run note answer s).2) := by
  induction p generalizing s with
  | done result => rfl
  | note event rest ih => exact ih _
  | ask query rest ih => exact ih _ _

end Program
end SessionGate
