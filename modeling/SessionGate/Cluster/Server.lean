import SessionGate.Cluster.Http
import SessionGate.Moment

/-!
# A scripted API server

A server whose replies are rules: the first rule that fits a request and is not used up answers it,
after a delay.

- `Server.answer` answers a call and lets the time of the reply pass.
- `Server.run` runs a program against the server, `Server.runBefore` up to an instant.
-/
namespace SessionGate.Cluster
set_option autoImplicit false

/-- How requests of one kind are answered. -/
structure Rule where
  /-- Nothing fits any method. -/
  method : Option String
  /-- Nothing fits any path. -/
  path : Option String
  /-- How often the rule can still be used, if not for ever. -/
  uses : Option Nat
  /-- Milliseconds until the reply. -/
  delay : Nat
  reply : Reply
deriving DecidableEq, Inhabited

structure Server where
  rules : List Rule
  /-- The lines that were printed. -/
  printed : List String
deriving DecidableEq, Inhabited

/-- State of the server, the instant and the requests so far. -/
abbrev ServerMoment := Moment Server Request

namespace Rule

def fits (rule : Rule) (request : Request) : Bool :=
  rule.method.all (· == request.method) && rule.path.all (· == request.path) && rule.uses != some 0

def used (rule : Rule) : Rule := { rule with uses := rule.uses.map (· - 1) }

/-- The answer where no rule fits: there is no such object. -/
def missing : Rule where
  method := none
  path := none
  uses := none
  delay := 0
  reply := .answered 404 (Utf8.encode
    "\x7b\"status\":\"Failure\",\"message\":\"not here\",\"reason\":\"NotFound\",\"code\":404\x7d")

/-- The rule that answers a request, and the rules after its use. -/
def choose (request : Request) : List Rule → Rule × List Rule
  | [] => (missing, [])
  | rule :: rest =>
    if rule.fits request then (rule, rule.used :: rest)
    else
      let (chosen, rest) := choose request rest
      (chosen, rule :: rest)

end Rule

namespace Server

/-- Takes a request; answers the delay and the reply. -/
def receive (request : Request) (m : ServerMoment) : (Nat × Reply) × ServerMoment :=
  let (rule, rules) := Rule.choose request m.world.rules
  ((rule.delay, rule.reply), { m.record request with world := { m.world with rules } })

def elapse (span : Nat) (m : ServerMoment) : ServerMoment := { m with now := m.now + span }

/-- Answers a call. Without any time a request is not even sent. -/
def answer : (call : HttpCall) → ServerMoment → call.Answer × ServerMoment
  | .exchange request, m =>
    let ((delay, reply), m) := receive request m
    (reply, elapse delay m)
  | .exchangeWithin limit request, m =>
    if limit.nanos = 0 then (none, m)
    else
      let ((delay, reply), m) := receive request m
      if delay ≤ limit.ceilMillis then (some reply, elapse delay m)
      else (none, elapse limit.ceilMillis m)
  | .printLine line, m =>
    ((), { m with world := { m.world with printed := m.world.printed ++ [line] } })

/-- Runs a program against the server. -/
def run {α : Type} (program : Program http α) (m : ServerMoment) : α × ServerMoment :=
  program.run Moment.note answer m

/-- Answers a call whose reply comes before an instant. -/
def answerBefore (deadline : Nat) (call : HttpCall) (m : ServerMoment) :
    Option call.Answer × ServerMoment :=
  let (a, after) := answer call m
  if after.now < deadline then (some a, after)
  else (none, { after with now := m.now })

/-- Runs a program up to its end or to an instant. -/
def runBefore {α : Type} (deadline : Nat) (program : Program http α) (m : ServerMoment) :
    Option α × ServerMoment :=
  program.runUntil Moment.note (answerBefore deadline) m

end Server
end SessionGate.Cluster
