import SessionGate.Program
import SessionGate.Session.Labels
import SessionGate.Gateway.Error

/-!
# Owners of sessions

- `lookup` asks the Service of a session for its owner, then the Pod.
- `resolve` asks the cache first and puts what the lookup finds into it; a failure or a missing
  owner is not remembered.
-/
namespace SessionGate.Gateway
set_option autoImplicit false
open Session (Token ObjectKind Labels LabelNames)

/-- A question to the surroundings of the gateway. -/
inductive Question where
  | cached (token : Token)
  | remember (token : Token) (userid : String)
  /-- Labels of the first object of a kind that a selector matches. -/
  | labels (kind : ObjectKind) (selector : String)
  /-- Whether the API server answers. -/
  | probe
deriving DecidableEq

abbrev Question.Answer : Question → Type
  | .cached _ => Option String
  | .remember .. => Unit
  | .labels .. => Except Cluster.Error (Option Labels)
  | .probe => Except Cluster.Error Unit

/-- What the gateway asks for. -/
def surroundings : Interface := ⟨Question, Question.Answer⟩

def askCached (token : Token) : Program surroundings (Option String) := .ask (.cached token) .done

def remember (token : Token) (userid : String) : Program surroundings Unit :=
  .ask (.remember token userid) .done

def askLabels (kind : ObjectKind) (selector : String) :
    Program surroundings (Except Cluster.Error (Option Labels)) :=
  .ask (.labels kind selector) .done

/-- The owner that labels name; an empty label names none. -/
def owner? (keys : LabelNames) (labels : Labels) : Option String :=
  match labels.lookup keys.user with
  | some userid => if userid.isEmpty then none else some userid
  | none => none

/-- Asks the kinds in order; the first object with an owner decides, the first failure ends. -/
def lookupIn (keys : LabelNames) (token : Token) :
    List ObjectKind → Program surroundings (Except Cluster.Error (Option String))
  | [] => return .ok none
  | kind :: kinds => do
    match ← askLabels kind (keys.selector token) with
    | .error e => return .error e
    | .ok none => lookupIn keys token kinds
    | .ok (some labels) =>
      match owner? keys labels with
      | some userid =>
        Program.report (.info "map_session_user" [("source", .text kind.name),
          ("session", .shown token.text), ("userid", .shown userid)])
        return .ok (some userid)
      | none =>
        Program.report (.warn "no_userid" [("source", .text kind.name),
          ("session", .shown token.text), ("label", .shown keys.user)])
        lookupIn keys token kinds

/-- The owner of a session as the cluster has it. -/
def lookup (keys : LabelNames) (token : Token) :
    Program surroundings (Except Cluster.Error (Option String)) :=
  lookupIn keys token ObjectKind.order

/-- The owner of a session, from the cache if it is there. -/
def resolve (keys : LabelNames) (token : Token) :
    Program surroundings (Except Cluster.Error (Option String)) := do
  match ← askCached token with
  | some userid =>
    Program.report (.debug "cache_hit" [("session", .shown token.text), ("userid", .shown userid)])
    return .ok (some userid)
  | none =>
    match ← lookup keys token with
    | .error e => return .error e
    | .ok none => return .ok none
    | .ok (some userid) =>
      remember token userid
      return .ok (some userid)

end SessionGate.Gateway
