import SessionGate.Gateway.Resolver
import SessionGate.Gateway.Response

/-!
# Decisions

- `decide` admits a request whose session has an owner, and says in the log why another is denied.
- `route` answers the two health paths; any other request is a decision.
-/
namespace SessionGate.Gateway
set_option autoImplicit false
open Session (Token LabelNames)

/-- Decides on the owner that was resolved. -/
def conclude (token : Token) :
    Except Cluster.Error (Option String) → Program surroundings (Except Error Admission)
  | .ok (some userid) => do
    match Admission.make token.text userid with
    | .error e =>
      Program.report (.warn "userid_not_found" [("session", .shown token.text),
        ("error", .shown e.message)])
      return .error e
    | .ok admission =>
      Program.report (.info "forward_auth_ok" [("session", .shown token.text),
        ("userid", .shown admission.userid)])
      return .ok admission
  | .ok none => do
    Program.report (.warn "userid_not_found" [("session", .shown token.text)])
    return .error (.identityNotFound token.text)
  | .error e => do
    let fields := [("session", .shown token.text), ("error", .shown e.message)]
    if e.isUnavailable then Program.report (.error "cluster_query_failed" fields)
    else Program.report (.warn "lookup_failed" fields)
    return .error (.cluster e)

/-- Decides whether a request with these headers may pass. -/
def decide (keys : LabelNames) (headers : Headers) :
    Program surroundings (Except Error Admission) := do
  match headers.session? with
  | none =>
    Program.report (.warn "missing_session"
      [("referer", .text ((headers.text? Headers.referer).getD "")),
        ("x_forwarded_uri", .text ((headers.text? Headers.forwardedUri).getD ""))])
    return .error .missingSession
  | some token => conclude token (← resolve keys token)

def forwardAuth (keys : LabelNames) (headers : Headers) : Program surroundings Response := do
  match ← decide keys headers with
  | .ok admission => return .ofAdmission admission
  | .error e => return .ofError e

/-! ## Health -/

def alivePath : String := "/livez"

def readyPath : String := "/readyz"

def alive : Response := .json 200 (.object [("status", .string "ok")])

/-- Ready while the API server answers. -/
def ready : Program surroundings Response := do
  match ← (.ask .probe .done : Program surroundings (Except Cluster.Error Unit)) with
  | .ok () => return .json 200 (.object [("status", .string "ready")])
  | .error e =>
    Program.report (.warn "readiness probe failed" [("error", .shown e.message)])
    return .json 503 (.object [("error", .string e.message), ("status", .string "not_ready")])

/-! ## Requests -/

/-- Answers by the exact path. -/
def routePath (keys : LabelNames) (request : Request) : Program surroundings Response :=
  if request.target.path = Utf8.encode alivePath then return alive
  else if request.target.path = Utf8.encode readyPath then ready
  else forwardAuth keys request.headers

/-- Answers a request. -/
def route (keys : LabelNames) (request : Request) : Program surroundings Response := do
  return (← routePath keys request).forMethod request.method

end SessionGate.Gateway
