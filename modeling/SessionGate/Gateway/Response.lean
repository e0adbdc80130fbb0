import SessionGate.Json.Basic
import SessionGate.Gateway.Error
import SessionGate.Gateway.Request

/-!
# Answers of the gateway

- `Response.ofError` answers a denial; failures of the lookup are not told apart.
- `Admission.make` checks that the owner can be sent in a header, `Response.ofAdmission` sends it.
- `Response.forMethod` drops the body where the method has none.
-/
namespace SessionGate.Gateway
set_option autoImplicit false
open Utf8 (Bytes)

/-- Body of an answer. -/
inductive Body where
  | empty
  | text (content : String)
  | json (content : Json)
deriving DecidableEq, Inhabited

structure Response where
  status : Nat
  /-- Value of the header `carta-auth-token`. -/
  identity : Option Bytes
  contentType : Option String
  body : Body
deriving DecidableEq, Inhabited

namespace Response

def json (status : Nat) (content : Json) : Response :=
  ⟨status, none, some "application/json", .json content⟩

def text (status : Nat) (content : String) : Response :=
  ⟨status, none, some "text/plain; charset=utf-8", .text content⟩

/-- A request without a session and one without a known owner are forbidden. -/
def ofError : Error → Response
  | .missingSession => text 403 "missing session id"
  | .identityNotFound _ | .invalidIdentity _ | .cluster _ => text 403 "userid not found"
  | .config _ | .internal _ => text 500 "internal error"

/-- No answer to `HEAD` has a body, nor has a successful one to `CONNECT`. -/
def forMethod (response : Response) : Method → Response
  | .head => { response with body := .empty }
  | .connect => if response.status / 100 = 2 then { response with body := .empty } else response
  | .other => response

end Response

/-- A positive decision: a session and its owner. -/
structure Admission where
  session : String
  userid : String
deriving DecidableEq, Inhabited

namespace Admission

/-- The owner must be fit for a header. -/
def make (session userid : String) : Except Error Admission :=
  if (Utf8.encode userid).all isValueByte then .ok ⟨session, userid⟩
  else .error (.invalidIdentity session)

def toJson (admission : Admission) : Json :=
  .object [("ok", .bool true), ("session", .string admission.session),
    ("userid", .string admission.userid)]

end Admission

/-- The owner goes into the header, byte for byte. -/
def Response.ofAdmission (admission : Admission) : Response :=
  { Response.json 200 admission.toJson with identity := some (Utf8.encode admission.userid) }

end SessionGate.Gateway
