import SessionGate.Number.Duration
import SessionGate.Text.Quoted

/-!
# Failures of cluster operations

A query that finds nothing is no failure. `Error.isNotFound` and `Error.isUnavailable` tell apart
the answer "no such object" and the failures of the cluster itself.
-/
namespace SessionGate.Cluster
set_option autoImplicit false

/-- Why a request to the API server failed. -/
inductive RequestError where
  /-- The server answered with an error. -/
  | answered (status message reason : String) (code : Nat)
  /-- The request did not reach the server, or no answer came back. -/
  | transport (text : String)
  /-- The answer is no object of the expected type. -/
  | undecodable
  /-- The answer is no text. -/
  | notText
  /-- No request can be built from these names. -/
  | unsendable
deriving DecidableEq, Inhabited

namespace RequestError

def message : RequestError → String
  | .answered status message reason code =>
    "ApiError: " ++ message ++ ": " ++ reason ++ " (ErrorResponse \x7b status: "
      ++ Text.quoted status ++ ", message: " ++ Text.quoted message ++ ", reason: "
      ++ Text.quoted reason ++ ", code: " ++ toString code ++ " \x7d)"
  | .transport text => "ServiceError: " ++ text
  | .undecodable => "Error deserializing response"
  | .notText => "UTF-8 Error"
  | .unsendable => "Failed to build request"

end RequestError

/-- A failed operation. -/
inductive Error where
  | request (cause : RequestError)
  | timeout (operation : String) (after : Duration)
  | manifest (message : String) (kind : Option String)
  | template (detail : String)
  | clientConfig (message : String)
  | internal (message context : String)
deriving DecidableEq, Inhabited

namespace Error

/-- Context of an internal error that names none. -/
def noContext : String := "unknown"

def message : Error → String
  | .request cause => "kubernetes error: " ++ cause.message
  | .timeout operation after => "timed out after " ++ after.display ++ ": " ++ operation
  | .manifest message _ => "manifest error: " ++ message
  | .template detail => "template error: " ++ detail
  | .clientConfig message => "client configuration error: " ++ message
  | .internal message context => "internal error [" ++ context ++ "]: " ++ message

/-- The server said that the addressed object does not exist. -/
def isNotFound : Error → Bool
  | .request (.answered _ _ _ code) => code == 404
  | _ => false

/-- The cluster could not be asked, or did not answer in time. -/
def isUnavailable : Error → Bool
  | .request _ => true
  | .timeout .. => true
  | _ => false

end Error
end SessionGate.Cluster
