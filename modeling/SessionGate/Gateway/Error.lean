import SessionGate.Cluster.Error

/-!
# Reasons to deny a request

Every reason has a text for the log. What the client sees is decided in `Gateway.Response`.
-/
namespace SessionGate.Gateway
set_option autoImplicit false

inductive Error where
  | missingSession
  | identityNotFound (session : String)
  | invalidIdentity (session : String)
  | cluster (cause : Cluster.Error)
  | config (message : String)
  | internal (message : String)
deriving DecidableEq, Inhabited

def Error.message : Error → String
  | .missingSession => "missing session id"
  | .identityNotFound session => "userid not found for session " ++ session
  | .invalidIdentity session => "userid for session " ++ session ++ " is not a valid header value"
  | .cluster cause => "cluster lookup failed: " ++ cause.message
  | .config message => "configuration error: " ++ message
  | .internal message => "internal error: " ++ message

end SessionGate.Gateway
