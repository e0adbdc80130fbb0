import SessionGate.Cluster.Manifest
import SessionGate.Number.Duration
import SessionGate.Template.Placeholder
import SessionGate.Yaml.Document

/-!
# Plans of interceptions

`Plan.manifests` fills the template of a plan in and reads every document of it as a manifest; the
first failure is the result.
-/
namespace SessionGate.Intercept
set_option autoImplicit false
open Cluster (Error Manifest)

/-- Inputs of one interception. -/
structure Plan where
  /-- Namespace of the session and of the resources. -/
  namespaceName : String
  session : String
  /-- Text of the manifests, with placeholders. -/
  template : String
  /-- Delay before the logs are followed. -/
  wait : Duration
  /-- Deployment whose logs are followed by preference. -/
  echoDeploy : String
deriving DecidableEq, Inhabited

namespace Plan

/-- The text of the manifests. -/
def text (plan : Plan) : Except Error String :=
  (Template.Variables.ofSession plan.namespaceName plan.session).render plan.template

/-- The manifests, in the order of the documents. -/
def manifests (plan : Plan) : Except Error (List Manifest) := do
  (← Yaml.documents (← plan.text)).mapM (Manifest.ofJson · plan.namespaceName)

end Plan
end SessionGate.Intercept
