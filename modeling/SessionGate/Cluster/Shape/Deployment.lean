import SessionGate.Cluster.Shape.Pod

/-!
# Deployments

The shape of a deployment: a number of equal pods.
-/
namespace SessionGate.Cluster
set_option autoImplicit false

def deploymentSpec : Shape :=
  .fields [("minReadySeconds", .int32), ("paused", .flag), ("progressDeadlineSeconds", .int32),
    ("replicas", .int32), ("revisionHistoryLimit", .int32), ("selector", labelSelector),
    ("strategy", .fields [
      ("rollingUpdate", .fields [("maxSurge", .integerOrText), ("maxUnavailable", .integerOrText)]),
      ("type", .text)]),
    ("template", .fields [("metadata", objectMeta), ("spec", podSpec)])]

def deploymentCondition : Shape :=
  .fields [("lastTransitionTime", .instant), ("lastUpdateTime", .instant), ("message", .text),
    ("reason", .text), ("status", .text), ("type", .text)]

def deploymentStatus : Shape :=
  .fields [("availableReplicas", .int32), ("collisionCount", .int32),
    ("conditions", .list deploymentCondition), ("observedGeneration", .int64),
    ("readyReplicas", .int32), ("replicas", .int32), ("terminatingReplicas", .int32),
    ("unavailableReplicas", .int32), ("updatedReplicas", .int32)]

def deployment : Shape :=
  typed "apps/v1" "Deployment" [("spec", deploymentSpec), ("status", deploymentStatus)]

end SessionGate.Cluster
