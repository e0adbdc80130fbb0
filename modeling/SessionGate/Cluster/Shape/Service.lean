import SessionGate.Cluster.Shape.Metadata

/-!
# Services

The shape of a service: a stable address in front of pods.
-/
namespace SessionGate.Cluster
set_option autoImplicit false

/-- A condition that tells when it was last met or no longer met. -/
def timedCondition : Shape :=
  .fields [("lastTransitionTime", .neededInstant), ("message", .text),
    ("observedGeneration", .int64), ("reason", .text), ("status", .text), ("type", .text)]

def servicePort : Shape :=
  .fields [("appProtocol", .text), ("name", .text), ("nodePort", .int32), ("port", .int32),
    ("protocol", .text), ("targetPort", .integerOrText)]

def serviceSpec : Shape :=
  .fields [("allocateLoadBalancerNodePorts", .flag), ("clusterIP", .text),
    ("clusterIPs", .texts), ("externalIPs", .texts), ("externalName", .text),
    ("externalTrafficPolicy", .text), ("healthCheckNodePort", .int32),
    ("internalTrafficPolicy", .text), ("ipFamilies", .texts), ("ipFamilyPolicy", .text),
    ("loadBalancerClass", .text), ("loadBalancerIP", .text), ("loadBalancerSourceRanges", .texts),
    ("ports", .list servicePort), ("publishNotReadyAddresses", .flag), ("selector", .labels),
    ("sessionAffinity", .text),
    ("sessionAffinityConfig", .fields [("clientIP", .fields [("timeoutSeconds", .int32)])]),
    ("trafficDistribution", .text), ("type", .text)]

def ingressPoint : Shape :=
  .fields [("hostname", .text), ("ip", .text), ("ipMode", .text),
    ("ports", .list (.fields [("error", .text), ("port", .int32), ("protocol", .text)]))]

def serviceStatus : Shape :=
  .fields [("conditions", .list timedCondition),
    ("loadBalancer", .fields [("ingress", .list ingressPoint)])]

def service : Shape := typed "v1" "Service" [("spec", serviceSpec), ("status", serviceStatus)]

end SessionGate.Cluster
