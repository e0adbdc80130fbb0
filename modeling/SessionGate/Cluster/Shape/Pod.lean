import SessionGate.Cluster.Shape.Volume

/-!
# Pods

The shape of a pod: containers that run together on a node.
-/
namespace SessionGate.Cluster
set_option autoImplicit false

/-! ## Where a pod may run -/

def nodeRequirements : Shape :=
  .list (.fields [("key", .text), ("operator", .text), ("values", .texts)])

def nodeTerm : Shape :=
  .fields [("matchExpressions", nodeRequirements), ("matchFields", nodeRequirements)]

def podTerm : Shape :=
  .fields [("labelSelector", labelSelector), ("matchLabelKeys", .texts),
    ("mismatchLabelKeys", .texts), ("namespaceSelector", labelSelector), ("namespaces", .texts),
    ("topologyKey", .text)]

def podAffinity : Shape :=
  .fields [("preferredDuringSchedulingIgnoredDuringExecution",
      .list (.fields [("podAffinityTerm", podTerm), ("weight", .int32)])),
    ("requiredDuringSchedulingIgnoredDuringExecution", .list podTerm)]

def affinity : Shape :=
  .fields [("nodeAffinity", .fields [
      ("preferredDuringSchedulingIgnoredDuringExecution",
        .list (.fields [("preference", nodeTerm), ("weight", .int32)])),
      ("requiredDuringSchedulingIgnoredDuringExecution",
        .fields [("nodeSelectorTerms", .list nodeTerm)])]),
    ("podAffinity", podAffinity), ("podAntiAffinity", podAffinity)]

def toleration : Shape :=
  .fields [("effect", .text), ("key", .text), ("operator", .text), ("tolerationSeconds", .int64),
    ("value", .text)]

def spreadConstraint : Shape :=
  .fields [("labelSelector", labelSelector), ("matchLabelKeys", .texts), ("maxSkew", .int32),
    ("minDomains", .int32), ("nodeAffinityPolicy", .text), ("nodeTaintsPolicy", .text),
    ("topologyKey", .text), ("whenUnsatisfiable", .text)]

/-! ## What a pod is -/

def podPrivileges : Shape :=
  .fields [("appArmorProfile", profile), ("fsGroup", .int64), ("fsGroupChangePolicy", .text),
    ("runAsGroup", .int64), ("runAsNonRoot", .flag), ("runAsUser", .int64),
    ("seLinuxChangePolicy", .text), ("seLinuxOptions", linuxLabels), ("seccompProfile", profile),
    ("supplementalGroups", .list .int64), ("supplementalGroupsPolicy", .text),
    ("sysctls", .list nameValue), ("windowsOptions", windowsOptions)]

def podSpec : Shape :=
  .fields [("activeDeadlineSeconds", .int64), ("affinity", affinity),
    ("automountServiceAccountToken", .flag), ("containers", .list container),
    ("dnsConfig", .fields [("nameservers", .texts), ("options", .list nameValue),
      ("searches", .texts)]),
    ("dnsPolicy", .text), ("enableServiceLinks", .flag),
    ("ephemeralContainers", .list ephemeralContainer),
    ("hostAliases", .list (.fields [("hostnames", .texts), ("ip", .text)])), ("hostIPC", .flag),
    ("hostNetwork", .flag), ("hostPID", .flag), ("hostUsers", .flag), ("hostname", .text),
    ("imagePullSecrets", .list reference), ("initContainers", .list container),
    ("nodeName", .text), ("nodeSelector", .labels), ("os", reference), ("overhead", .quantities),
    ("preemptionPolicy", .text), ("priority", .int32), ("priorityClassName", .text),
    ("readinessGates", .list (.fields [("conditionType", .text)])),
    ("resourceClaims", .list (.fields [("name", .text), ("resourceClaimName", .text),
      ("resourceClaimTemplateName", .text)])),
    ("resources", resourceNeeds), ("restartPolicy", .text), ("runtimeClassName", .text),
    ("schedulerName", .text), ("schedulingGates", .list reference),
    ("securityContext", podPrivileges), ("serviceAccount", .text), ("serviceAccountName", .text),
    ("setHostnameAsFQDN", .flag), ("shareProcessNamespace", .flag), ("subdomain", .text),
    ("terminationGracePeriodSeconds", .int64), ("tolerations", .list toleration),
    ("topologySpreadConstraints", .list spreadConstraint), ("volumes", .list volume)]

def podCondition : Shape :=
  .fields [("lastProbeTime", .instant), ("lastTransitionTime", .instant), ("message", .text),
    ("observedGeneration", .int64), ("reason", .text), ("status", .text), ("type", .text)]

def podStatus : Shape :=
  .fields [("conditions", .list podCondition), ("containerStatuses", .list containerStatus),
    ("ephemeralContainerStatuses", .list containerStatus), ("hostIP", .text),
    ("hostIPs", .list (.fields [("ip", .text)])),
    ("initContainerStatuses", .list containerStatus), ("message", .text),
    ("nominatedNodeName", .text), ("observedGeneration", .int64), ("phase", .text),
    ("podIP", .text), ("podIPs", .list (.fields [("ip", .text)])), ("qosClass", .text),
    ("reason", .text), ("resize", .text),
    ("resourceClaimStatuses", .list (.fields [("name", .text), ("resourceClaimName", .text)])),
    ("startTime", .instant)]

def pod : Shape := typed "v1" "Pod" [("spec", podSpec), ("status", podStatus)]

end SessionGate.Cluster
