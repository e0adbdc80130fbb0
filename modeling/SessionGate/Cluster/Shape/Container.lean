import SessionGate.Cluster.Shape.Metadata

/-!
# Containers

The shapes of a container of a pod and of its status.
-/
namespace SessionGate.Cluster
set_option autoImplicit false

/-! ## Environment -/

def keyReference : Shape := .fields [("key", .text), ("name", .text), ("optional", .flag)]

def optionalReference : Shape := .fields [("name", .text), ("optional", .flag)]

def fieldReference : Shape := .fields [("apiVersion", .text), ("fieldPath", .text)]

def resourceFieldReference : Shape :=
  .fields [("containerName", .text), ("divisor", .text), ("resource", .text)]

def environmentVariable : Shape :=
  .fields [("name", .text), ("value", .text),
    ("valueFrom", .fields [("configMapKeyRef", keyReference), ("fieldRef", fieldReference),
      ("resourceFieldRef", resourceFieldReference), ("secretKeyRef", keyReference)])]

def environmentSource : Shape :=
  .fields [("configMapRef", optionalReference), ("prefix", .text),
    ("secretRef", optionalReference)]

/-! ## Probes and hooks -/

def nameValue : Shape := .fields [("name", .text), ("value", .text)]

def execAction : Shape := .fields [("command", .texts)]

def httpAction : Shape :=
  .fields [("host", .text), ("httpHeaders", .list nameValue), ("path", .text),
    ("port", .integerOrText), ("scheme", .text)]

def socketAction : Shape := .fields [("host", .text), ("port", .integerOrText)]

def hook : Shape :=
  .fields [("exec", execAction), ("httpGet", httpAction),
    ("sleep", .fields [("seconds", .int64)]), ("tcpSocket", socketAction)]

def probe : Shape :=
  .fields [("exec", execAction), ("failureThreshold", .int32),
    ("grpc", .fields [("port", .int32), ("service", .text)]), ("httpGet", httpAction),
    ("initialDelaySeconds", .int32), ("periodSeconds", .int32), ("successThreshold", .int32),
    ("tcpSocket", socketAction), ("terminationGracePeriodSeconds", .int64),
    ("timeoutSeconds", .int32)]

/-! ## Privileges and resources -/

/-- A profile that is built in or lies on the node. -/
def profile : Shape := .fields [("localhostProfile", .text), ("type", .text)]

def linuxLabels : Shape :=
  .fields [("level", .text), ("role", .text), ("type", .text), ("user", .text)]

def windowsOptions : Shape :=
  .fields [("gmsaCredentialSpec", .text), ("gmsaCredentialSpecName", .text),
    ("hostProcess", .flag), ("runAsUserName", .text)]

def containerPrivileges : Shape :=
  .fields [("allowPrivilegeEscalation", .flag), ("appArmorProfile", profile),
    ("capabilities", .fields [("add", .texts), ("drop", .texts)]), ("privileged", .flag),
    ("procMount", .text), ("readOnlyRootFilesystem", .flag), ("runAsGroup", .int64),
    ("runAsNonRoot", .flag), ("runAsUser", .int64), ("seLinuxOptions", linuxLabels),
    ("seccompProfile", profile), ("windowsOptions", windowsOptions)]

def resourceNeeds : Shape :=
  .fields [("claims", .list (.fields [("name", .text), ("request", .text)])),
    ("limits", .quantities), ("requests", .quantities)]

/-! ## Containers -/

def containerPort : Shape :=
  .fields [("containerPort", .int32), ("hostIP", .text), ("hostPort", .int32), ("name", .text),
    ("protocol", .text)]

def volumeMount : Shape :=
  .fields [("mountPath", .text), ("mountPropagation", .text), ("name", .text),
    ("readOnly", .flag), ("recursiveReadOnly", .text), ("subPath", .text), ("subPathExpr", .text)]

def containerFields : List (String × Shape) :=
  [("args", .texts), ("command", .texts), ("env", .list environmentVariable),
    ("envFrom", .list environmentSource), ("image", .text), ("imagePullPolicy", .text),
    ("lifecycle", .fields [("postStart", hook), ("preStop", hook), ("stopSignal", .text)]),
    ("livenessProbe", probe), ("name", .text), ("ports", .list containerPort),
    ("readinessProbe", probe),
    ("resizePolicy", .list (.fields [("resourceName", .text), ("restartPolicy", .text)])),
    ("resources", resourceNeeds), ("restartPolicy", .text),
    ("securityContext", containerPrivileges), ("startupProbe", probe), ("stdin", .flag),
    ("stdinOnce", .flag), ("terminationMessagePath", .text), ("terminationMessagePolicy", .text),
    ("tty", .flag),
    ("volumeDevices", .list (.fields [("devicePath", .text), ("name", .text)])),
    ("volumeMounts", .list volumeMount), ("workingDir", .text)]

def container : Shape := .fields containerFields

/-- A container that is added to a running pod. -/
def ephemeralContainer : Shape := .fields (("targetContainerName", .text) :: containerFields)

/-! ## Status -/

def containerState : Shape :=
  .fields [("running", .fields [("startedAt", .instant)]),
    ("terminated", .fields [("containerID", .text), ("exitCode", .int32),
      ("finishedAt", .instant), ("message", .text), ("reason", .text), ("signal", .int32),
      ("startedAt", .instant)]),
    ("waiting", .fields [("message", .text), ("reason", .text)])]

def containerStatus : Shape :=
  .fields [("allocatedResources", .quantities),
    ("allocatedResourcesStatus", .list (.fields [("name", .text),
      ("resources", .list (.fields [("health", .text), ("resourceID", .text)]))])),
    ("containerID", .text), ("image", .text), ("imageID", .text), ("lastState", containerState),
    ("name", .text), ("ready", .flag), ("resources", resourceNeeds), ("restartCount", .int32),
    ("started", .flag), ("state", containerState), ("stopSignal", .text),
    ("user", .fields [("linux", .fields [("gid", .int64), ("supplementalGroups", .list .int64),
      ("uid", .int64)])]),
    ("volumeMounts", .list (.fields [("mountPath", .text), ("name", .text), ("readOnly", .flag),
      ("recursiveReadOnly", .text)]))]

end SessionGate.Cluster
