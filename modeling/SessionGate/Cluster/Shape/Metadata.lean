import SessionGate.Cluster.Shape

/-!
# Metadata of API objects

`objectMeta` is the shape of what each object tells of itself, `typed` that of an object of a type
with further parts.
-/
namespace SessionGate.Cluster
set_option autoImplicit false

def ownerReference : Shape :=
  .fields [("apiVersion", .filledText), ("blockOwnerDeletion", .flag), ("controller", .flag),
    ("kind", .filledText), ("name", .filledText), ("uid", .filledText)]

def managedFields : Shape :=
  .fields [("apiVersion", .text), ("fieldsType", .text), ("fieldsV1", .any), ("manager", .text),
    ("operation", .text), ("subresource", .text), ("time", .instant)]

/-- Metadata of an object. -/
def objectMeta : Shape :=
  .fields [("annotations", .labels), ("creationTimestamp", .instant),
    ("deletionGracePeriodSeconds", .int64), ("deletionTimestamp", .instant),
    ("finalizers", .texts), ("generateName", .text), ("generation", .int64), ("labels", .labels),
    ("managedFields", .list managedFields), ("name", .text), ("namespace", .text),
    ("ownerReferences", .list ownerReference), ("resourceVersion", .text), ("selfLink", .text),
    ("uid", .text)]

/-- Metadata of a list. -/
def listMeta : Shape :=
  .fields [("continue", .text), ("remainingItemCount", .int64), ("resourceVersion", .text),
    ("selfLink", .text)]

/-- An object of a type: if it tells version and kind, they are these. -/
def typed (apiVersion kind : String) (parts : List (String × Shape)) : Shape :=
  .fields (("apiVersion", .word apiVersion) :: ("kind", .word kind) :: ("metadata", objectMeta)
    :: parts)

/-- What is asked of the labels of objects. -/
def labelSelector : Shape :=
  .fields [("matchExpressions", .list (.fields [("key", .text), ("operator", .text),
      ("values", .texts)])), ("matchLabels", .labels)]

/-- An object that goes by its name. -/
def reference : Shape := .fields [("name", .text)]

end SessionGate.Cluster
