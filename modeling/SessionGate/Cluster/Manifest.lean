import SessionGate.Json.Pointer
import SessionGate.Cluster.Error
import SessionGate.Cluster.Resource

/-!
# Manifests

`Manifest.ofJson` reads version, kind, name and namespace of an object to be applied. A body
without a namespace gets the default one.
-/
namespace SessionGate.Cluster
set_option autoImplicit false

/-- An object to be applied. -/
structure Manifest where
  /-- The body, with its namespace filled in. -/
  body : Json
  name : String
  namespaceName : String
  resource : Resource
deriving DecidableEq, Inhabited

namespace Manifest

/-- Sets the namespace in the metadata of a body that has metadata. -/
def withNamespace (body : Json) (ns : String) : Json :=
  match body.field? "metadata" with
  | some (.object metadata) =>
    match body with
    | .object members =>
      .object (Json.Members.set members "metadata"
        (.object (Json.Members.set metadata "namespace" (.string ns))))
    | _ => body
  | _ => body

/-- Reads the first of version, kind and name that is missing as the error. -/
def ofJson (body : Json) (default : String) : Except Error Manifest :=
  match body.stringField? "apiVersion" with
  | none => .error (.manifest "manifest missing apiVersion" none)
  | some apiVersion =>
    match body.stringField? "kind" with
    | none => .error (.manifest "manifest missing kind" none)
    | some kind =>
      match (body.pointer? ["metadata", "name"]).bind Json.string? with
      | none => .error (.manifest "manifest missing metadata.name" (some kind))
      | some name =>
        match (body.pointer? ["metadata", "namespace"]).bind Json.string? with
        | some ns => .ok ⟨body, name, ns, Resource.of apiVersion kind⟩
        | none => .ok ⟨withNamespace body default, name, default, Resource.of apiVersion kind⟩

end Manifest
end SessionGate.Cluster
