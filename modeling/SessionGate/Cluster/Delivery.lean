import SessionGate.Cluster.Client
import SessionGate.Cluster.Manifest

/-!
# Delivery of manifests

- `applyAll` applies manifests in order and stops at the first failure.
- `deleteAll` deletes them in reverse order; it attempts each of them, and an object that is gone
  counts as deleted.
-/
namespace SessionGate.Cluster
set_option autoImplicit false

namespace Manifest

def kindAndName (m : Manifest) : String := m.resource.kind ++ "/" ++ m.name

private def logged (m : Manifest) : List (String × Log.Value) :=
  [("kind", .shown m.resource.kind), ("name", .shown m.name)]

/-- Applies manifests in order, up to the first failure. -/
def applyAll (manager : String) : List Manifest → Program http (Except Error Unit)
  | [] => return .ok ()
  | m :: rest => do
    match ← Client.apply m.resource m.namespaceName m.name m.body manager with
    | .error e =>
      return .error (.internal ("failed to apply " ++ m.kindAndName ++ ": " ++ e.message)
        "apply_manifests")
    | .ok _ =>
      Program.report (.info "applied manifest" (m.logged ++ [("namespace", .shown m.namespaceName)]))
      applyAll manager rest

/-- Deletes one manifest; answers whether it is gone. -/
def delete (m : Manifest) : Program http Bool := do
  match ← Client.delete m.resource m.namespaceName m.name with
  | .ok _ =>
    Program.report (.info "deleted manifest" m.logged)
    return true
  | .error cause =>
    let e : Error := .request cause
    if e.isNotFound then
      Program.report (.debug "already deleted" m.logged)
      return true
    else
      Program.report (.warn "failed to delete manifest" (m.logged ++ [("error", .shown e.message)]))
      return false

/-- Deletes manifests in this order and lists those that are not gone. -/
def deleteEach : List Manifest → Program http (List String)
  | [] => return []
  | m :: rest => do
    let gone ← m.delete
    let failures ← deleteEach rest
    return if gone then failures else m.kindAndName :: failures

/-- Deletes manifests in reverse order. -/
def deleteAll (manifests : List Manifest) : Program http (Except Error Unit) := do
  match ← deleteEach manifests.reverse with
  | [] => return .ok ()
  | failures =>
    return .error (.internal ("failed to delete " ++ String.intercalate ", " failures)
      "delete_manifests")

end Manifest
end SessionGate.Cluster
