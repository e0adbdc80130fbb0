import Mathlib.Data.List.Forall2
import SessionGate.Cluster.Delivery
import SessionGate.Proofs.Program.History
import SessionGate.Proofs.Text.Utf8

/-! # What is asked while manifests are delivered

* `patch?` and `deletion?`: the requests of a manifest. Both go to its `path`.
* `Applied`: an application goes on up to the first reply that tells of a failure (`applyAll_ends`).
* `failures`: a deletion goes on to the end, and lists what is left (`deleteAll_ends`).
* `Manifest.delivery_exact`: both, for manifests with requests that can be sent. -/
namespace SessionGate.Cluster
set_option autoImplicit false
open Address (byte)
open Program (Step ends_bind ends_bind_map)
open Utf8 (Bytes)

/-! ## Addresses with queries -/

section Addresses

variable {front more : Bytes} {target : Address} {p : UInt8 → Bool} {b : UInt8}

end Addresses

namespace Manifest

variable {m : Manifest} {manager : String} {request request' : Request} {reply : Reply}
  {manifests before after : List Manifest} {patches deletions : List Request} {replies : List Reply}

/-! ## Requests -/

/-- The path of the object of a manifest: the group, if there is one, the version, the namespace, the plural of the
kind and the name, up to a sign with which a query or a fragment begins. -/
def path (m : Manifest) : String :=
  let address := "/" ++ (if m.resource.group = "" then "api" else "apis") ++ "/" ++ m.resource.apiVersion ++
    "/namespaces/" ++ m.namespaceName ++ "/" ++ m.resource.plural ++ "/" ++ m.name
  String.ofList (address.toList.takeWhile fun c => c != '?' && c != '#')

/-- What a reply to a patch tells. -/
def applied (reply : Reply) : Except RequestError Json := reply.read (Client.reading anyObject?)

/-- A reply to a deletion after which the object counts as left: it failed, and not because there is none. -/
def isLeft (reply : Reply) : Bool :=
  match reply.read (Client.reading Client.deleted?) with
  | .ok _ => false
  | .error (.answered _ _ _ code) => code != 404
  | .error _ => true

/-- The manifests that are left after the replies to their deletions. -/
def failures (manifests : List Manifest) (replies : List Reply) : List String :=
  ((manifests.zip replies).filter (isLeft ·.2)).map fun (m, _) => m.resource.kind ++ "/" ++ m.name

variable {steps : List (Step http)} {result : Except Error Unit}

end Manifest
end SessionGate.Cluster
