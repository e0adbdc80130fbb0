import SessionGate.Cluster.Http
import SessionGate.Cluster.Resource
import SessionGate.Cluster.Shape.Answer
import SessionGate.Json.Patch
import SessionGate.Json.Printer
import SessionGate.Json.Reader

/-!
# A client of the API server

Each operation is a program of requests and answers with what it found, or with the error of the
request that failed.

- `Client.find` takes the answer that there is no such object as `none`.
- `Client.apply` and `Client.patch` change an object, `Client.delete` deletes it in the background.
-/
namespace SessionGate.Cluster
set_option autoImplicit false
open Json (Written)
open Utf8 (Bytes)

/-! ## Answers -/

/-- The error that an answer with the status of a failure tells. -/
def answeredError (status : Nat) (text : String) : RequestError :=
  let told := (Written.ofText? text).bind (failure.read? Json.maxDepth)
  let part (key : String) : Option String := told.bind (·.stringField? key)
  match part "status", part "message", part "reason", told.bind (·.field? "code") with
  | some summary, some message, some reason, some (.int code) =>
    .answered summary message reason code.toNat
  | _, _, _, _ => .answered (statusLine status) (Text.quoted text) "Failed to parse error data" status

namespace Reply

/-- The body of a reply that tells of no failure. -/
def body? : Reply → Except RequestError Bytes
  | .failed text => .error (.transport text)
  | .answered status body =>
    if isFailure status then
      match Utf8.decode? body with
      | none => .error .notText
      | some text => .error (answeredError status text)
    else .ok body

/-- Reads the text of a reply. -/
def read {α : Type} (read : String → Except RequestError α) (reply : Reply) :
    Except RequestError α := do
  match Utf8.decode? (← reply.body?) with
  | none => throw .notText
  | some text => read text

end Reply

namespace Client

/-! ## Requests -/

/-- Address of the objects of a type in a namespace. -/
def collection (resource : Resource) (ns : String) : String :=
  "/" ++ (if resource.group.isEmpty then "api" else "apis") ++ "/" ++ resource.apiVersion
    ++ "/namespaces/" ++ ns ++ "/" ++ resource.plural

/-- Address of an object; an empty name is none. -/
def object? (resource : Resource) (ns name : String) : Option String :=
  if name.isEmpty then none else some (collection resource ns ++ "/" ++ name)

/-- A query behind an address. -/
def withQuery (address : String) (pairs : List (String × String)) : String :=
  if pairs.isEmpty then address ++ "?" else address ++ "?&" ++ Form.encode pairs

/-- Sends a request and reads its answer. -/
def call {α : Type} (request : Option Request) (read : String → Except RequestError α) :
    Program http (Except RequestError α) := do
  match request with
  | none => return .error .unsendable
  | some request => return (← exchange request).read read

/-- Sends a request and reads its answer, unless it takes longer than the limit. -/
def callWithin {α : Type} (limit : Duration) (operation : String) (request : Option Request)
    (read : String → Except RequestError α) : Program http (Except Error α) := do
  match request with
  | none => return .error (.request .unsendable)
  | some request =>
    match ← exchangeWithin limit request with
    | none => return .error (.timeout operation limit)
    | some reply =>
      match reply.read read with
      | .ok a => return .ok a
      | .error e => return .error (.request e)

/-- How the values of a type are read from texts; the number is that of the levels of nesting that
are allowed. -/
abbrev Reading (α : Type) := Nat → Written → Option α

/-- Reads a JSON answer. -/
def reading {α : Type} (read? : Reading α) (text : String) : Except RequestError α :=
  match (Written.ofText? text).bind (read? Json.maxDepth) with
  | some a => .ok a
  | none => .error .undecodable

/-! ## Operations -/

/-- Reads an object. -/
def get (resource : Resource) (read? : Reading Json) (ns name : String) :
    Program http (Except RequestError Json) :=
  call ((object? resource ns name).bind fun address => Request.ofText? "GET" address none none)
    (reading read?)

/-- Reads an object that may not exist. -/
def find (resource : Resource) (read? : Reading Json) (ns name : String) :
    Program http (Except RequestError (Option Json)) := do
  match ← get resource read? ns name with
  | .ok object => return .ok (some object)
  | .error (.answered status message reason code) =>
    if reason = "NotFound" then return .ok none
    else return .error (.answered status message reason code)
  | .error e => return .error e

/-- Selection of the objects of a list. -/
structure Selection where
  labels : Option String
  limit : Option Nat
deriving DecidableEq, Inhabited

def Selection.query (selection : Selection) : List (String × String) :=
  (selection.labels.map fun s => ("labelSelector", s)).toList
    ++ (selection.limit.map fun n => ("limit", toString n)).toList

def listRequest (resource : Resource) (ns : String) (selection : Selection) : Option Request :=
  Request.ofText? "GET" (withQuery (collection resource ns) selection.query) none none

/-- Reads the objects of a namespace. -/
def list (resource : Resource) (read? : Reading Json) (ns : String) (selection : Selection) :
    Program http (Except RequestError (List Json)) :=
  call (listRequest resource ns selection) (reading (items? read?))

/-- Reads the objects of a namespace, unless it takes longer than the limit. -/
def listWithin (limit : Duration) (operation : String) (resource : Resource)
    (read? : Reading Json) (ns : String) (selection : Selection) :
    Program http (Except Error (List Json)) :=
  callWithin limit operation (listRequest resource ns selection) (reading (items? read?))

/-- Whether a name of a manager is short enough. -/
def isManager (manager : String) : Bool := manager.utf8ByteSize ≤ 128

/-- Gives an object the fields of a manifest, in the name of a manager. -/
def apply (resource : Resource) (ns name : String) (body : Json) (manager : String) :
    Program http (Except RequestError Json) :=
  call (((object? resource ns name).filter fun _ => isManager manager).bind fun address =>
      Request.ofText? "PATCH" (withQuery address [("force", "true"), ("fieldManager", manager)])
        (some "application/apply-patch+yaml") (some body))
    (reading anyObject?)

/-- Changes an object by a patch. -/
def patch (resource : Resource) (ns name : String) (p : Json.Patch) :
    Program http (Except RequestError Json) :=
  call ((object? resource ns name).bind fun address =>
      Request.ofText? "PATCH" (withQuery address []) (some "application/json-patch+json")
        (some (Json.Patch.toJson p)))
    (reading anyObject?)

/-- What a deletion answers: the object, or a status. -/
def deleted? (depth : Nat) (written : Written) : Option Json := do
  let value ← written.value? depth
  if value.field? "kind" = some (.string "Status") then status.read? depth written
  else anyObject? depth written

/-- Deletes an object; what belongs to it is deleted in the background. -/
def delete (resource : Resource) (ns name : String) : Program http (Except RequestError Json) :=
  call ((object? resource ns name).bind fun address =>
      Request.ofText? "DELETE" (withQuery address []) (some "application/json")
        (some (.object [("propagationPolicy", .string "Background")])))
    (reading deleted?)

/-- Asks the server for its version, to see that it answers. -/
def version (limit : Duration) : Program http (Except Error Json) :=
  callWithin limit "apiserver version" (Request.ofText? "GET" "/version" none none)
    (reading fun depth => versionInfo.read? depth)

/-- Follows the log of a pod from its start. -/
def followLog (ns pod : String) : Program http (Except RequestError Bytes) := do
  let address := collection (Resource.of "v1" "Pod") ns ++ "/" ++ pod ++ "/log"
  match Request.ofText? "GET" (withQuery address [("follow", "true"), ("timestamps", "true")])
      none none with
  | none => return .error .unsendable
  | some request => return (← exchange request).body?

end Client
end SessionGate.Cluster
