import SessionGate.Intercept.RouteGuard

/-!
# A table of routes

Routes in memory, in order. The first route of a name is the one that is read and patched.

- `RouteTable.answer` answers the calls of a store; a patch applies as a whole or not at all.
- `Faults` lists calls that fail.
-/
namespace SessionGate.Intercept
set_option autoImplicit false
open Cluster (Error)

/-- Routes in order. -/
abbrev RouteTable := List Json

namespace RouteTable

def find? (routes : RouteTable) (name : String) : Option Json :=
  List.find? (Route.name? · == some name) routes

/-- Replaces the first route of a name. -/
def replaceFirst (name : String) (route : Json) : RouteTable → RouteTable
  | [] => []
  | r :: rest => if Route.name? r == some name then route :: rest else r :: replaceFirst name route rest

/-- Replaces the first route with the same name, else appends. -/
def put (routes : RouteTable) (route : Json) : RouteTable :=
  match Route.name? route with
  | none => routes ++ [route]
  | some name =>
    match find? routes name with
    | some _ => replaceFirst name route routes
    | none => routes ++ [route]

def delete (routes : RouteTable) (name : String) : RouteTable :=
  List.filter (Route.name? · != some name) routes

def internal (message : String) : Error := .internal message Error.noContext

/-- Applies a patch to the first route of a name. -/
def patch (routes : RouteTable) (name : String) (patch : Json.Patch) : Except Error RouteTable :=
  match find? routes name with
  | none => .error (internal "not found")
  | some route =>
    match patch.applyTo? route with
    | none => .error (internal "patch failed")
    | some route => .ok (replaceFirst name route routes)

/-- Answers a call. -/
def answer : (call : RouteCall) → RouteTable → call.Answer × RouteTable
  | .get _ name, routes => (.ok (find? routes name), routes)
  | .list _, routes => (.ok routes, routes)
  | .patch _ name p, routes =>
    match patch routes name p with
    | .ok routes => (.ok (), routes)
    | .error e => (.error e, routes)

end RouteTable

/-! ## Faults -/

/-- Kind of a call of the store. -/
inductive RouteCall.Kind where
  | get
  | list
  | patch
deriving DecidableEq, Inhabited

def RouteCall.kind : RouteCall → RouteCall.Kind
  | .get .. => .get
  | .list .. => .list
  | .patch .. => .patch

/-- The answer of a call that fails. -/
def RouteCall.failure (e : Error) : (call : RouteCall) → call.Answer
  | .get .. => .error e
  | .list .. => .error e
  | .patch .. => .error e

/-- Calls of one kind fail, all of them or only the one of this number, counted from one. -/
structure Fault where
  kind : RouteCall.Kind
  error : Error
  nth : Option Nat
deriving DecidableEq, Inhabited

/-- The error of the call of this number, if it fails. -/
def Fault.find? (faults : List Fault) (kind : RouteCall.Kind) (number : Nat) : Option Error :=
  (faults.find? fun f => f.kind == kind && f.nth.all (· == number)).map (·.error)

/-- A table of routes whose calls may fail, with the calls it received. -/
structure RouteDesk where
  routes : RouteTable
  faults : List Fault
  calls : List RouteCall
  log : List Log.Event
deriving Inhabited

namespace RouteDesk

/-- Records a call, and fails or answers it. -/
def answer (call : RouteCall) (desk : RouteDesk) : call.Answer × RouteDesk :=
  let desk := { desk with calls := desk.calls ++ [call] }
  let number := (desk.calls.filter (·.kind == call.kind)).length
  match Fault.find? desk.faults call.kind number with
  | some e => (call.failure e, desk)
  | none =>
    let (a, routes) := RouteTable.answer call desk.routes
    (a, { desk with routes })

def note (event : Log.Event) (desk : RouteDesk) : RouteDesk :=
  { desk with log := desk.log ++ [event] }

def run {α : Type} (program : Program routeAccess α) (desk : RouteDesk) : α × RouteDesk :=
  Program.run note answer program desk

end RouteDesk
end SessionGate.Intercept
