import SessionGate.Program
import SessionGate.Cluster.Error
import SessionGate.Intercept.Route

/-!
# Putting a middleware first and back

Each operation is a program that asks a store of routes.

- `find` looks a session's route up by its name, then by its match expression.
- `install` puts the gateway's middleware in front of the chain of the route.
- `restore` puts a chain back as a snapshot says.
-/
namespace SessionGate.Intercept
set_option autoImplicit false
open Cluster (Error)

/-- A call of the store. -/
inductive RouteCall where
  | get (ns name : String)
  | list (ns : String)
  | patch (ns name : String) (patch : Json.Patch)
deriving DecidableEq, Inhabited

/-- What the store answers: a missing route is no error. -/
abbrev RouteCall.Answer : RouteCall → Type
  | .get .. => Except Error (Option Json)
  | .list .. => Except Error (List Json)
  | .patch .. => Except Error Unit

/-- The store of routes. -/
def routeAccess : Interface := ⟨RouteCall, RouteCall.Answer⟩

def getRoute (ns name : String) : Program routeAccess (Except Error (Option Json)) :=
  .ask (.get ns name) .done

def listRoutes (ns : String) : Program routeAccess (Except Error (List Json)) := .ask (.list ns) .done

def patchRoute (ns name : String) (patch : Json.Patch) : Program routeAccess (Except Error Unit) :=
  .ask (.patch ns name patch) .done

/-- Result of `install`. -/
structure Guarded where
  /-- Whether the route was patched. -/
  changed : Bool
  /-- Name of the route of the session, if there is one. -/
  route : Option String
  /-- The chain to be put back, if there is something to put back. -/
  snapshot : Option Route.Snapshot
deriving DecidableEq, Inhabited

namespace RouteGuard

/-- The route that bears the session's name, else the first one that mentions its path. -/
def find (ns session : String) : Program routeAccess (Except Error (Option Json)) := do
  let expected := Session.ingressName session
  match ← getRoute ns expected with
  | .error e => return .error e
  | .ok (some route) => return .ok (some route)
  | .ok none =>
    match ← listRoutes ns with
    | .error e => return .error e
    | .ok routes =>
      let found := routes.find? (Route.serves session)
      Program.report (.debug "route scan" [("namespace", .text ns), ("expected", .shown expected),
        ("found", .flag found.isSome)])
      return .ok found

/-- Patch that gives the first entry a new chain. -/
def chainPatch (before : Route.Snapshot) (chain : List Json) : Json.Patch :=
  match before with
  | .absent => [.add Route.chainPath (.array chain)]
  | .present _ => [.replace Route.chainPath (.array chain)]

/-- Puts the gateway's middleware first, unless it is. -/
def install (ns session : String) : Program routeAccess (Except Error Guarded) := do
  match ← find ns session with
  | .error e => return .error e
  | .ok none => return .ok ⟨false, none, none⟩
  | .ok (some route) =>
    match Route.name? route with
    | none => return .error (.manifest "missing metadata.name" (some "IngressRoute"))
    | some name =>
      match Route.firstRule? route with
      | none =>
        Program.report (.warn "ingressroute has no routes" [("route", .shown name)])
        return .ok ⟨false, some name, none⟩
      | some entry =>
        let snapshot := Route.snapshot entry
        if snapshot.chain.head?.any (Route.isNamed forwardAuth) then
          return .ok ⟨false, some name, some snapshot⟩
        else
          let chain := Route.promote snapshot.chain forwardAuth
          match ← patchRoute ns name (chainPatch snapshot chain) with
          | .error e => return .error e
          | .ok () => return .ok ⟨true, some name, some snapshot⟩

/-- Patch that leads from the present chain to a snapshot; an empty chain is taken away. -/
def restorePatch? (snapshot current : Route.Snapshot) : Option Json.Patch :=
  match snapshot.normal, current with
  | .absent, .absent => none
  | .absent, .present _ => some [.remove Route.chainPath]
  | .present chain, .present _ => some [.replace Route.chainPath (.array chain)]
  | .present chain, .absent => some [.add Route.chainPath (.array chain)]

/-- Puts the chain of a route back. A route that is gone, or has lost its entries, is left alone. -/
def restore (ns name : String) (snapshot : Route.Snapshot) :
    Program routeAccess (Except Error Unit) := do
  match ← getRoute ns name with
  | .error e => return .error e
  | .ok none =>
    Program.report (.warn "ingressroute gone, nothing to restore" [("route", .shown name)])
    return .ok ()
  | .ok (some route) =>
    match Route.firstRule? route with
    | none =>
      Program.report (.warn "ingressroute has no routes, nothing to restore"
        [("route", .shown name)])
      return .ok ()
    | some entry =>
      match restorePatch? snapshot (Route.snapshot entry) with
      | none => return .ok ()
      | some patch =>
        match ← patchRoute ns name patch with
        | .error e => return .error e
        | .ok () =>
          Program.report (.info "middlewares restored" [("route", .shown name)])
          return .ok ()

end RouteGuard
end SessionGate.Intercept
