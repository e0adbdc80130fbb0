import SessionGate.Json.Patch
import SessionGate.Session.Token

/-!
# Routes of sessions

A route is a JSON object; only the chain of middlewares of its first entry is ever changed.

- `Route.snapshot` takes the chain of an entry, an absent chain apart from an empty one.
- `Route.promote` puts a middleware in front of a chain and drops its other copies.
- `Route.serves` says whether the first match expression of a route mentions a session.
-/
namespace SessionGate.Intercept
set_option autoImplicit false

/-- Middleware that sends a request to the gateway. -/
def forwardAuth : String := "carta-forwardauth"

namespace Route

/-- Place of the first entry of a route. -/
def entryPath : Json.Pointer := ["spec", "routes", "0"]

/-- Place of the chain of the first entry. -/
def chainPath : Json.Pointer := ["spec", "routes", "0", "middlewares"]

def firstRule? (route : Json) : Option Json := route.pointer? entryPath

def name? (route : Json) : Option String :=
  (route.pointer? ["metadata", "name"]).bind Json.string?

/-- The chain of an entry before an interception. -/
inductive Snapshot where
  /-- The entry had no chain. -/
  | absent
  /-- The entry had this chain, which may be empty. -/
  | present (chain : List Json)
deriving DecidableEq, Inhabited

namespace Snapshot

def chain : Snapshot → List Json
  | .absent => []
  | .present chain => chain

/-- An empty chain is put back as an absent one. -/
def normal : Snapshot → Snapshot
  | .present [] => .absent
  | snapshot => snapshot

end Snapshot

/-- A chain that is no array counts as absent. -/
def snapshot (entry : Json) : Snapshot :=
  match entry.field? "middlewares" with
  | some (.array chain) => .present chain
  | _ => .absent

/-- Whether an item of a chain names this middleware. -/
def isNamed (middleware : String) (item : Json) : Bool :=
  item.stringField? "name" == some middleware

/-- The chain with the target in front and without its other copies. -/
def promote (chain : List Json) (target : String) : List Json :=
  .object [("name", .string target)] :: chain.filter (!isNamed target ·)

/-- Whether a text occurs in another one. -/
def occursIn (needle : List Char) : List Char → Bool
  | [] => needle.isEmpty
  | c :: rest => needle.isPrefixOf (c :: rest) || occursIn needle rest

/-- Whether the match expression of the first entry mentions the path of a session. -/
def serves (session : String) (route : Json) : Bool :=
  match ((firstRule? route).bind (·.field? "match")).bind Json.string? with
  | some expression => occursIn (Session.publicPath session).toList expression.toList
  | none => false

end Route
end SessionGate.Intercept
