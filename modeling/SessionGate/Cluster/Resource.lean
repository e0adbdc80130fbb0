import SessionGate.Text.Case

/-!
# API resources

- `splitApiVersion` splits a written version at its first slash into group and version.
- `pluralize` forms the plural of a kind, the name of its collection.
- `Resource.of` names the resource of a version and a kind.
-/
namespace SessionGate.Cluster
set_option autoImplicit false

/-- Group and version of a written version; the core group has no name. -/
def splitApiVersion (apiVersion : String) : String × String :=
  let text := apiVersion.toList
  match text.dropWhile (· != '/') with
  | [] => ("", apiVersion)
  | _ :: version => (String.ofList (text.takeWhile (· != '/')), String.ofList version)

/-- Kinds whose plural is given. -/
def irregularPlurals : List (String × String) :=
  [("ingress", "ingresses"), ("endpoints", "endpoints"), ("ingressroute", "ingressroutes"),
    ("middleware", "middlewares")]

/-- Whether a text ends in these characters. -/
def endsWith (ending text : List Char) : Bool := ending.reverse.isPrefixOf text.reverse

/-- Plural of a lower-case noun. A final `y` turns into `ies` unless `a` or `e` stands before it. -/
def regularPlural (noun : List Char) : List Char :=
  if endsWith ['s'] noun || endsWith ['c', 'h'] noun || endsWith ['s', 'h'] noun then
    noun ++ ['e', 's']
  else if endsWith ['y'] noun && !endsWith ['a', 'y'] noun && !endsWith ['e', 'y'] noun then
    noun.dropLast ++ ['i', 'e', 's']
  else noun ++ ['s']

def pluralize (kind : String) : String :=
  let lower := Text.lower kind
  match irregularPlurals.lookup lower with
  | some plural => plural
  | none => String.ofList (regularPlural lower.toList)

/-- A resource type of the API. -/
structure Resource where
  group : String
  version : String
  apiVersion : String
  kind : String
  plural : String
deriving DecidableEq, Inhabited

def Resource.of (apiVersion kind : String) : Resource :=
  let (group, version) := splitApiVersion apiVersion
  ⟨group, version, apiVersion, kind, pluralize kind⟩

end SessionGate.Cluster
