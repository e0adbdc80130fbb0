import SessionGate.Session.Token

/-!
# Labels of session objects

The Service and the Pod of a session carry its id and the id of its owner as labels.

- `LabelNames.selector` selects the objects of one session.
- `ObjectKind.order` says which kind of object is asked first.
-/
namespace SessionGate.Session
set_option autoImplicit false

/-- Kind of object that carries session labels. -/
inductive ObjectKind where
  | service
  | pod
deriving DecidableEq, Inhabited

namespace ObjectKind

/-- The Service first; the Pod stands in before the Service exists and after it is gone. -/
def order : List ObjectKind := [.service, .pod]

def name : ObjectKind → String
  | .service => "service"
  | .pod => "pod"

end ObjectKind

/-- Names of the labels of a session and of its owner. -/
structure LabelNames where
  session : String
  user : String
deriving DecidableEq, Inhabited

namespace LabelNames

def default : LabelNames := ⟨"canfar-net-sessionID", "canfar-net-userid"⟩

/-- Equality selector of the objects of one session. -/
def selector (keys : LabelNames) (token : Token) : String := keys.session ++ "=" ++ token.text

end LabelNames

/-- Labels of an object. -/
abbrev Labels := List (String × String)

end SessionGate.Session
