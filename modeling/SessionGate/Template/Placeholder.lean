import SessionGate.Template.Render
import SessionGate.Cluster.Error

/-!
# Placeholders of manifests

A manifest is a template with placeholders; `$$` in front of a brace stands for a literal `$`.
`Variables.render` fills them in, and a placeholder without a value is an error.
-/
namespace SessionGate.Template
set_option autoImplicit false

/-- Texts by name. -/
structure Variables where
  entries : List (String × String) := []
deriving DecidableEq, Inhabited

namespace Variables

/-- Adds or replaces a variable. -/
def add (vars : Variables) (name text : String) : Variables :=
  ⟨(name, text) :: vars.entries.filter (·.1 != name)⟩

/-- Variables of a session. -/
def ofSession (namespaceName session : String) : Variables :=
  (({} : Variables).add "NAMESPACE" namespaceName).add "SESSION_ID" session

def get? (vars : Variables) (name : String) : Option String := vars.entries.lookup name

/-- The variable added last has the text it was added with. -/
theorem get?_add (vars : Variables) (name text : String) :
    (vars.add name text).get? name = some text := by
  simp [get?, add]

/-- The variables as bindings of a template. -/
def bindings (vars : Variables) : List (String × Value) :=
  vars.entries.map fun (name, text) => (name, .plain text)

end Variables

/-- Stands for an escaped placeholder while a template is rendered. -/
def escapedOpening : List Char := "\x00__CARTA_ESCAPED_DOLLAR_BRACE__\x00".toList

def opening : List Char := ['$', '\x7b']

/-- Renders a manifest template. -/
def Variables.render (vars : Variables) (template : String) : Except Cluster.Error String :=
  match renderText (Text.replaceText ('$' :: opening) escapedOpening template.toList) vars.bindings with
  | .ok text => .ok (String.ofList (Text.replaceText escapedOpening opening text.toList))
  | .error e => .error (.template e.message)

end SessionGate.Template
