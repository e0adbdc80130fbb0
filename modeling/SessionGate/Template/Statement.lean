import SessionGate.Template.Expr

/-!
# Statements of templates

- `Target` is what a value is bound to.
- `Statement` is text, output or a block with the statements in it.
-/
namespace SessionGate.Template
set_option autoImplicit false

/-- What is bound: a name, a part of a namespace, or several by position. -/
inductive Target where
  | name (text : String)
  | part (subject : Expr) (name : String)
  | several (parts : List Target)
deriving Inhabited

/-- `captured` names what the body of a function takes from around its declaration, and
`asksCaller` tells whether it calls its caller's block. -/
inductive Statement where
  | text (content : String)
  | output (expr : Expr)
  | conditional (condition : Expr) (yes no : List Statement)
  | loop (target : Target) (items : Expr) (condition : Option Expr) (recursive : Bool)
      (body otherwise : List Statement)
  | set (target : Target) (value : Expr)
  | capture (target : Target) (filters : Filters) (body : List Statement)
  | scope (bindings : List (Target × Expr)) (body : List Statement)
  | filtered (filters : Filters) (body : List Statement)
  | escaping (mode : Expr) (body : List Statement)
  | function (name : String) (parameters : Parameters) (captured : List String)
      (asksCaller : Bool) (body : List Statement)
  /-- A call whose function may call the block in turn. -/
  | provide (function : Expr) (arguments : Arguments) (parameters : Parameters)
      (captured : List String) (asksCaller : Bool) (body : List Statement)
  | evaluate (call : Expr)
  | block (name : String) (required : Bool) (body : List Statement)
  /-- Renders another template, of which there is none. -/
  | includeTemplate (source : Expr) (optional : Bool)
  | importTemplate (source : Expr) (target : String)
  | importNames (source : Expr) (names : List (String × String))
  | extendTemplate (source : Expr)
deriving Inhabited

end SessionGate.Template
