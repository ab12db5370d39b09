/-
  Pageflow.Function — local functions and the modules that group them.

  A function is known by its module and its name and says how its parameters are called.
  Arguments are passed by position; what is computed is up to whoever runs the process.  Modules
  are registered under a place, such as `builtin:std`, by which documents refer to them.

  Main definitions: `Function`, `Module.merge` and `Registry`.
-/
import Pageflow.Journal
import Pageflow.Json.Value
import Pageflow.Text.Utf8

namespace Pageflow

/-! ## §1. Functions -/

/-- A function: the module that defines it, its name, and the names of its parameters. -/
structure Function where
  home : String
  name : String
  parameters : List String
deriving DecidableEq, Inhabited

/-- An output in the manner of an HTTP response. -/
structure FunctionResponse where
  status : Nat
  statusText : String
  contentType : Option String
  body : Bytes
deriving DecidableEq, Inhabited

/-- What a function gives back. -/
inductive Output where
  | value (v : Json)
  | response (r : FunctionResponse)
deriving DecidableEq, Inhabited

/-- Why a function gives nothing back. -/
inductive Fault where
  | failed (message : String)
  /-- Asks a run to go on as if the function had not been called. -/
  | cancelled
deriving DecidableEq, Inhabited

/-- The wording of a fault. -/
def Fault.message : Fault → String
  | .failed message => message
  | .cancelled => "cancelled"

/-- The arguments for named parameters: `null` for a missing one, then the body if there is
one. -/
def Function.arguments (f : Function) (parameters : Dict Json) (body : Option Json) :
    List Json :=
  f.parameters.map (fun name => (parameters.get? name).getD .null) ++ body.toList

/-- A function as a capability of a bridge, and the function that changes its results. -/
structure ModuleCapability where
  name : String
  function : Function
  postProcess : Option Function
deriving DecidableEq, Inhabited

/-! ## §2. Modules -/

/-- Functions by name. -/
abbrev Module := Dict Function

/-- Adds the functions of `more`; a function that is replaced is mentioned in the log. -/
def Module.merge (base more : Module) : Noted Module where
  value := base.insertAll more
  notes := (more.filter fun (name, _) => base.contains name).map fun (name, _) =>
    .warn "module function overridden by page module" [("function", name)]

/-- Modules by place. -/
abbrev Registry := Dict Module

end Pageflow
