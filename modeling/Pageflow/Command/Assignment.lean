/-
  Pageflow.Command.Assignment — assignments on the command line.

  An assignment is a key and a value with an equals sign between them.  The key of an input is
  the name of a service and the name of the input with a dot between them.  A value is JSON if it
  reads as JSON, and otherwise the text itself.

  Main definitions: `pair`, `Assignment.parse` and `value`.
-/
import Pageflow.Json.Parser
import Pageflow.Text.Blank

namespace Pageflow.Command

/-! ## §1. Refusals -/

/-- Why a text is no assignment. -/
inductive AssignmentError where
  | noValue (raw : String)
  | noKey (raw : String)
  | noInput (raw : String)
deriving DecidableEq, Inhabited

/-- The wording of a refusal. -/
def AssignmentError.message : AssignmentError → String
  | .noValue raw => "expected KEY=VALUE, got '" ++ raw ++ "'"
  | .noKey raw => "empty key in '" ++ raw ++ "'"
  | .noInput raw => "expected SERVICE.NAME=VALUE, got '" ++ raw ++ "'"

/-! ## §2. Assignments -/

/-- A text cut in two by the first `sep`. -/
def cut? (sep : Char) (s : String) : Option (String × String) :=
  (Text.cutAt? sep s.toList).map fun (before, after) =>
    (String.ofList before, String.ofList after)

/-- The key and the value of an assignment; the value may be empty and may hold equals signs. -/
def pair (raw : String) : Except AssignmentError (String × String) :=
  match cut? '=' raw with
  | none => .error (.noValue raw)
  | some (key, text) => if key.isEmpty then .error (.noKey raw) else .ok (key, text)

/-- A value for an input of a service. -/
structure Assignment where
  service : String
  input : String
  text : String
deriving DecidableEq, Inhabited

/-- The assignment to an input; the name of the service ends at the first dot. -/
def Assignment.parse (raw : String) : Except AssignmentError Assignment := do
  let (key, text) ← pair raw
  match cut? '.' key with
  | none => .error (.noInput raw)
  | some (service, input) =>
    if service.isEmpty || input.isEmpty then .error (.noInput raw)
    else .ok ⟨service, input, text⟩

/-- The value that a text stands for. -/
def value (text : String) : Json :=
  match Json.parse? text with
  | .ok v => v
  | .error _ => .string text

end Pageflow.Command
