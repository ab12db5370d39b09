/-
  Pageflow.Http.Content — reading the body of a response.
-/
import Pageflow.Json.Parser
import Pageflow.Json.Printer
import Pageflow.Json.Selection
import Pageflow.Text.Preview

namespace Pageflow.Http

/-! ## §1. JSON that has to be there -/

/-- A body that is no JSON: the status it came with, the refusal and a preview of the text. -/
structure ContentError where
  status : Option Nat
  cause : Json.SyntaxError
  preview : String
deriving DecidableEq

/-- The number of bytes a preview of a body may reach. -/
def previewLimit : Nat := 200

/-- The wording of the status. -/
def statusNote : Option Nat → String
  | some code => s!"status {code}"
  | none => "unknown status"

/-- The wording of the error. -/
def ContentError.message (e : ContentError) : String :=
  "failed to parse JSON response (" ++ statusNote e.status ++ "): " ++ e.cause.message
    ++ ". body preview: " ++ e.preview

/-- The JSON value of a body. -/
def parseContent (text : String) (status : Option Nat) : Except ContentError Json :=
  match Json.parse? text with
  | .ok value => .ok value
  | .error cause => .error ⟨status, cause, Text.preview text previewLimit⟩

/-! ## §2. The message of an error body -/

/-- The text at `path` in a JSON body; `null` is no message. -/
def errorMessage? (body path : String) : Option String :=
  match Json.parse? body with
  | .error _ => none
  | .ok value =>
    match value.select path with
    | none | some .null => none
    | some found => some found.toText

end Pageflow.Http
