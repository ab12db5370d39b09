/-
  Pageflow.Standard — the functions that every page can use.

  They are grouped in one module, `builtin:std`.  A missing argument counts as `null`.
-/
import Pageflow.Function
import Pageflow.Json.Printer
import Pageflow.Json.Selection
import Pageflow.Text.Case

namespace Pageflow.Standard

/-- The place of the module. -/
def place : String := "builtin:std"

/-- The functions and their parameters. -/
def functions : Module :=
  [("echo", ["value"]), ("concat", ["first", "second"]), ("uppercase", ["text"]),
    ("json_get", ["value", "path"])].map fun (name, parameters) =>
      (name, ⟨place, name, parameters⟩)

/-- A registry with this module alone. -/
def registry : Registry := [(place, functions)]

/-- The first argument. -/
def first (arguments : List Json) : Json := arguments.head?.getD .null

/-- The first two arguments as texts, joined. -/
def concat (arguments : List Json) : String := String.join ((arguments.take 2).map Json.toText)

/-- A text in upper case; `null` stays. -/
def uppercase : Json → Except Fault Json
  | .string s => .ok (.string (Text.upper s))
  | .null => .ok .null
  | other => .error (.failed ("uppercase expects text, got " ++ other.print))

/-- The part of the first argument at the path in the second; without a path the whole of it. -/
def jsonGet (arguments : List Json) : Json :=
  let path := ((arguments[1]?).bind Json.text?).getD ""
  if path.isEmpty then first arguments else ((first arguments).select path).getD .null

/-- What a function of the module gives for these arguments. -/
def call? (name : String) (arguments : List Json) : Option (Except Fault Json) :=
  match name with
  | "echo" => some (.ok (first arguments))
  | "concat" => some (.ok (.string (concat arguments)))
  | "uppercase" => some (uppercase (first arguments))
  | "json_get" => some (.ok (jsonGet arguments))
  | _ => none

end Pageflow.Standard
