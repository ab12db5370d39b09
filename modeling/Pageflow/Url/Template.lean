/-
  Pageflow.Url.Template — path templates and joining a path to a server.

  A placeholder `{name}` is replaced by the percent-encoded text of the variable, so that a value
  cannot change the shape of the path.  Variables are filled in one after the other.
-/
import Pageflow.Json.Printer
import Pageflow.Text.Blank
import Pageflow.Text.Percent

namespace Pageflow.Url

/-- How a placeholder is written. -/
def placeholder (name : String) : List Char := '{' :: (name.toList ++ ['}'])

/-- The text of a value as it stands in a path. -/
def pathText (value : Json) : String := Percent.encode Percent.isUnreserved value.toText

/-- Fills one field into a path. -/
def fill (path : List Char) (name : String) (value : Json) : List Char :=
  Text.replace (placeholder name) (pathText value).toList path

/-- The template with every field filled in; other placeholders stay. -/
def expand (template : String) (fields : Dict Json) : String :=
  String.ofList (fields.foldl (fun path (name, value) => fill path name value) template.toList)

/-- A server and a path with one slash between them, none lost and none doubled. -/
def joinPath (server path : String) : String :=
  let closed := server.toList.getLast? = some '/'
  let opened := path.toList.head? = some '/'
  if closed ∧ opened then
    String.ofList (Text.dropEndWhile (· = '/') server.toList) ++ path
  else if ¬closed ∧ ¬opened ∧ ¬path.isEmpty then server ++ "/" ++ path
  else server ++ path

end Pageflow.Url
