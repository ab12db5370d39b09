/-
  Pageflow.Load.Document — fetching documents.

  A document is a JSON value.  It is written as JSON or as YAML: a name that ends like YAML
  decides for YAML, and any other document is tried as JSON first.
-/
import Pageflow.Json.Parser
import Pageflow.Load.Location
import Pageflow.Run.Task
import Pageflow.Yaml.Node

namespace Pageflow.Load

/-! ## §1. Refusals -/

/-- Why there is no document. -/
inductive FetchError where
  | misplaced (e : LocationError)
  | unreadable (path : String) (e : FileError)
  | unreachable (reason : String)
  | invalidYaml (l : Location)
  | invalid (l : Location)
deriving Inhabited

/-- The wording of a refusal; `<yaml>` stands for what is wrong with the text as YAML. -/
def FetchError.message : FetchError → String
  | .misplaced e => e.message
  | .unreadable path e => "read " ++ path ++ ": " ++ e.message
  | .unreachable reason => reason
  | .invalidYaml l => "parse " ++ l.text ++ ": invalid YAML document: <yaml>"
  | .invalid l =>
    "parse " ++ l.text ++ ": Unable to parse json. Invalid document format: <yaml>"

/-! ## §2. Documents -/

/-- The value that the text of a document spells. -/
def parseDocument (l : Location) (text : String) : Except FetchError Json :=
  if l.isYaml then
    match Yaml.parse? text with
    | some value => .ok value
    | none => .error (.invalidYaml l)
  else
    match Json.parse? text with
    | .ok value => .ok value
    | .error _ =>
      match Yaml.parse? text with
      | some value => .ok value
      | none => .error (.invalid l)

variable {σ : Type}

/-- The text of the file at a path. -/
def readText (path : String) : Run σ FetchError String := do
  match ← Run.ask (.fileBytes path) with
  | .error e => Run.fail (.unreadable path e)
  | .ok bytes =>
    match Utf8.decode? bytes with
    | some text => return text
    | none => Run.fail (.unreadable path .notText)

/-- The text behind an address. -/
def readAddress (url : Url) : Run σ FetchError String := do
  match ← Run.ask (.fetch url.text) with
  | .ok text => return text
  | .error reason => Run.fail (.unreachable reason)

/-- The text of a document; it has to be waited for. -/
def fetchText [Journal σ] (l : Location) : Run σ FetchError String := do
  Run.note (.debug "fetching document" [("location", l.text)])
  Run.modify Journal.pause
  match l with
  | .file path => readText path
  | .web url => readAddress url

/-- The value of a document. -/
def fetchDocument [Journal σ] (l : Location) : Run σ FetchError Json := do
  Run.ofExcept (parseDocument l (← fetchText l))

end Pageflow.Load
