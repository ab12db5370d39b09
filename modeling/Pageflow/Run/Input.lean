/-
  Pageflow.Run.Input — the values of inputs.

  What the host has set comes before what the declaration says.  A file is read, or described if
  it is to be kept as a file.
-/
import Pageflow.Path
import Pageflow.Run.Call
import Pageflow.Run.State

namespace Pageflow.Run

open Pageflow.Flow (Input InputKind)

/-! ## §1. Files -/

/-- What the failure to read a file is reported as. -/
def unreadable (path : String) (e : FileError) : ExecutionError :=
  .input ("File could not be read: " ++ path ++ ": " ++ e.message)

/-- The bytes of a file. -/
def readFile {σ : Type} (path : String) : Run σ ExecutionError Bytes := do
  match ← ask (.fileBytes path) with
  | .ok bytes => pure bytes
  | .error e => fail (unreadable path e)

/-- The size of a file. -/
def measureFile {σ : Type} (path : String) : Run σ ExecutionError Nat := do
  match ← ask (.fileSize path) with
  | .ok size => pure size
  | .error e => fail (unreadable path e)

/-- The description of a file that is kept as a file. -/
def keptFile (path : String) (size : Nat) : Json :=
  .object [("name", .string ((Path.fileName? path).getD "")), ("path", .string path),
    ("size", .integer size)]

/-- The name and path in the description of a kept file. -/
def keptFile? (value : Json) : Option (String × String) := do
  let members ← value.members?
  if members.length ≠ 3 then none
  let _ ← (members.get? "size").bind Json.nat?
  return (← (members.get? "name").bind Json.text?, ← (members.get? "path").bind Json.text?)

/-- The value of a file input with this file. -/
def readFileInput {σ : Type} (f : Document.FileInput) (path : String) :
    Run σ ExecutionError Json := do
  if f.keepAsFile then
    return keptFile path (← measureFile path)
  else
    let bytes ← readFile path
    if f.binary then return .ofBytes bytes
    else
      match Utf8.decode? bytes with
      | some text => return .string text
      | none => fail (unreadable path .notText)

/-! ## §2. Inputs -/

/-- The value of an input that is no file. -/
def plainValue (s : State) (i : Input) : InputKind → Json
  | .field f =>
    match f.fromQueryParam.bind fun name => s.query.get? name with
    | some text => .string text
    | none => (s.value? i.service i.name).getD (.ofText? f.default?)
  | .select d =>
    (s.value? i.service i.name).getD
      (.ofText? (d.default?.or (d.options.head?.map (·.value))))
  | .checkBox c => (s.value? i.service i.name).getD (.bool c.checked)
  | .file _ => .null

/-- The value of an input. -/
def inputValue (i : Input) : Run State ExecutionError Json := do
  let s ← get
  match i.kind with
  | .file f =>
    match s.file? i.service i.name with
    | some path => readFileInput f path
    | none => return .null
  | kind => return plainValue s i kind

end Pageflow.Run
