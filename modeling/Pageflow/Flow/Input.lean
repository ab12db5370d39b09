/-
  Pageflow.Flow.Input — the inputs of a service.

  An input is what a service declares under a name, together with the service.  Of two inputs of
  one name the later kind counts: fields, then selects, check boxes and files.
-/
import Pageflow.Document.Page

namespace Pageflow.Flow

open Document (Ui)

/-- The kinds of inputs, with what their declarations say. -/
inductive InputKind where
  | field (f : Document.InputField)
  | select (s : Document.Select)
  | checkBox (c : Document.CheckBox)
  | file (f : Document.FileInput)
deriving DecidableEq, Inhabited

/-- An input of a service. -/
structure Input where
  service : String
  name : String
  kind : InputKind
deriving DecidableEq, Inhabited

/-- Whether a file is selected with it. -/
def Input.isFile (i : Input) : Bool :=
  match i.kind with
  | .file _ => true
  | _ => false

/-- The inputs that a service declares; a later kind replaces an earlier one of the same name. -/
def inputsOf (service : String) (ui : Ui) : Dict Input :=
  let entries {α : Type} (kind : α → InputKind) (d : Dict α) : List (String × Input) :=
    d.map fun (name, a) => (name, ⟨service, name, kind a⟩)
  Dict.ofList (entries .field ui.inputFields ++ entries .select ui.selects
    ++ entries .checkBox ui.checkBoxes ++ entries .file ui.fileInputs)

end Pageflow.Flow
