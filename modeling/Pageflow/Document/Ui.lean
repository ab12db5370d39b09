/-
  Pageflow.Document.Ui — the inputs a service declares.

  Nothing here is drawn: a run only needs to know which inputs exist, what their values are
  before the host sets any, and how selected files are read.
-/
import Pageflow.Dict

namespace Pageflow.Document

/-- A text field or text area.  A query parameter named here gives its value, if present. -/
structure InputField where
  label : String := ""
  default? : Option String := none
  fromQueryParam : Option String := none
  textArea : Bool := false
deriving DecidableEq, Inhabited

/-- One alternative of a select. -/
structure SelectOption where
  label : String
  value : String
deriving DecidableEq, Inhabited

/-- A choice among alternatives. -/
structure Select where
  label : String := ""
  options : List SelectOption := []
  default? : Option String := none
deriving DecidableEq, Inhabited

/-- A box that is checked or not. -/
structure CheckBox where
  label : String := ""
  checked : Bool := false
deriving DecidableEq, Inhabited

/-- A button; hosts use it to trigger runs. -/
structure Button where
  label : String := ""
  triggerActivity : Option String := none
  triggerSequence : Option String := none
  activityService : Option String := none
deriving DecidableEq, Inhabited

/-- A file picker: contents are read as bytes if `binary`, and replaced by a description of the
file if `keepAsFile`. -/
structure FileInput where
  label : String := ""
  accept : Option String := none
  binary : Bool := false
  readImmediately : Bool := false
  keepAsFile : Bool := false
deriving DecidableEq, Inhabited

/-- All inputs and triggers of a service. -/
structure Ui where
  inputFields : Dict InputField := []
  selects : Dict Select := []
  checkBoxes : Dict CheckBox := []
  buttons : Dict Button := []
  fileInputs : Dict FileInput := []
deriving DecidableEq, Inhabited

namespace Ui

/-- The names of the inputs that have a value, kind by kind. -/
def inputNames (ui : Ui) : List String :=
  ui.inputFields.keys ++ ui.selects.keys ++ ui.checkBoxes.keys ++ ui.fileInputs.keys

/-- Whether nothing is declared. -/
def isEmpty (ui : Ui) : Bool :=
  ui.inputFields.isEmpty && ui.selects.isEmpty && ui.checkBoxes.isEmpty && ui.buttons.isEmpty
    && ui.fileInputs.isEmpty

end Ui

end Pageflow.Document
