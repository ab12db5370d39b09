/-
  Pageflow.Document.Page — pages and processes.

  A process document holds services, their activities and sequences, and what belongs to the
  process itself.  A page binds a process document to bridges, shared parameters and lists of
  activities to start with.
-/
import Pageflow.Document.Activity
import Pageflow.Document.Bridge
import Pageflow.Document.Ui

namespace Pageflow.Document

/-- The service name that stands for the process itself. -/
def processService : String := "process"

/-- Names of activities to start with. -/
abbrev Autostart := List String

/-- A service of a process. -/
structure Service where
  title : String := ""
  description : Option String := none
  ui : Ui := {}
  activities : Dict Activity := []
  sequences : Dict Sequence := []
  parameters : Dict SharedParameter := []
  autostart : Autostart := []
  bridge : Option Binding := none
deriving Inhabited

/-- What belongs to the process itself. -/
structure Common where
  ui : Ui := {}
  activities : Dict CommonActivity := []
  sequences : Dict Sequence := []
  parameters : Dict SharedParameter := []
  autostart : Autostart := []
deriving Inhabited

/-- A process document. -/
structure Process where
  title : String := ""
  description : Option String := none
  services : Dict Service := []
  common : Common := {}
  scriptUri : Option String := none
deriving Inhabited

/-- What a page says about a service. -/
structure PageService where
  title : Option String := none
  description : Option String := none
  bridge : Option Binding := none
  parameters : Dict SharedParameter := []
  autostart : Autostart := []
deriving Inhabited

/-- What a page says about the process itself. -/
structure PageCommon where
  description : Option String := none
  parameters : Dict SharedParameter := []
  autostart : Autostart := []
deriving Inhabited

/-- A page document. -/
structure Page where
  title : String := ""
  description : Option String := none
  process : Origin Process := {}
  services : Dict PageService := []
  scriptUri : Option String := none
  common : PageCommon := {}
deriving Inhabited

end Pageflow.Document
