/-
  Pageflow.Flow.Basic — a process ready to run.

  A flow has its activities in one list and its services by name.  The process itself is the
  service `process`; no declared service can take its place.
-/
import Pageflow.Flow.Activity
import Pageflow.Flow.Input

namespace Pageflow

namespace Flow

/-- A service of a flow. -/
structure Service where
  name : String
  title : String
  /-- What declares its inputs. -/
  ui : Document.Ui := {}
  /-- The activities at its top, by name. -/
  activities : Dict Nat := []
  sequences : Dict Document.Sequence := []
  autostart : List String := []
  hasBridge : Bool := false
deriving DecidableEq, Inhabited

end Flow

/-- A process ready to run. -/
structure Flow where
  title : String
  arena : List Flow.Activity
  /-- The declared services. -/
  services : Dict Flow.Service
  /-- The process itself. -/
  common : Flow.Service
deriving Inhabited

namespace Flow

/-- The service of this name, the process itself included. -/
def service? (flow : Flow) (name : String) : Option Service :=
  if name = Document.processService then some flow.common else flow.services.get? name

/-- The declared services and then the process itself. -/
def allServices (flow : Flow) : List Service := flow.services.values ++ [flow.common]

/-- The title of a service; an unknown one goes by its name. -/
def serviceTitle (flow : Flow) (name : String) : String :=
  ((flow.service? name).map Service.title).getD name

/-- The activity of this name at the top of a service. -/
def find? (flow : Flow) (service name : String) : Option Nat :=
  (flow.service? service).bind fun s => s.activities.get? name

/-- The activity of this name at the top of a service or anywhere inside it. -/
def findAny? (flow : Flow) (service name : String) : Option Nat :=
  (flow.find? service name).or
    (flow.arena.findIdx? fun a => !a.isGenerated && a.service = service && a.name = name)

/-- The activities that cannot run. -/
def inactive (flow : Flow) : List Activity := flow.arena.filter fun a => !a.isActive

end Flow

end Pageflow
