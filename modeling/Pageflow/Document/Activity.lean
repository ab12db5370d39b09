/-
  Pageflow.Document.Activity — activities, their parameters and where results go.

  An activity names a capability of its service's bridge or a function of the process module,
  says where each parameter comes from, what has to run before it, what runs after it, and
  where its result is stored and shown.
-/
import Pageflow.Json.Value
import Pageflow.Text.Blank

namespace Pageflow.Document

/-! ## §1. Stores -/

/-- Which store a key belongs to. -/
inductive StoreScope where
  /-- The store of the activity's service. -/
  | service
  /-- The store of the whole process. -/
  | process
  /-- The store that lives as long as one run or sequence. -/
  | activity
deriving DecidableEq, Inhabited

/-- The name of a scope. -/
def StoreScope.label : StoreScope → String
  | .service => "service"
  | .process => "process"
  | .activity => "activity"

/-- A place in a store: what a result is written to or a parameter read from. -/
structure StoreTarget where
  scope : StoreScope := .service
  key : String
deriving DecidableEq, Inhabited

/-- The key up to its first dot, and what stands after the dot if that is not empty. -/
def StoreTarget.splitKey (t : StoreTarget) : String × Option String :=
  match Text.cutAt? '.' t.key.toList with
  | some (base, []) => (String.ofList base, none)
  | some (base, path) => (String.ofList base, some (String.ofList path))
  | none => (t.key, none)

/-! ## §2. Parameters -/

/-- An embedded activity that makes a value; `P` stands for parameter definitions. -/
structure GenerateOf (P : Type) where
  bridgeCapability : Option String := none
  moduleFunction : Option String := none
  parameters : List (String × P) := []
deriving Inhabited

/-- Where the value of a parameter comes from.  Of several sources the first counts, in the
order `field`, `parent`, `previous`, `constant`, `store`, `queryParam`, `generate`,
`fileInput`. -/
structure Parameter where
  valueType : Option String := none
  field : Option String := none
  parent : Bool := false
  previous : Bool := false
  constant : Option Json := none
  store : Option StoreTarget := none
  queryParam : Option String := none
  generate : Option (GenerateOf Parameter) := none
  fileInput : Option String := none
  isDynamic : Bool := false
deriving Inhabited

/-- An embedded activity that makes the value of a parameter. -/
abbrev Generate := GenerateOf Parameter

/-- A definition that several activities share; a bare name stands for an input. -/
inductive SharedParameter where
  | field (name : String)
  | definition (p : Parameter)
deriving Inhabited

/-- The definition that is meant. -/
def SharedParameter.toDefinition : SharedParameter → Parameter
  | .field name => { field := some name }
  | .definition p => p

/-! ## §3. What happens with a result -/

/-- Where appended content goes. -/
inductive InsertPosition where
  | start
  | finish
deriving DecidableEq, Inhabited

/-- The name of a position. -/
def InsertPosition.label : InsertPosition → String
  | .start => "start"
  | .finish => "end"

/-- Whether and where a result is appended to an open input. -/
inductive OpenInput where
  | flag (on : Bool)
  | position (p : InsertPosition)
deriving DecidableEq, Inhabited

/-- The place meant; switched on without one, it is the end. -/
def OpenInput.place? : OpenInput → Option InsertPosition
  | .flag true => some .finish
  | .flag false => none
  | .position p => some p

/-- How a result is shown. -/
structure Presentation where
  resultAsOutputHtml : Option String := none
  resultAsDynamicUi : Bool := false
  resultsAsOpenInput : Option OpenInput := none
  alert : Option Bool := none
  includeInStatus : Option Bool := none
deriving DecidableEq, Inhabited

/-- Overrides for development: `execute := some false` puts `resultData` in place of a call. -/
structure Overrides where
  execute : Option Bool := none
  resultData : Option Json := none
deriving DecidableEq, Inhabited

/-- Whether the call is skipped. -/
def Overrides.skips (o : Overrides) : Bool := o.execute = some false

/-! ## §4. Activities -/

/-- An activity that must have run before. -/
structure Required where
  serviceName : Option String := none
  activityName : String
  errorMessage : Option String := none
deriving DecidableEq, Inhabited

/-- An activity. -/
structure Activity where
  title : String := ""
  preProcess : Option String := none
  bridgeCapability : Option String := none
  moduleFunction : Option String := none
  parameters : Dict Parameter := []
  requestBody : Option (Dict Parameter) := none
  requiredActivities : List Required := []
  subActivities : List (String × Activity) := []
  storeResult : Option StoreTarget := none
  priority : Option Binary64 := none
  ui : Presentation := {}
  debug : Option Overrides := none
deriving Inhabited

namespace Activity

/-- The key by which siblings are ordered; without one an activity comes last. -/
def effectivePriority (a : Activity) : Binary64 := a.priority.getD .infinity

/-- Whether the call is skipped. -/
def skips (a : Activity) : Bool := a.debug.any Overrides.skips

end Activity

/-- The activity that a generated value runs. -/
def Generate.toActivity (g : Generate) (title : String) : Activity :=
  { title, bridgeCapability := g.bridgeCapability, moduleFunction := g.moduleFunction,
    parameters := g.parameters }

/-- An entry of the process that forwards to an activity of a service. -/
structure Reference where
  serviceName : String
  activityName : String
  title : Option String := none
  subActivities : Dict Activity := []
  debug : Option Overrides := none
deriving Inhabited

/-- An activity of the process itself. -/
inductive CommonActivity where
  | reference (r : Reference)
  | definition (a : Activity)
deriving Inhabited

/-- Activities to run one after the other. -/
structure Sequence where
  title : Option String := none
  activities : List String := []
deriving DecidableEq, Inhabited

/-- An entry of the log of executed activities. -/
structure Executed where
  serviceName : String
  activityName : String
  title : String
deriving DecidableEq, Inhabited

/-- Whether an entry is about this activity; its title does not matter. -/
def Executed.isAbout (e : Executed) (service activity : String) : Bool :=
  e.serviceName = service && e.activityName = activity

theorem Executed.isAbout_iff {e : Executed} {service activity : String} :
    e.isAbout service activity = true ↔ e.serviceName = service ∧ e.activityName = activity := by
  rw [isAbout, Bool.and_eq_true, decide_eq_true_iff, decide_eq_true_iff]

end Pageflow.Document
