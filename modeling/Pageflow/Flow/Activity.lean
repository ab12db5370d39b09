/-
  Pageflow.Flow.Activity — activities of a flow.

  The activities of a flow stand in one list and refer to each other by their positions in it:
  parents, sub-activities, targets of references and makers of generated values.  An activity
  whose strategy could not be found is kept, but it is inactive.

  Main definitions: `Activity` and `Strategy.parameterNames`.
-/
import Pageflow.Flow.Source
import Pageflow.Remote.Operation

namespace Pageflow.Flow

/-! ## §1. Strategies -/

/-- How an activity gets its result. -/
inductive Strategy where
  /-- A function of the process module. -/
  | function (f : Function)
  /-- An operation of a remote service. -/
  | remote (o : Remote.Operation)
  /-- A function of a bridge. -/
  | capability (c : ModuleCapability)
  /-- Another activity. -/
  | reference (target : Nat)
deriving DecidableEq

namespace Strategy

/-- The name of the kind. -/
def label : Strategy → String
  | function _ => "localFunction"
  | remote _ => "remoteOperation"
  | capability _ => "bridgeModule"
  | reference _ => "reference"

/-- Whether it forwards to another activity. -/
def isReference : Strategy → Bool
  | reference _ => true
  | _ => false

/-- Whether it sends a request. -/
def isRemote : Strategy → Bool
  | remote _ => true
  | _ => false

/-- The parameters that it takes itself. -/
def ownParameterNames : Strategy → List String
  | function f => f.parameters
  | remote o => o.parameterNames
  | capability c => c.function.parameters
  | reference _ => []

end Strategy

/-! ## §2. Activities -/

/-- An activity of a flow. -/
structure Activity where
  name : String
  title : String
  service : String
  parent : Option Nat := none
  /-- How it gets its result; without one it is inactive. -/
  strategy : Option Strategy := none
  preProcess : Option Function := none
  parameters : Dict Source := []
  dynamicParameters : Dict DynamicParameter := []
  requestBody : Dict Source := []
  required : List Document.Required := []
  subActivities : List Nat := []
  storeResult : Option Document.StoreTarget := none
  presentation : Document.Presentation := {}
  overrides : Option Document.Overrides := none
  /-- The definitions that the parameters are mapped from. -/
  definitions : Dict Document.Parameter := []
  bodyDefinitions : Dict Document.Parameter := []
  /-- Whether it makes a generated value and is not declared as an activity. -/
  isGenerated : Bool := false
deriving Inhabited

namespace Activity

/-- Whether it can run. -/
def isActive (a : Activity) : Bool := a.strategy.isSome

/-- Whether it forwards to another activity. -/
def isReference (a : Activity) : Bool := a.strategy.any Strategy.isReference

/-- Whether its call is skipped. -/
def skips (a : Activity) : Bool := a.overrides.any Document.Overrides.skips

/-- The entry for it in the log of executed activities. -/
def executed (a : Activity) : Document.Executed := ⟨a.service, a.name, a.title⟩

/-- The activity as it is listed. -/
def label (a : Activity) : String := a.service ++ ":" ++ a.name ++ " (" ++ a.title ++ ")"

end Activity

/-! ## §3. Parameters of references -/

/-- The parameters of the strategy at the end of a chain of at most `hops` references. -/
def Strategy.follow (arena : List Activity) : Nat → Strategy → List String
  | hops + 1, .reference target =>
    match (arena[target]?).bind Activity.strategy with
    | some next => next.follow arena hops
    | none => []
  | _, s => s.ownParameterNames

/-- The parameters of a strategy; a reference takes those of its target.  No chain without a
circle is longer than the list of activities. -/
def Strategy.parameterNames (arena : List Activity) (s : Strategy) : List String :=
  s.follow arena arena.length

end Pageflow.Flow
