/-
  Pageflow.Run.Activity — running an activity.

  An activity waits for those that it requires, gets its parameters and its request body, lets a
  function look at them, calls its strategy, stores the result, runs its sub-activities one after
  the other, shows the result and is recorded.  Nothing of it is stored, shown or recorded if a
  step before fails.

  Main definitions: `runActivity`, one activity given how others are run, and `execute`.
-/
import Pageflow.Document.Reading
import Pageflow.Remote.Call
import Pageflow.Run.Parameters

namespace Pageflow.Run

open Document (Executed)
open Pageflow.Flow (Activity Strategy)

/-! ## §1. Requirements -/

/-- How activities are run: by place, with the results before them, and with or without an alert
at the end. -/
abbrev Executor := Nat → Inherited → Bool → Run State ActivityFailure Json

/-- The failure of an activity. -/
def failureOf (flow : Flow) (a : Activity) (kind : FailureKind) (message : String) :
    ActivityFailure :=
  ⟨flow.serviceTitle a.service, a.title, kind, message⟩

/-- What the user is told about a required activity that has not run. -/
def requirementMessage (flow : Flow) (service : String) (r : Document.Required) : String :=
  match r.errorMessage with
  | some message => message
  | none =>
    let title := (((flow.findAny? service r.activityName).bind fun place => flow.arena[place]?).map
      Activity.title).getD r.activityName
    "You need to execute '" ++ title ++ "' from the service '" ++ flow.serviceTitle service
      ++ "' before"

/-- The message of the first required activity that has not run. -/
def unmet? (flow : Flow) (s : State) (a : Activity) : Option String :=
  a.required.findSome? fun r =>
    let service := r.serviceName.getD a.service
    if s.isExecuted service r.activityName then none
    else some (requirementMessage flow service r)

variable {ε : Type}

/-- Tells the user something. -/
def alert (message : String) : Run State ε Unit := modify (State.display (.alert message))

/-- Puts a stage of the activity at a place on the trail. -/
def mark (place : Nat) (stage : Stage) : Run State ε Unit := modify (State.mark place stage)

/-- Fails unless all required activities have run. -/
def gate (flow : Flow) (place : Nat) (a : Activity) : Run State ActivityFailure Unit := do
  match unmet? flow (← get) a with
  | none => mark place .admitted
  | some message =>
    alert (a.title ++ ": failed: " ++ message)
    fail (failureOf flow a .requirements message)

/-! ## §2. Calls -/

/-- The run that makes a generated value: nothing comes before it, and no alert after it. -/
def maker (run : Executor) : Maker := fun place => run place {} false

/-- What a call takes. -/
structure Arguments where
  parameters : Dict Json
  body : Option Json
deriving DecidableEq, Inhabited

/-- The parameters and the request body of an activity. -/
def argumentsOf (run : Executor) (a : Activity) (before : Inherited) :
    Run State ExecutionError Arguments := do
  let parameters ← parameterValues (maker run) a before
  return ⟨parameters, ← requestBody (maker run) a before⟩

/-- The parameters after a function has looked at them; an object that it gives back is written
over them. -/
def preProcessed (flow : Flow) (a : Activity) (arguments : Arguments) :
    Run State ActivityFailure Arguments :=
  match a.preProcess with
  | none => return arguments
  | some f => do
    match ← attempt (callNamed f arguments.parameters arguments.body) with
    | .ok (.value (.object overrides)) =>
      return { arguments with parameters := arguments.parameters.insertAll overrides }
    | .ok _ => return arguments
    | .error .cancelled =>
      note (.debug "preProcess cancelled; continuing with unchanged parameters"
        [("activity", a.name)])
      return arguments
    | .error (.failed message) =>
      fail (failureOf flow a .execution ("PreProcess failed " ++ message ++ "; " ++ f.name))

/-- Calls a strategy.  A reference passes the parameters on as the result above its target. -/
def callStrategy (run : Executor) (strategy : Strategy) (arguments : Arguments) :
    Run State ExecutionError Json :=
  match strategy with
  | .function f => callFunction f arguments.parameters arguments.body
  | .remote o => do
    let endpoint ← endpoint o.backend
    o.call endpoint arguments.parameters arguments.body
  | .capability c => callCapability c arguments.parameters arguments.body
  | .reference target =>
    (run target { parent := some (.object arguments.parameters) } false).mapError .reference

/-- Calls the strategy of an activity, and notes that. -/
def dispatch (run : Executor) (place : Nat) (a : Activity) (strategy : Strategy)
    (arguments : Arguments) : Run State ExecutionError Json := do
  mark place .called
  note ⟨.debug, "executing activity",
    [("service", .text a.service), ("activity", .text a.name),
      ("strategy", .text strategy.label), ("parameters", .count arguments.parameters.length)]⟩
  callStrategy run strategy arguments

/-- The result that stands in for a call that is skipped. -/
def skippedResult (a : Activity) : Json :=
  (a.overrides.bind Document.Overrides.resultData).getD (.object [])

/-- The result of an activity. -/
def resultOf (flow : Flow) (run : Executor) (place : Nat) (a : Activity) (strategy : Strategy)
    (arguments : Arguments) : Run State ActivityFailure Json :=
  if a.skips then do
    note (.debug "execution skipped by debug override"
      [("service", a.service), ("activity", a.name)])
    return skippedResult a
  else do
    match ← attempt (dispatch run place a strategy arguments) with
    | .ok result => return result
    | .error (e : ExecutionError) =>
      let failure := failureOf flow a .execution e.message
      alert failure.alertText
      fail failure

/-! ## §3. Results -/

/-- The state after a result is stored where the activity says. -/
def State.storeResult (a : Activity) (result : Json) (s : State) : State :=
  match a.storeResult with
  | none => s
  | some target =>
    if a.isReference then s
    else s.modifyStore target.scope a.service fun store => store.write target.key result

/-- The state after the result of an activity is known. -/
def State.settle (place : Nat) (a : Activity) (result : Json) (s : State) : State :=
  (s.storeResult a result).mark place (.settled result)

/-- The state after an activity has ended; one that makes a generated value is not recorded. -/
def State.complete (place : Nat) (a : Activity) (result : Json) (s : State) : State :=
  let s := s.mark place (.completed result)
  if a.isGenerated then s else s.recordExecuted a.executed

/-- Runs sub-activities one after the other; the first failure stops them. -/
def cascade (run : Executor) (parent : Json) (shows : Bool) :
    List Nat → Option Json → Run State ActivityFailure Unit
  | [], _ => return
  | place :: rest, previous => do
    let result ← run place ⟨some parent, previous⟩ shows
    cascade run parent shows rest (some result)

/-- Adds the inputs that a result describes to a service, and shows them. -/
def insertInputs (service : String) (ui : Document.Ui) (s : State) : State :=
  (s.modifyService service fun state => state.register service ui).display
    (.inputs service ui.inputNames)

/-- Shows a result as the activity says. -/
def present (a : Activity) (result : Json) : Run State String Unit :=
  if let some target := a.presentation.resultAsOutputHtml then
    modify (State.display (.content a.service target result))
  else if a.presentation.resultAsDynamicUi then
    match Document.readUi result with
    | .ok ui => modify (insertInputs a.service ui)
    | .error e => fail ("result is not a valid dynamic UI: " ++ e.message)
  else
    match a.presentation.resultsAsOpenInput.bind Document.OpenInput.place? with
    | some position => modify (State.display (.openInput a.service result position))
    | none => return

/-- Whether the end of an activity is announced. -/
def announces (a : Activity) (shows : Bool) : Bool :=
  a.parent.isNone && !a.isReference && a.presentation.alert ≠ some false && shows

/-- Announces the end of an activity and records it. -/
def conclude (place : Nat) (a : Activity) (result : Json) (shows : Bool) : Run State ε Unit := do
  if announces a shows then alert ("Activity executed: " ++ a.title)
  modify (State.complete place a result)

/-! ## §4. Activities -/

/-- Everything before the result is stored: what is required, the arguments and the call. -/
def resultFor (flow : Flow) (run : Executor) (place : Nat) (a : Activity) (strategy : Strategy)
    (before : Inherited) : Run State ActivityFailure Json := do
  gate flow place a
  let arguments ← (argumentsOf run a before).mapError fun e =>
    failureOf flow a .parameters e.message
  let arguments ← preProcessed flow a arguments
  resultOf flow run place a strategy arguments

/-- Everything after the result is stored: it is handed down, shown and recorded. -/
def handDown (flow : Flow) (run : Executor) (place : Nat) (a : Activity) (result : Json)
    (shows : Bool) : Run State ActivityFailure Unit := do
  (cascade run result shows a.subActivities none).mapError fun e =>
    failureOf flow a .execution ("Sub-activity failed:\n" ++ e.message)
  (present a result).mapError (failureOf flow a .execution)
  conclude place a result shows

/-- Everything after the call. -/
def settle (flow : Flow) (run : Executor) (place : Nat) (a : Activity) (result : Json)
    (shows : Bool) : Run State ActivityFailure Unit := do
  modify (State.settle place a result)
  handDown flow run place a result shows

/-- Runs an activity and its sub-activities, given how other activities are run. -/
def runActivity (flow : Flow) (run : Executor) (place : Nat) (a : Activity) (before : Inherited)
    (shows : Bool) : Run State ActivityFailure Json :=
  match a.strategy with
  | none => fail (failureOf flow a .parameters "Activity not active")
  | some strategy => do
    let result ← resultFor flow run place a strategy before
    settle flow run place a result shows
    return result

/-- A run of the activity at a place, with its start and its failure on the trail. -/
def traced (place : Nat) (before : Inherited) (run : Run State ActivityFailure Json) :
    Run State ActivityFailure Json := do
  mark place (.entered before)
  match ← attempt run with
  | .ok result => return result
  | .error (e : ActivityFailure) =>
    mark place .failed
    fail e

/-- Runs the activity at a place.  `depth` bounds how deep runs may nest. -/
def executeTo (flow : Flow) : Nat → Executor
  | 0, _, _, _ => endless
  | depth + 1, place, before, shows =>
    match flow.arena[place]? with
    | some a => traced place before (runActivity flow (executeTo flow depth) place a before shows)
    | none => endless

/-- Runs the activity at a place.  No activity runs inside itself, so runs nest at most as deep
as there are activities. -/
def execute (flow : Flow) : Executor := executeTo flow (flow.arena.length + 1)

end Pageflow.Run
