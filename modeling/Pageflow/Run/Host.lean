/-
  Pageflow.Run.Host — what the host of a process can do.

  Runs are started by service and name.  A service that runs refuses to be started again; at the
  end of a run it is free, and the store of the run is empty.  Sequences stop at the first
  failure.  An external call only calls a strategy, with values of its own.

  Main definitions: `initial`, `executeActivity`, `executeSequence`, `autostart` and
  `externalCall`.
-/
import Pageflow.Run.Activity

namespace Pageflow.Run

open Pageflow.Flow (Activity)

/-! ## §1. The state at the start -/

/-- A service before anything happens. -/
def initialService (s : Flow.Service) : ServiceState :=
  (ServiceState.new s.name).register s.name s.ui

/-- The state of a flow before anything happens. -/
def initial (flow : Flow) : State where
  services := flow.services.mapValues initialService
  process := initialService flow.common

/-! ## §2. One run at a time -/

/-- Marks a service as running, unless it runs. -/
def start (service name : String) : Run State HostError Unit := do
  match ((← get).service? service).bind ServiceState.running with
  | some _ => fail (.alreadyRunning service)
  | none => modify fun s => s.modifyService service fun state => { state with running := some name }

/-- The state after a run of a service: the service is free, and the store of the run is empty. -/
def State.release (service : String) (s : State) : State :=
  { s.modifyService service fun state => { state with running := none } with
    scratch := s.scratch.clear }

/-- A run under the mark of a service, which is taken away whatever becomes of it. -/
def guarded {α : Type} (service name : String) (run : Run State HostError α) :
    Run State HostError α := do
  start service name
  let outcome ← attempt run
  modify (State.release service)
  ofExcept outcome

/-! ## §3. Activities and sequences -/

/-- The service of this name. -/
def knownService (flow : Flow) (name : String) : Except HostError Flow.Service :=
  match flow.service? name with
  | some s => .ok s
  | none => .error (.unknownService name)

/-- The activity of this name at the top of a service: its place and itself. -/
def knownActivity (flow : Flow) (service name : String) : Except HostError (Nat × Activity) :=
  let found := (flow.find? service name).bind fun place =>
    (flow.arena[place]?).map fun a => (place, a)
  match found with
  | some found => .ok found
  | none => .error (.unknownActivity service name)

/-- Runs an activity at the top; its failure is reported. -/
def runTop (flow : Flow) (service name : String) (place : Nat) (a : Activity) (shows : Bool) :
    Run State HostError Json := do
  match ← attempt (execute flow place {} shows) with
  | .ok result => return result
  | .error e =>
    modify (State.recordFailed ⟨service, name, a.title⟩)
    fail (.activity e)

/-- Runs an activity of a service. -/
def executeActivity (flow : Flow) (service name : String) (shows : Bool) :
    Run State HostError Json := do
  let _ ← ofExcept (knownService flow service)
  let (place, a) ← ofExcept (knownActivity flow service name)
  guarded service name (runTop flow service name place a shows)

/-- Runs activities of a service one after the other. -/
def runSteps (flow : Flow) (service : String) : List String → Run State HostError (List Json)
  | [] => return []
  | name :: rest => do
    let (place, a) ← ofExcept (knownActivity flow service name)
    let result ← runTop flow service name place a true
    return result :: (← runSteps flow service rest)

/-- Runs a sequence of a service. -/
def executeSequence (flow : Flow) (service name : String) : Run State HostError (List Json) := do
  let s ← ofExcept (knownService flow service)
  match s.sequences.get? name with
  | none => fail (.unknownSequence service name)
  | some sequence => guarded service name (runSteps flow service sequence.activities)

/-! ## §4. Starting up -/

/-- Runs the activities that a service starts with. -/
def autostartSteps (flow : Flow) (service : String) : List String → Run State HostError Unit
  | [] => return
  | name :: rest => do
    note (.info "autostart" [("service", service), ("activity", name)])
    let _ ← (executeActivity flow service name true).mapError .autostart
    autostartSteps flow service rest

/-- Runs what a service starts with, unless one of the names is unknown. -/
def autostartService (flow : Flow) (s : Flow.Service) : Run State HostError Unit :=
  let unknown := s.autostart.filter fun name => (flow.find? s.name name).isNone
  if unknown.isEmpty then autostartSteps flow s.name s.autostart
  else note (.error "Unknown autostart activities; autostart skipped for service"
    [("service", s.name), ("unknown", Text.quotedList unknown)])

/-- Runs what the services start with, one after the other. -/
def autostartServices (flow : Flow) : List Flow.Service → Run State HostError Unit
  | [] => return
  | s :: rest => do
    autostartService flow s
    autostartServices flow rest

/-- Runs what every service starts with, and then the process. -/
def autostart (flow : Flow) : Run State HostError Unit :=
  autostartServices flow flow.allServices

/-! ## §5. External calls -/

/-- An external call: values that go over those of the activity, or stand for them. -/
structure ExternalCall where
  service : String
  activity : String
  parameters : Dict Json := []
  /-- A body in place of that of the activity. -/
  body : Option Json := none
  /-- Whether the activity's own values are found out first. -/
  ownValues : Bool := true
deriving DecidableEq, Inhabited

/-- The failure of the strategy of a call or of its values. -/
def callFailure (flow : Flow) (service : String) (a : Activity) (kind : FailureKind)
    (message : String) : HostError :=
  .activity ⟨flow.serviceTitle service, a.title, kind, message⟩

/-- The values of an external call. -/
def callArguments (flow : Flow) (c : ExternalCall) (a : Activity) :
    Run State ExecutionError Arguments := do
  let make := maker (execute flow)
  let own ← if c.ownValues then parameterValues make a {} else pure []
  let body ← match c.body with
    | some body => pure (some body)
    | none => requestBody make a {}
  return ⟨own.insertAll c.parameters, body⟩

/-- Calls the strategy of the activity at a place. -/
def callOnly (flow : Flow) (c : ExternalCall) (place : Nat) (a : Activity) :
    Run State HostError Json :=
  match a.strategy with
  | none => fail (callFailure flow c.service a .parameters "Activity not active")
  | some strategy => do
    let arguments ← (callArguments flow c a).mapError fun e =>
      callFailure flow c.service a .parameters e.message
    (dispatch (execute flow) place a strategy arguments).mapError fun e =>
      callFailure flow c.service a .execution e.message

/-- The call before its failure is put in words. -/
def callGuarded (flow : Flow) (c : ExternalCall) : Run State HostError Json := do
  let _ ← ofExcept (knownService flow c.service)
  let (place, a) ← ofExcept (knownActivity flow c.service c.activity)
  guarded c.service c.activity (callOnly flow c place a)

/-- The failure as the caller sees it. -/
def callError (c : ExternalCall) : HostError → HostError
  | .unknownActivity service name => .unknownActivity service name
  | e => .externalCall c.service c.activity e

/-- Calls only the strategy of an activity; the user is told of a failure. -/
def externalCall (flow : Flow) (c : ExternalCall) : Run State HostError Json := do
  match ← attempt (callGuarded flow c) with
  | .ok result => return result
  | .error e =>
    alert (callError c e).message
    fail (callError c e)

/-! ## §6. Values -/

/-- The key and the path that a request for a stored value names; without a path, dots at the end
of the key do not count. -/
def splitStored (key : String) : String × Option String :=
  match Text.cutAt? '.' key.toList with
  | some (base, c :: path) => (String.ofList base, some (String.ofList (c :: path)))
  | _ => (String.ofList (Text.dropEndWhile (· = '.') key.toList), none)

/-- The stored value of a service, or of the process; a dotted key names a part of it. -/
def storedValue (flow : Flow) (key : String) (service : Option String) :
    Run State HostError Json := do
  let name ← match service with
    | none => pure Document.processService
    | some name => do
      let _ ← ofExcept (knownService flow name)
      pure name
  let store := (← get).storeFor .service name
  let (base, path) := splitStored key
  readStore store base path

/-- The value of an input of a service. -/
def valueOfInput (i : Flow.Input) : Run State HostError Json :=
  (inputValue i).mapError (.input i.service i.name)

/-- The value of the input of this name. -/
def parameterValue (flow : Flow) (service name : String) : Run State HostError Json := do
  let _ ← ofExcept (knownService flow service)
  match (← get).input? service name with
  | some i => valueOfInput i
  | none => fail (.unknownInput service name)

/-- The values of inputs, one after the other. -/
def valuesOfInputs : List Flow.Input → Run State HostError (Dict Json)
  | [] => return []
  | i :: rest => do
    let value ← valueOfInput i
    return (i.name, value) :: (← valuesOfInputs rest)

/-- The values of all inputs of a service. -/
def inputValues (flow : Flow) (service : String) : Run State HostError (Dict Json) := do
  let _ ← ofExcept (knownService flow service)
  let state ← get
  valuesOfInputs (((state.service? service).map fun s => s.inputs.values).getD [])

end Pageflow.Run
