/-
  Pageflow.Run.Parameters — the values that an activity is called with.

  A value comes from an input, from the results before the activity, from a store, from the query
  of the page, or from an activity that makes it.  Only a file that cannot be read makes a value
  fail; whatever else is missing is `null`.  A dynamic parameter chooses its source anew, and one
  that fails is left out.

  Main definitions: `sourceValue`, `parameterValues`, `requestBody` and `endpoint`.
-/
import Pageflow.Flow.Basic
import Pageflow.Remote.Operation
import Pageflow.Run.Input

namespace Pageflow.Run

open Document (StoreScope ValueSource)
open Pageflow.Flow (Activity Source)

/-! ## §1. Stores -/

namespace State

/-- The store that a scope names for a service. -/
def storeFor (s : State) (scope : StoreScope) (service : String) : Store :=
  match scope with
  | .activity => s.scratch
  | .process => s.process.store
  | .service => ((s.service? service).map ServiceState.store).getD s.process.store

/-- Changes the store that a scope names for a service. -/
def modifyStore (s : State) (scope : StoreScope) (service : String) (f : Store → Store) : State :=
  let inService (name : String) : State :=
    s.modifyService name fun service => { service with store := f service.store }
  match scope with
  | .activity => { s with scratch := f s.scratch }
  | .process => inService Document.processService
  | .service =>
    inService (if (s.service? service).isSome then service else Document.processService)

end State

variable {ε : Type}

/-- The value under a key; a key that was never written is mentioned in the log. -/
def readKey (store : Store) (key : String) : Run State ε Json := do
  notes (store.missNotes key)
  return store.read key

/-- The value under a key, or the part of it at a path. -/
def readStore (store : Store) (key : String) (path : Option String) : Run State ε Json := do
  let value ← readKey store key
  match path with
  | none => return value
  | some path => return (value.select path).getD .null

/-! ## §2. Sources -/

/-- How the activity that makes a generated value is run. -/
abbrev Maker := Nat → Run State ActivityFailure Json

/-- The value of an input that a source names. -/
def boundInput (service name : String) : Run State ExecutionError Json := do
  match (← get).input? service name with
  | some i => inputValue i
  | none =>
    note (.warn "bound input does not exist" [("service", service), ("input", name)])
    return .null

/-- The generated value; a failure to make it is mentioned in the log. -/
def madeValue (make : Maker) (activity : String) (maker : Nat) :
    Run State ExecutionError Json := do
  match ← attempt (make maker) with
  | .ok value => return value
  | .error e =>
    note (.error ("GenerateVariable-activity failed: " ++ e.message) [("activity", activity)])
    return .null

/-- The value of a source. -/
def sourceValue (make : Maker) (a : Activity) (before : Inherited) :
    Source → Run State ExecutionError Json
  | .input name | .fileInput name => boundInput a.service name
  | .parentResult => return before.parent.getD .null
  | .previousResult => return before.previous.getD .null
  | .constant value => return value
  | .store scope key path => do readStore ((← get).storeFor scope a.service) key path
  | .queryParam name => do return .ofText? ((← get).query.get? name)
  | .generate maker => madeValue make a.name maker

/-! ## §3. Parameters -/

/-- The values of sources, one after the other. -/
def sourceValues (make : Maker) (a : Activity) (before : Inherited) :
    List (String × Source) → Dict Json → Run State ExecutionError (Dict Json)
  | [], values => return values
  | (name, source) :: rest, values => do
    let value ← sourceValue make a before source
    sourceValues make a before rest (values.insert name value)

/-- The value of a dynamic parameter, if it has one now. -/
def dynamicValue (make : Maker) (a : Activity) (before : Inherited) (name : String)
    (p : Flow.DynamicParameter) : Run State ExecutionError (Option Json) :=
  match p.source? with
  | none => do
    note (.warn "Undefined parameter assignment for dynamic parameter"
      [("activity", a.name), ("parameter", name)])
    return none
  | some source => do
    match ← attempt (sourceValue make a before source) with
    | .ok value => return some value
    | .error (e : ExecutionError) =>
      note (.warn "dynamic parameter failed"
        [("activity", a.name), ("parameter", name), ("error", e.message)])
      return none

/-- The values of dynamic parameters, one after the other. -/
def dynamicValues (make : Maker) (a : Activity) (before : Inherited) :
    List (String × Flow.DynamicParameter) → Dict Json → Run State ExecutionError (Dict Json)
  | [], values => return values
  | (name, p) :: rest, values => do
    match ← dynamicValue make a before name p with
    | some value => dynamicValues make a before rest (values.insert name value)
    | none => dynamicValues make a before rest values

/-- The values of all parameters of an activity. -/
def parameterValues (make : Maker) (a : Activity) (before : Inherited) :
    Run State ExecutionError (Dict Json) := do
  let values ← sourceValues make a before a.parameters []
  dynamicValues make a before a.dynamicParameters values

/-- The part of a request body that is the whole of it. -/
def wholeBody : String := "data"

/-- The request body of an activity, if it has one. -/
def requestBody (make : Maker) (a : Activity) (before : Inherited) :
    Run State ExecutionError (Option Json) :=
  if a.requestBody.isEmpty then return none
  else
    match a.requestBody.get? wholeBody with
    | some source => do
      if 1 < a.requestBody.length then
        note (.warn "requestBody declares 'data' next to other parts; only 'data' is sent"
          [("activity", a.name)])
      return some (← sourceValue make a before source)
    | none => do return some (.object (← sourceValues make a before a.requestBody []))

/-! ## §4. Servers and credentials -/

/-- The text of an input, unless it is empty or there is none. -/
def fieldText (service name : String) : Run State ε (Option String) := do
  match (← get).input? service name with
  | none => return none
  | some i =>
    match ← attempt (inputValue i) with
    | .ok .null => return none
    | .ok value => return if value.toText.isEmpty then none else some value.toText
    | .error (e : ExecutionError) =>
      note (.warn "value source field could not be read"
        [("service", service), ("field", name), ("error", e.message)])
      return none

/-- The text that a server or a credential has now. -/
def textOf (service : String) : ValueSource → Run State ε (Option String)
  | .literal s | .constant s => return some s
  | .queryParam name => do return (← get).query.get? name
  | .field name => fieldText service name

/-- The credentials that there are now, by scheme. -/
def credentials (service : String) :
    List (String × ValueSource) → Run State ε (Dict String)
  | [] => return []
  | (scheme, source) :: rest => do
    match ← textOf service source with
    | some credential => return (scheme, credential) :: (← credentials service rest)
    | none =>
      note (.debug "no credential available" [("service", service), ("scheme", scheme)])
      credentials service rest

/-- The server and the credentials of a call. -/
def endpoint (backend : Remote.Backend) : Run State ε Remote.Endpoint := do
  let server ← match backend.server with
    | some source => textOf backend.service source
    | none => pure none
  return { server, credentials := ← credentials backend.service backend.authorization }

end Pageflow.Run
