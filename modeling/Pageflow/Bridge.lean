/-
  Pageflow.Bridge — what stands behind the capabilities of a service.

  A capability is an operation of a remote service or a function of a module.  One that names
  neither is kept together with the reason; it does not keep the others from working.  The support
  module stands in for whatever the backend lacks, and changes results after the fact.

  Main definitions: `Bridge`, `remoteCapability` and `moduleCapability`.
-/
import Pageflow.Remote.Operation

namespace Pageflow

/-! ## §1. Types -/

/-- What a capability is. -/
inductive Capability where
  | remote (o : Remote.Operation)
  | module (c : ModuleCapability)
deriving DecidableEq

/-- Why a capability cannot be used. -/
inductive Unavailable where
  | lookup (e : OpenApi.LookupError)
  | noSelector
  | noFunction (name : String)
deriving DecidableEq

/-- The wording of the reason. -/
def Unavailable.message : Unavailable → String
  | .lookup e => e.message
  | .noSelector => "no operation selector"
  | .noFunction name => "function '" ++ name ++ "' not found in client module"

/-- The bridge of a service. -/
structure Bridge where
  service : String
  capabilities : Dict (Except Unavailable Capability) := []

namespace Bridge

/-- Why a bridge does not have a capability. -/
inductive Missing where
  | unavailable (name : String) (reason : Unavailable)
  | unknown (name service : String)
deriving DecidableEq

/-- The wording of the refusal. -/
def Missing.message : Missing → String
  | .unavailable name reason => "Capability '" ++ name ++ "' is not available: " ++ reason.message
  | .unknown name service =>
    "Capability '" ++ name ++ "' not found in bridge of service '" ++ service ++ "'"

/-- The capability of this name. -/
def capability (b : Bridge) (name : String) : Except Missing Capability :=
  match b.capabilities.get? name with
  | some (.ok c) => .ok c
  | some (.error reason) => .error (.unavailable name reason)
  | none => .error (.unknown name b.service)

/-! ## §2. Functions of the support module -/

/-- The function that changes the results of a capability, if the support module has it. -/
def postProcess (name : String) (definition : Document.Capability) (support : Option Module) :
    Noted (Option Function) :=
  match definition.postProcess with
  | none => return none
  | some function =>
    match support.bind fun m => m.get? function with
    | some f => return some f
    | none => do
      Noted.note (.error "postProcess function not found in support module"
        [("capability", name), ("function", function)])
      return none

/-- A function as a capability. -/
def functionCapability (name : String) (definition : Document.Capability)
    (support : Option Module) (f : Function) : Noted Capability := do
  return .module ⟨name, f, ← postProcess name definition support⟩

/-- The function of the support module that stands in for a capability. -/
def standIn? (definition : Document.Capability) (support : Option Module) : Option Function :=
  support.bind fun m => definition.functionName.bind fun name => m.get? name

/-! ## §3. Capabilities -/

/-- The operation that a definition selects. -/
def selected (definition : Document.Capability) (document : Json) :
    Except Unavailable OpenApi.Operation :=
  match definition.operation with
  | none => .error .noSelector
  | some selector => (OpenApi.findOperation document selector).mapError .lookup

/-- A capability of an OpenAPI document. -/
def remoteCapability (document : Json) (backend : Remote.Backend) (support : Option Module)
    (name : String) (definition : Document.Capability) :
    Noted (Except Unavailable Capability) :=
  match selected definition document with
  | .ok operation => do
    return .ok (.remote
      { capability := name, operation, backend,
        postProcess := ← postProcess name definition support })
  | .error reason =>
    match standIn? definition support with
    | some f => do return .ok (← functionCapability name definition support f)
    | none => return .error reason

/-- A capability of a client module. -/
def moduleCapability (client : Module) (support : Option Module) (name : String)
    (definition : Document.Capability) : Noted (Except Unavailable Capability) :=
  let function := definition.functionName.getD name
  match client.get? function |>.or (standIn? definition support) with
  | some f => do return .ok (← functionCapability name definition support f)
  | none => return .error (.noFunction function)

/-- What is noted of a capability that cannot be used. -/
def unavailableNotes (service name : String) : Except Unavailable Capability → List Note
  | .ok _ => []
  | .error reason =>
    [.error "capability could not be resolved"
      [("service", service), ("capability", name), ("reason", reason.message)]]

/-- The bridge with these definitions, each made a capability by `resolve`. -/
def ofDefinitions (service : String) (definitions : Dict Document.Capability)
    (resolve : String → Document.Capability → Noted (Except Unavailable Capability)) :
    Noted Bridge := do
  let capabilities ← definitions.mapM fun (name, definition) => do
    return (name, ← resolve name definition)
  Noted.mk () (capabilities.flatMap fun (name, c) => unavailableNotes service name c)
  Noted.note ⟨.debug, "bridge loaded",
    [("service", .text service), ("capabilities", .count capabilities.length)]⟩
  return { service, capabilities }

end Bridge

end Pageflow
