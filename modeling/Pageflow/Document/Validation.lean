/-
  Pageflow.Document.Validation — the rules that the shape of a document does not express.

  Every check walks a part of a document in the order in which it is written and lists the
  violations it meets, with their places from the root of the document.

  Main definitions: `validatePage`, `validateProcess` and `validateBridge`.
-/
import Pageflow.Document.Page
import Pageflow.Document.Violation

namespace Pageflow.Document

/-! ## §1. Small checks -/

/-- A violation unless the condition holds. -/
def demand (ok : Bool) (place : List String) (rule : Rule) : List Violation :=
  if ok then [] else [⟨place, rule⟩]

/-- Checks every entry of a dictionary at its own place. -/
def checkEntries {α : Type} (check : List String → α → List Violation) (place : List String)
    (d : Dict α) : List Violation :=
  d.flatMap fun (name, a) => check (place ++ [name]) a

/-- The key of a place in a store is not blank. -/
def checkStore (place : List String) : Option StoreTarget → List Violation
  | some target => demand (!Text.isBlank target.key) (place ++ ["key"]) .notEmpty
  | none => []

/-! ## §2. Parameters -/

mutual

/-- A parameter, and every parameter of the activities it generates. -/
def checkParameter (place : List String) : Parameter → List Violation
  | ⟨_, _, _, _, _, store, _, generate, _, _⟩ =>
    checkStore (place ++ ["store"]) store ++ checkGenerate? (place ++ ["generate"]) generate

/-- An optional generated value. -/
def checkGenerate? (place : List String) : Option (GenerateOf Parameter) → List Violation
  | none => []
  | some g => checkGenerate place g

/-- A generated value. -/
def checkGenerate (place : List String) : GenerateOf Parameter → List Violation
  | ⟨bridgeCapability, moduleFunction, parameters⟩ =>
    demand (bridgeCapability.isSome != moduleFunction.isSome) place .oneGenerator
      ++ checkParameters (place ++ ["parameters"]) parameters

/-- The entries of a dictionary of parameters. -/
def checkParameters (place : List String) : List (String × Parameter) → List Violation
  | [] => []
  | (name, p) :: rest => checkParameter (place ++ [name]) p ++ checkParameters place rest

end

/-- A shared parameter; a bare name cannot be wrong. -/
def checkShared (place : List String) : SharedParameter → List Violation
  | .field _ => []
  | .definition p => checkParameter place p

/-! ## §3. Activities and sequences -/

/-- Exactly one of a capability and a function. -/
def checkExecution (place : List String) (capability function : Option String) :
    List Violation :=
  match capability, function with
  | some _, some _ => [⟨place, .oneExecution⟩]
  | none, none => [⟨place, .executionGiven⟩]
  | _, _ => []

/-- Names of required activities, numbered from `index` on. -/
def checkRequired (place : List String) : Nat → List Required → List Violation
  | _, [] => []
  | index, r :: rest =>
    demand (!Text.isBlank r.activityName)
        (place ++ ["requiredActivities", toString index, "activityName"]) .notEmpty
      ++ checkRequired place (index + 1) rest

mutual

/-- An activity and every activity inside it. -/
def checkActivity (place : List String) : Activity → List Violation
  | ⟨_, _, bridgeCapability, moduleFunction, parameters, requestBody, requiredActivities,
      subActivities, storeResult, _, _, _⟩ =>
    checkExecution place bridgeCapability moduleFunction
      ++ checkStore (place ++ ["storeResult"]) storeResult
      ++ checkRequired place 0 requiredActivities
      ++ checkParameters (place ++ ["parameters"]) parameters
      ++ checkParameters (place ++ ["requestBody"]) (requestBody.getD [])
      ++ checkActivities (place ++ ["subActivities"]) subActivities

/-- The entries of a dictionary of activities. -/
def checkActivities (place : List String) : List (String × Activity) → List Violation
  | [] => []
  | (name, a) :: rest => checkActivity (place ++ [name]) a ++ checkActivities place rest

end

/-- An activity of the process; of a reference only the activities inside. -/
def checkCommonActivity (place : List String) : CommonActivity → List Violation
  | .definition a => checkActivity place a
  | .reference r => checkActivities (place ++ ["subActivities"]) r.subActivities

/-- A sequence names at least one activity. -/
def checkSequence (place : List String) (s : Sequence) : List Violation :=
  demand (!s.activities.isEmpty) (place ++ ["activities"]) .notEmpty

/-! ## §4. Bridges -/

/-- A capability has a target, and its selector is complete. -/
def checkCapability (place : List String) (c : Capability) : List Violation :=
  match c.operation, c.functionName with
  | none, none => [⟨place, .targetGiven⟩]
  | some s, _ =>
    demand ((s.path.isSome && s.method.isSome) || s.operationId.isSome) (place ++ ["operation"])
      .selectorComplete
  | none, some _ => []

/-- A bridge document. -/
def validateBridge (b : Bridge) : List Violation :=
  demand (b.execute.isOpenApi || b.execute.clientModuleUri.isSome) ["execute"] .backendGiven
    ++ checkEntries checkCapability ["capabilities"] b.capabilities

/-- The bridge of a service, with its document if that is spelled out. -/
def checkBinding (place : List String) : Option Binding → List Violation
  | none => []
  | some b =>
    demand (!b.source.isEmpty) (place ++ ["source"]) .originGiven
      ++ match b.source.inline with
        | some document =>
          (validateBridge document).map (·.under (place ++ ["source", "instance"]))
        | none => []

/-! ## §5. Processes and pages -/

/-- A service of a process. -/
def checkService (place : List String) (s : Service) : List Violation :=
  checkActivities (place ++ ["activities"]) s.activities
    ++ checkEntries checkSequence (place ++ ["sequences"]) s.sequences
    ++ checkEntries checkShared (place ++ ["parameters"]) s.parameters
    ++ checkBinding (place ++ ["bridge"]) s.bridge

/-- A process document. -/
def validateProcess (p : Process) : List Violation :=
  checkEntries checkService ["services"] p.services
    ++ checkEntries checkCommonActivity ["common", "activities"] p.common.activities
    ++ checkEntries checkSequence ["common", "sequences"] p.common.sequences
    ++ checkEntries checkShared ["common", "parameters"] p.common.parameters

/-- What a page says about a service. -/
def checkPageService (place : List String) (s : PageService) : List Violation :=
  checkBinding (place ++ ["bridge"]) s.bridge
    ++ checkEntries checkShared (place ++ ["parameters"]) s.parameters

/-- A page document, with its process if that is spelled out. -/
def validatePage (p : Page) : List Violation :=
  demand (!p.process.isEmpty) ["process"] .originGiven
    ++ checkEntries checkPageService ["services"] p.services
    ++ checkEntries checkShared ["common", "parameters"] p.common.parameters
    ++ match p.process.inline with
      | some process => (validateProcess process).map (·.under ["process", "instance"])
      | none => []

end Pageflow.Document
