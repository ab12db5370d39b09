/-
  Pageflow.Load.Bridge — loading the bridge of a service.

  The bridge document, the OpenAPI document and the modules are each found relative to the document
  that names them.  Violations are fatal if validation is asked for and only noted otherwise.

  Main definitions: `bridge` and `bridges`.
-/
import Pageflow.Bridge
import Pageflow.Document.Reading
import Pageflow.Document.Validation
import Pageflow.Load.Failure

namespace Pageflow.Load

variable {σ : Type}

/-! ## §1. Steps of loading -/

/-- Fails with violations if they are fatal, and notes them otherwise. -/
def reportViolations [Journal σ] (kind : Kind) (violations : List Document.Violation)
    (fatal : Bool) : Run σ LoadError Unit :=
  if violations.isEmpty then return
  else if fatal then Run.fail (.validation kind violations)
  else Run.notes (violations.map fun v =>
    .warn "document violation ignored" [("kind", kind.label), ("violation", v.line)])

/-- The place that a reference names in a document at `base`. -/
def locate (base : Location) (reference : String) : Run σ LoadError Location :=
  Run.ofExcept ((base.join reference).mapError fun e => .fetch reference (.misplaced e))

/-- The value of a document. -/
def fetchValue [Journal σ] (l : Location) : Run σ LoadError Json :=
  (fetchDocument l).mapError (.fetch l.text)

/-- A document of a kind. -/
def fetchTyped [Journal σ] {α : Type} (kind : Kind) (read : Document.Reader α) (l : Location) :
    Run σ LoadError α := do
  Run.ofExcept ((read (← fetchValue l)).mapError (.parse kind l.text))

/-- The module at a place. -/
def findModule (registry : Registry) (place : String) : Except LoadError Module :=
  match registry.get? place with
  | some m => .ok m
  | none => .error (.moduleNotFound place)

/-! ## §2. One bridge -/

/-- The document of a bridge and its place; one that is spelled out is where the binding is. -/
def bridgeDocument [Journal σ] (service : String) (binding : Document.Binding)
    (base : Location) : Run σ LoadError (Document.Bridge × Location) :=
  match binding.source.inline, binding.source.uri with
  | some document, _ => return (document, base)
  | none, some uri => do
    let l ← locate base uri
    return (← fetchTyped .bridge Document.readBridge l, l)
  | none, none => Run.fail (.bridge service .source)

/-- What serves the capabilities of a bridge. -/
inductive Server where
  | openApi (document : Json)
  | client (m : Module)

/-- The backend of a bridge. -/
def server [Journal σ] (registry : Registry) (service : String) (backend : Document.Backend)
    (base : Location) : Run σ LoadError Server :=
  match backend.openApi, backend.openApiUri, backend.clientModuleUri with
  | some document, _, _ => return .openApi document
  | none, some uri, _ => do return .openApi (← fetchValue (← locate base uri))
  | none, none, some uri => do return .client (← Run.ofExcept (findModule registry uri))
  | none, none, none => Run.fail (.bridge service .backend)

/-- The support module of a bridge. -/
def support (registry : Registry) (document : Document.Bridge) :
    Except LoadError (Option Module) :=
  match document.supportModuleUri with
  | none => .ok none
  | some uri => (findModule registry uri).map some

/-- What the operations of an OpenAPI document share. -/
def backendOf (service : String) (binding : Document.Binding) (document : Document.Bridge)
    (openApi : Json) : Remote.Backend where
  service
  defaultServer := OpenApi.defaultServer? openApi
  schemes := OpenApi.securitySchemes openApi
  server := binding.server
  authorization := binding.authorization
  errorMessagePath := document.errorMessagePath

/-- What is noted of capabilities without an operation. -/
def unresolvedNotes (service : String) (document : Document.Bridge) (openApi : Json) :
    List Note :=
  (OpenApi.unresolved openApi document.capabilities).map fun v =>
    .warn "capability has no matching operation" [("service", service), ("violation", v.line)]

/-- The bridge that a binding at `base` gives a service. -/
def bridge [Journal σ] (registry : Registry) (validate : Bool) (service : String)
    (binding : Document.Binding) (base : Location) : Run σ LoadError Bridge := do
  let (document, place) ← bridgeDocument service binding base
  reportViolations .bridge (Document.validateBridge document) validate
  let backend ← server registry service document.execute place
  let support ← Run.ofExcept (support registry document)
  match backend with
  | .client m =>
    Run.noted (Bridge.ofDefinitions service document.capabilities
      (Bridge.moduleCapability m support))
  | .openApi openApi =>
    reportViolations .openApi (OpenApi.violations openApi) validate
    Run.notes (unresolvedNotes service document openApi)
    Run.noted (Bridge.ofDefinitions service document.capabilities
      (Bridge.remoteCapability openApi (backendOf service binding document openApi) support))

/-! ## §3. All bridges -/

/-- A binding of a service and where its references start from. -/
structure Bound where
  service : String
  binding : Document.Binding
  base : Location

/-- Several bridges, loaded side by side: what became of each, and its log in parts. -/
def outcomes (registry : Registry) (validate : Bool) :
    List Bound → Run σ LoadError (List (Except LoadError Bridge × PartedLog))
  | [] => return []
  | b :: rest => do
    let outcome ← Run.isolated ([] : PartedLog)
      (bridge registry validate b.service b.binding b.base)
    return outcome :: (← outcomes registry validate rest)

/-- Whether a failure keeps the page from loading. -/
def isFatal (validate : Bool) : LoadError → Bool
  | .validation _ _ => validate
  | _ => false

/-- The bridges that could be loaded.  A service whose bridge could not goes without. -/
def keepLoaded [Journal σ] (validate : Bool) :
    List (String × Except LoadError Bridge) → Run σ LoadError (Dict Bridge)
  | [] => return []
  | (service, .ok b) :: rest => do return (service, b) :: (← keepLoaded validate rest)
  | (service, .error e) :: rest =>
    if isFatal validate e then Run.fail e
    else do
      Run.note (.error "Loading bridge failed; activities of the service stay inactive"
        [("service", service), ("error", e.message)])
      keepLoaded validate rest

/-- The greatest number of parts of the log of one bridge: it waits for two documents. -/
def bridgeRounds : Nat := 3

/-- The bridges of services. -/
def bridges [Journal σ] (registry : Registry) (validate : Bool) (bound : List Bound) :
    Run σ LoadError (Dict Bridge) := do
  let results ← outcomes registry validate bound
  Run.notes (sideBySide bridgeRounds (results.map fun (_, log) => log.reverse))
  keepLoaded validate ((bound.map Bound.service).zip (results.map Prod.fst))

end Pageflow.Load
