/-
  Pageflow.Load.Page — loading a page.

  The page is checked, then its process, then both together; the modules are found, the bridges
  of all services are loaded, and the flow is assembled.  With validation whatever is wrong with a
  document is fatal; without it only the integrity checks asked for are.

  Main definitions: `effectiveBinding`, `loadDocument` and `loadPage`.
-/
import Pageflow.Flow.Assembly
import Pageflow.Load.Bridge

namespace Pageflow.Load

variable {σ : Type}

/-! ## §1. Options -/

/-- What is fatal. -/
structure Options where
  /-- Whether violations are; then every integrity check is as well. -/
  validate : Bool := true
  /-- The integrity checks that are. -/
  integrity : List Check := []
deriving DecidableEq, Inhabited

/-- The integrity checks that are fatal. -/
def Options.fatal (o : Options) : List Check := if o.validate then Check.all else o.integrity

/-! ## §2. Steps of loading -/

/-- Fails with the problems of fatal checks; those of other checks are noted first. -/
def checkIntegrity [Journal σ] (fatal : List Check) (page : Document.Page)
    (process : Document.Process) : Run σ LoadError Unit := do
  Run.notes (problemNotes fatal page process)
  let problems := fatalProblems fatal page process
  if !problems.isEmpty then Run.fail (.integrity problems)

/-- The process of a page and its place; one that is spelled out is where the page is. -/
def processOf [Journal σ] (page : Document.Page) (base : Location) :
    Run σ LoadError (Document.Process × Location) :=
  match page.process.inline, page.process.uri with
  | some process, _ => return (process, base)
  | none, some uri => do
    let l ← locate base uri
    return (← fetchTyped .process Document.readProcess l, l)
  | none, none => Run.fail .missingProcess

/-- The module at a place that may be missing. -/
def findModule? (registry : Registry) (place : Option String) :
    Except LoadError (Option Module) :=
  match place with
  | none => .ok none
  | some place => (findModule registry place).map some

/-- The module of a process, with that of its page over it. -/
def processModule [Journal σ] (registry : Registry) (page : Document.Page)
    (process : Document.Process) : Run σ LoadError Module := do
  let base ← Run.ofExcept (findModule? registry process.scriptUri)
  match ← Run.ofExcept (findModule? registry page.scriptUri) with
  | none => return base.getD []
  | some more => Run.noted (Module.merge (base.getD []) more)

/-! ## §3. Bindings -/

/-- A binding whose source is given. -/
def sourced? (binding : Option Document.Binding) : Option Document.Binding :=
  binding.filter fun b => !b.source.isEmpty

/-- The binding with a source, and where its references start from: that of the process counts
before that of the page. -/
def sourceBinding? (fromProcess fromPage : Option Document.Binding)
    (processBase pageBase : Location) : Option (Document.Binding × Location) :=
  match sourced? fromProcess, sourced? fromPage with
  | some b, _ => some (b, processBase)
  | none, some b => some (b, pageBase)
  | none, none => none

/-- The server of a binding: the page's, else its own, else that of the process. -/
def boundServer (b : Document.Binding) (fromProcess fromPage : Option Document.Binding) :
    Option Document.ValueSource :=
  (fromPage.bind Document.Binding.server).or
    (b.server.or (fromProcess.bind Document.Binding.server))

/-- The credentials of a binding: the page's if it has any, else its own. -/
def boundAuthorization (b : Document.Binding) (fromPage : Option Document.Binding) :
    Dict Document.ValueSource :=
  let authorization := (fromPage.map Document.Binding.authorization).getD []
  if authorization.isEmpty then b.authorization else authorization

/-- The binding in effect for a service. -/
def effectiveBinding (page : Document.Page) (process : Document.Process)
    (pageBase processBase : Location) (service : String) : Option Bound :=
  let fromProcess := (process.services.get? service).bind Document.Service.bridge
  let fromPage := (page.services.get? service).bind Document.PageService.bridge
  (sourceBinding? fromProcess fromPage processBase pageBase).map fun (b, base) =>
    { service, base
      binding := { b with
        server := boundServer b fromProcess fromPage
        authorization := boundAuthorization b fromPage } }

/-! ## §4. Pages -/

/-- What is noted of a flow. -/
def flowNotes (process : Document.Process) (flow : Flow) : List Note :=
  (flow.inactive.map fun a => .warn "activity is inactive" [("activity", a.label)])
    ++ [⟨.info, "process loaded",
      [("title", .text flow.title), ("services", .count process.services.length),
        ("activities", .count flow.arena.length)]⟩]

/-- The flow of documents whose module and bridges are known. -/
def assembled [Journal σ] (materials : Flow.Materials) (page : Document.Page)
    (process : Document.Process) : Run σ LoadError Flow := do
  match ← Run.noted (Flow.assemble? materials page process) with
  | none => Run.endless
  | some flow =>
    Run.notes (flowNotes process flow)
    return flow

/-- The flow of a page at `base`. -/
def loadDocument [Journal σ] (registry : Registry) (options : Options) (page : Document.Page)
    (base : Location) : Run σ LoadError Flow := do
  reportViolations .page (Document.validatePage page) options.validate
  let (process, processBase) ← processOf page base
  reportViolations .process (Document.validateProcess process) options.validate
  checkIntegrity options.fatal page process
  let functions ← processModule registry page process
  let bound := process.services.keys.filterMap (effectiveBinding page process base processBase)
  let bridges ← bridges registry options.validate bound
  assembled { functions, bridges } page process

/-- The flow of the page at a place. -/
def loadPage [Journal σ] (registry : Registry) (options : Options) (l : Location) :
    Run σ LoadError Flow := do
  loadDocument registry options (← fetchTyped .page Document.readPage l) l

end Pageflow.Load
