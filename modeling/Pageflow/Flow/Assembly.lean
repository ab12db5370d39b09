/-
  Pageflow.Flow.Assembly — from documents to a flow.

  First every declared activity gets its place: an activity before its sub-activities, these by
  priority and equal priorities as declared.  Then the parameters of every activity are mapped, in
  the order of places.  A generated value is made by an activity of its own, which is added at
  the end and mapped in its turn; so there are rounds, each for the activities that the one before
  added.

  Main definitions: `layout`, `mapActivity` and `assemble?`.
-/
import Pageflow.Bridge
import Pageflow.Flow.Basic

namespace Pageflow.Flow

open Document (processService)

/-! ## §1. What activities are made from -/

/-- A text, or another one in place of an empty one. -/
def nonEmptyOr (s fallback : String) : String := if s.isEmpty then fallback else s

/-- What is known when activities get their places. -/
structure Materials where
  /-- The process module. -/
  functions : Module
  bridges : Dict Bridge

/-- The strategy of an activity that names a capability. -/
def capabilityStrategy (service name capability : String) (bridge : Option Bridge) :
    Noted (Option Strategy) :=
  if service = processService then do
    Noted.note (.error "process activities cannot use a bridgeCapability"
      [("activity", name), ("capability", capability)])
    return none
  else
    match bridge with
    | none => do
      Noted.note (.error "service has no loaded bridge"
        [("service", service), ("activity", name), ("capability", capability)])
      return none
    | some b =>
      match b.capability capability with
      | .ok (.remote o) => return some (.remote o)
      | .ok (.module c) => return some (.capability c)
      | .error reason => do
        Noted.note (.error reason.message [("service", service), ("activity", name)])
        return none

/-- The strategy of an activity that names a function. -/
def functionStrategy (functions : Module) (service name function : String) :
    Noted (Option Strategy) :=
  match functions.get? function with
  | some f => return some (.function f)
  | none => do
    Noted.note (.error "module function not found"
      [("service", service), ("activity", name), ("function", function)])
    return none

/-- The strategy of an activity; a capability counts first. -/
def strategyOf (functions : Module) (service name : String) (a : Document.Activity)
    (bridge : Option Bridge) : Noted (Option Strategy) :=
  match a.bridgeCapability, a.moduleFunction with
  | some capability, _ => capabilityStrategy service name capability bridge
  | none, some function => functionStrategy functions service name function
  | none, none => do
    Noted.note (.error "activity declares neither bridgeCapability nor moduleFunction"
      [("service", service), ("activity", name)])
    return none

/-- What is noted if a function does not take the parameters of the strategy it comes before. -/
def mismatchNotes (service name : String) (f : Function) : Option Strategy → List Note
  | none => []
  | some s =>
    if f.parameters = s.ownParameterNames then []
    else [.info "preProcess parameters differ from execution parameters"
      [("service", service), ("activity", name), ("pre_process", Text.quotedList f.parameters),
        ("execution", Text.quotedList s.ownParameterNames)]]

/-- The strategy and the function that comes before it; without the function named, the activity
is inactive. -/
def preProcessOf (functions : Module) (service name : String) (a : Document.Activity)
    (strategy : Option Strategy) : Noted (Option Strategy × Option Function) :=
  match a.preProcess with
  | none => return (strategy, none)
  | some function =>
    match functions.get? function with
    | some f => ⟨(strategy, some f), mismatchNotes service name f strategy⟩
    | none => do
      Noted.note (.error "preProcess function not found; activity inactive"
        [("service", service), ("activity", name), ("function", function)])
      return (none, none)

/-- An activity before its place is known. -/
def activityOf (functions : Module) (service name : String) (a : Document.Activity)
    (bridge : Option Bridge) : Noted Activity := do
  let strategy ← strategyOf functions service name a bridge
  let (strategy, preProcess) ← preProcessOf functions service name a strategy
  return {
    name, service, strategy, preProcess
    title := nonEmptyOr a.title name
    required := a.requiredActivities
    storeResult := a.storeResult
    presentation := a.ui
    overrides := a.debug
    definitions := a.parameters
    bodyDefinitions := a.requestBody.getD [] }

/-! ## §2. Places -/

/-- Siblings by priority; equal priorities stay as declared. -/
def byPriority (siblings : List (String × Document.Activity)) :
    List (String × Document.Activity) :=
  siblings.mergeSort fun a b => a.2.effectivePriority.totalLe b.2.effectivePriority

mutual

/-- An activity with siblings by priority at every depth. -/
def arranged : Document.Activity → Document.Activity
  | ⟨title, preProcess, bridgeCapability, moduleFunction, parameters, requestBody,
      requiredActivities, subActivities, storeResult, priority, ui, debug⟩ =>
    ⟨title, preProcess, bridgeCapability, moduleFunction, parameters, requestBody,
      requiredActivities, byPriority (arrangedAll subActivities), storeResult, priority, ui,
      debug⟩

/-- Activities with siblings by priority below each. -/
def arrangedAll : List (String × Document.Activity) → List (String × Document.Activity)
  | [] => []
  | (name, a) :: rest => (name, arranged a) :: arrangedAll rest

end

mutual

/-- The places of an arranged activity and of every activity inside it, from `place` on. -/
def layout (functions : Module) (service : String) (bridge : Option Bridge)
    (parent : Option Nat) (place : Nat) (name : String) (a : Document.Activity) :
    Noted (List Activity) :=
  match a with
  | ⟨_, _, _, _, _, _, _, subActivities, _, _, _, _⟩ => do
    let made ← activityOf functions service name a bridge
    let (inner, places) ← layoutAll functions service bridge (some place) (place + 1)
      subActivities
    return { made with parent, subActivities := places } :: inner

/-- The places of arranged siblings, and where each of them stands. -/
def layoutAll (functions : Module) (service : String) (bridge : Option Bridge)
    (parent : Option Nat) (place : Nat) :
    List (String × Document.Activity) → Noted (List Activity × List Nat)
  | [] => return ([], [])
  | (name, a) :: rest => do
    let these ← layout functions service bridge parent place name a
    let (others, places) ← layoutAll functions service bridge parent (place + these.length) rest
    return (these ++ others, place :: places)

end

/-- The activities at the top of a service, after those that already have their places. -/
def layoutTop (functions : Module) (service : String) (bridge : Option Bridge)
    (arena : List Activity) :
    List (String × Document.Activity) → Noted (List Activity × Dict Nat)
  | [] => return (arena, [])
  | (name, a) :: rest => do
    let these ← layout functions service bridge none arena.length name (arranged a)
    let (arena', places) ← layoutTop functions service bridge (arena ++ these) rest
    return (arena', (name, arena.length) :: places)

/-! ## §3. Services -/

/-- The title of a service: that of the page, else its own, else its name. -/
def titleOf (name : String) (s : Document.Service) (page : Option Document.PageService) : String :=
  nonEmptyOr ((page.bind Document.PageService.title).getD "") (nonEmptyOr s.title name)

/-- The services and the places of their activities. -/
def layoutServices (m : Materials) (page : Document.Page) (arena : List Activity) :
    List (String × Document.Service) → Noted (List Activity × Dict Service)
  | [] => return (arena, [])
  | (name, s) :: rest => do
    let bridge := m.bridges.get? name
    let pageService := page.services.get? name
    let (arena, activities) ← layoutTop m.functions name bridge arena s.activities
    let service : Service :=
      { name, activities
        title := titleOf name s pageService
        ui := s.ui
        sequences := s.sequences
        autostart := s.autostart ++ (pageService.map Document.PageService.autostart).getD []
        hasBridge := bridge.isSome }
    let (arena, services) ← layoutServices m page arena rest
    return (arena, (name, service) :: services)

/-- A reference, and the activities inside it, from `place` on. -/
def layoutReference (functions : Module) (services : Dict Service) (arena : List Activity)
    (name : String) (r : Document.Reference) : Noted (List Activity) := do
  let target := (services.get? r.serviceName).bind fun s => s.activities.get? r.activityName
  let targetTitle := (target.bind fun i => arena[i]?).map Activity.title
  if target.isNone then
    Noted.note (.error "Referenced activity not found"
      [("activity", name), ("service", r.serviceName), ("target", r.activityName)])
  let (inner, places) ← layoutAll functions processService none (some arena.length)
    (arena.length + 1) (byPriority (arrangedAll r.subActivities))
  let made : Activity :=
    { name
      service := processService
      title := (r.title.or targetTitle).getD name
      strategy := target.map Strategy.reference
      overrides := r.debug
      subActivities := places }
  return made :: inner

/-- An entry of the process itself, and the activities inside it. -/
def layoutEntry (functions : Module) (services : Dict Service) (arena : List Activity)
    (name : String) : Document.CommonActivity → Noted (List Activity)
  | .definition a => layout functions processService none none arena.length name (arranged a)
  | .reference r => layoutReference functions services arena name r

/-- The activities of the process itself. -/
def layoutCommon (functions : Module) (services : Dict Service) (arena : List Activity) :
    List (String × Document.CommonActivity) → Noted (List Activity × Dict Nat)
  | [] => return (arena, [])
  | (name, entry) :: rest => do
    let these ← layoutEntry functions services arena name entry
    let (arena', places) ← layoutCommon functions services (arena ++ these) rest
    return (arena', (name, arena.length) :: places)

/-- The flow before parameters are mapped. -/
def declared (m : Materials) (page : Document.Page) (process : Document.Process) :
    Noted Flow := do
  let (arena, services) ← layoutServices m page [] process.services
  let (arena, activities) ← layoutCommon m.functions services arena process.common.activities
  return {
    arena, services
    title := nonEmptyOr process.title page.title
    common :=
      { name := processService
        title := nonEmptyOr process.title processService
        ui := process.common.ui
        activities
        sequences := process.common.sequences
        autostart := process.common.autostart ++ page.common.autostart } }

/-! ## §4. Mapping parameters -/

/-- What parameters are mapped with. -/
structure Mapping where
  materials : Materials
  /-- The shared parameters of each service, in the order in which they are looked up. -/
  shared : Dict (List (Dict Document.SharedParameter))
  /-- The inputs that each service declares. -/
  inputs : Dict (Dict Input)

/-- The definition that a service shares under this name. -/
def Mapping.shared? (m : Mapping) (service name : String) : Option Document.Parameter :=
  (m.shared.get? service).bind fun maps =>
    (maps.findSome? fun shared => shared.get? name).map Document.SharedParameter.toDefinition

/-- The input of a service. -/
def Mapping.input? (m : Mapping) (service name : String) : Option Input :=
  (m.inputs.get? service).bind fun inputs => inputs.get? name

/-- The name of the activity that makes the value of a parameter. -/
def generatorName (activity parameter : String) : String :=
  "PARAMETER-GENERATE-ACTIVITY-" ++ activity ++ "_" ++ parameter

/-- The activity that makes the value of a parameter. -/
def generatorOf (m : Mapping) (service activity parameter : String) (g : Document.Generate) :
    Noted Activity := do
  let name := generatorName activity parameter
  let made ← activityOf m.materials.functions service name
    (Document.Generate.toActivity g name) (m.materials.bridges.get? service)
  return { made with isGenerated := true }

/-- The activities that mapping adds, the first one at `place`. -/
structure Additions where
  place : Nat
  activities : List Activity := []

/-- The place of the next activity. -/
def Additions.next (added : Additions) : Nat := added.place + added.activities.length

/-- Adds an activity. -/
def Additions.push (added : Additions) (a : Activity) : Additions :=
  { added with activities := added.activities ++ [a] }

/-- The source of a parameter.  Without a usable one the value is `null`. -/
def sourceOf (m : Mapping) (service activity parameter : String) (p : Document.Parameter)
    (added : Additions) : Noted (Source × Additions) := do
  match Source.generator? p with
  | some g =>
    let made ← generatorOf m service activity parameter g
    return (.generate added.next, added.push made)
  | none =>
    match Source.ofParameter? p none with
    | some source => return (source, added)
    | none =>
      Noted.note (.error "Undefined parameter assignment"
        [("activity", activity), ("parameter", parameter)])
      return (.constant .null, added)

/-- A dynamic parameter; its generated value has a maker in any case. -/
def dynamicOf (m : Mapping) (service activity parameter : String) (p : Document.Parameter)
    (added : Additions) : Noted (DynamicParameter × Additions) := do
  match p.generate with
  | some g =>
    let made ← generatorOf m service activity parameter g
    return (⟨p, some added.next⟩, added.push made)
  | none => return (⟨p, none⟩, added)

/-- Parameters mapped so far. -/
structure Mapped where
  parameters : Dict Source := []
  dynamicParameters : Dict DynamicParameter := []
  added : Additions

/-- Maps a parameter without a definition: to an input of its name, if there is one. -/
def mapInput (m : Mapping) (service activity name : String) (so : Mapped) : Noted Mapped :=
  match m.input? service name with
  | some i =>
    let source := if i.isFile then Source.fileInput name else Source.input name
    return { so with parameters := so.parameters.insert name source }
  | none => do
    Noted.note (.error ("Missing ActivityParameter: '" ++ name ++ "' of activity: " ++ activity)
      [])
    return so

/-- Maps a parameter with a definition. -/
def mapDefined (m : Mapping) (service activity name : String) (p : Document.Parameter)
    (so : Mapped) : Noted Mapped := do
  if p.isDynamic then
    let (dynamic, added) ← dynamicOf m service activity name p so.added
    return { so with dynamicParameters := so.dynamicParameters.insert name dynamic, added }
  else
    let (source, added) ← sourceOf m service activity name p so.added
    Noted.note (.debug "parameter mapped"
      [("activity", activity), ("parameter", name), ("resolver", source.label)])
    return { so with parameters := so.parameters.insert name source, added }

/-- Maps one parameter: by the definition of the activity, else by one that is shared, else to an
input. -/
def mapName (m : Mapping) (a : Activity) (so : Mapped) (name : String) : Noted Mapped :=
  match (a.definitions.get? name).or (m.shared? a.service name) with
  | some p => mapDefined m a.service a.name name p so
  | none => mapInput m a.service a.name name so

/-- Maps the parts of a request body. -/
def mapBody (m : Mapping) (a : Activity) :
    List (String × Document.Parameter) → Dict Source → Additions →
      Noted (Dict Source × Additions)
  | [], body, added => return (body, added)
  | (part, p) :: rest, body, added => do
    let (source, added) ← sourceOf m a.service a.name part p added
    mapBody m a rest (body.insert part source) added

/-- Maps the request body of an activity; only a remote operation sends one. -/
def mapRequestBody (m : Mapping) (a : Activity) (strategy : Strategy) (added : Additions) :
    Noted (Dict Source × Additions) :=
  if strategy.isRemote then mapBody m a a.bodyDefinitions [] added
  else if a.bodyDefinitions.isEmpty then return ([], added)
  else do
    Noted.note (.warn "requestBody is only sent by remote operations; ignored"
      [("activity", a.name)])
    return ([], added)

/-- What is noted of definitions that the strategy does not ask for. -/
def unusedNotes (a : Activity) (names : List String) : List Note :=
  (a.definitions.keys.filter fun name => !names.contains name).map fun name =>
    .info "parameter is defined but not required by the execution"
      [("activity", a.name), ("parameter", name)]

/-- Maps the parameters of an activity with a strategy of its own. -/
def mapOwn (m : Mapping) (a : Activity) (strategy : Strategy) (added : Additions) :
    Noted (Activity × Additions) := do
  let names := strategy.ownParameterNames
  let mapped ← names.foldlM (mapName m a) { added }
  Noted.mk () (unusedNotes a names)
  let (requestBody, added) ← mapRequestBody m a strategy mapped.added
  return ({ a with
    parameters := mapped.parameters
    dynamicParameters := mapped.dynamicParameters
    requestBody }, added)

/-- Maps the parameters of an activity; one that is inactive or a reference has none. -/
def mapActivity (m : Mapping) (a : Activity) (added : Additions) : Noted (Activity × Additions) :=
  match a.strategy with
  | none => do
    Noted.note (.error "No Parameter-mapping is done for inactive Activity"
      [("service", a.service), ("activity", a.name)])
    return (a, added)
  | some strategy =>
    if strategy.isReference then return (a, added) else mapOwn m a strategy added

/-- Maps activities in the order of their places. -/
def mapRound (m : Mapping) (added : Additions) :
    List Activity → Noted (List Activity × Additions)
  | [] => return ([], added)
  | a :: rest => do
    let (a, added) ← mapActivity m a added
    let (others, added) ← mapRound m added rest
    return (a :: others, added)

/-- Maps activities, then those that this added, and so on; there may be too many rounds. -/
def mapRounds (m : Mapping) : Nat → Nat → List Activity → Noted (Option (List Activity))
  | _, _, [] => return some []
  | 0, _, _ => return none
  | rounds + 1, place, activities => do
    let (mapped, added) ← mapRound m { place } activities
    return (← mapRounds m rounds added.next added.activities).map (mapped ++ ·)

/-! ## §5. Bounds on the rounds -/

mutual

/-- How deep generated values nest in a parameter. -/
def generateDepth : Document.Parameter → Nat
  | ⟨_, _, _, _, _, _, _, generate, _, _⟩ => generateDepth? generate

/-- How deep generated values nest, counting this one. -/
def generateDepth? : Option (Document.GenerateOf Document.Parameter) → Nat
  | none => 0
  | some g => generateDepthOf g

/-- How deep generated values nest, counting this one. -/
def generateDepthOf : Document.GenerateOf Document.Parameter → Nat
  | ⟨_, _, parameters⟩ => generateDepthAll parameters + 1

/-- How deep generated values nest in parameters. -/
def generateDepthAll : List (String × Document.Parameter) → Nat
  | [] => 0
  | (_, p) :: rest => max (generateDepth p) (generateDepthAll rest)

end

/-- The shared parameters of a mapping. -/
def Mapping.allShared (m : Mapping) : List Document.Parameter :=
  m.shared.values.flatten.flatMap fun shared =>
    shared.values.map Document.SharedParameter.toDefinition

/-- How deep generated values nest in any definition. -/
def deepest (m : Mapping) (arena : List Activity) : Nat :=
  ((arena.map fun a => generateDepthAll (a.definitions ++ a.bodyDefinitions))
    ++ m.allShared.map generateDepth).foldl max 0

/-- A number of rounds that suffices unless some shared parameter needs itself: a chain of
generated values goes through each shared parameter once, and down one definition in between. -/
def roundBound (m : Mapping) (arena : List Activity) : Nat :=
  (deepest m arena + 1) * (m.allShared.length + 2)

/-! ## §6. Flows -/

/-- What the parameters of a page and its process are mapped with. -/
def mappingOf (m : Materials) (page : Document.Page) (process : Document.Process) : Mapping where
  materials := m
  shared := Dict.insert
    (Dict.ofList (process.services.map fun (name, s) =>
      (name, s.parameters
        :: ((page.services.get? name).map Document.PageService.parameters).toList)))
    processService [process.common.parameters, page.common.parameters]
  inputs := Dict.insert
    (Dict.ofList (process.services.map fun (name, s) => (name, inputsOf name s.ui)))
    processService (inputsOf processService process.common.ui)

/-- The flow of a page and its process.  There is none if making the value of a shared parameter
needs that very value. -/
def assemble? (m : Materials) (page : Document.Page) (process : Document.Process) :
    Noted (Option Flow) := do
  let flow ← declared m page process
  let mapping := mappingOf m page process
  let arena ← mapRounds mapping (roundBound mapping flow.arena) flow.arena.length flow.arena
  return arena.map fun arena => { flow with arena }

end Pageflow.Flow
