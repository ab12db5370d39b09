/-
  Pageflow.Proofs.Steady — documents without their dynamic flags.

  The flags of a document say which parameters choose their source anew on every run.  To take them
  away touches nothing else, and it does not matter whether it is done before activities get their
  places or after: what is laid out, what is shared and what is declared as an input is the same but
  for the flags in the definitions.  So documents that differ in their flags only have flows with
  the same activities at the same places before parameters are mapped.

  Main definitions: `Parameter.steady`, `Process.steady`, `Page.steady` and `Flow.Activity.Twin`.
  Main statements: `declared_steady`, `choice?_steady` and `twins_of_steady`.
-/
import Pageflow.Proofs.Precedence

namespace Pageflow

/-- To write entries and change the values then is to change the values first. -/
theorem Dict.mapValues_ofList {α β : Type} (f : α → β) (entries : List (String × α)) :
    (Dict.ofList entries).mapValues f = Dict.ofList (Dict.mapValues f entries) := by
  suffices h : ∀ (entries : List (String × α)) (d : Dict α),
      (d.insertAll entries).mapValues f = (d.mapValues f).insertAll (Dict.mapValues f entries) from
    h entries []
  intro entries
  induction entries with
  | nil => exact fun _ => rfl
  | cons e rest ih =>
    intro d
    refine (ih (d.insert e.1 e.2)).trans ?_
    rw [Dict.mapValues_insert]
    rfl

namespace Document

/-! ## §1. Definitions. -/

mutual

/-- The definition without the flags in it. -/
def Parameter.steady : Parameter → Parameter
  | ⟨valueType, field, parent, previous, constant, store, queryParam, generate, fileInput, _⟩ =>
    ⟨valueType, field, parent, previous, constant, store, queryParam, steadyGenerate? generate,
      fileInput, false⟩

/-- A generated value without the flags in it, if there is one. -/
def steadyGenerate? : Option (GenerateOf Parameter) → Option (GenerateOf Parameter)
  | none => none
  | some g => some (steadyGenerate g)

/-- A generated value without the flags in it. -/
def steadyGenerate : GenerateOf Parameter → GenerateOf Parameter
  | ⟨bridgeCapability, moduleFunction, parameters⟩ =>
    ⟨bridgeCapability, moduleFunction, steadyParameters parameters⟩

/-- Definitions without the flags in them. -/
def steadyParameters : List (String × Parameter) → List (String × Parameter)
  | [] => []
  | (name, p) :: rest => (name, p.steady) :: steadyParameters rest

end

theorem steadyParameters_eq :
    ∀ definitions : List (String × Parameter),
      steadyParameters definitions = Dict.mapValues Parameter.steady definitions
  | [] => rfl
  | (name, p) :: rest => by
    rw [steadyParameters, steadyParameters_eq rest]
    rfl

theorem steadyGenerate?_eq (g : Option Generate) : steadyGenerate? g = g.map steadyGenerate := by
  cases g <;> rfl

theorem Parameter.steady_generate (p : Parameter) :
    p.steady.generate = p.generate.map steadyGenerate := by
  cases p
  exact steadyGenerate?_eq _

/-- A shared definition without the flags in it. -/
def SharedParameter.steady : SharedParameter → SharedParameter
  | field name => field name
  | definition p => definition p.steady

theorem SharedParameter.steady_toDefinition (s : SharedParameter) :
    s.steady.toDefinition = s.toDefinition.steady := by
  cases s <;> rfl

/-! ## §2. Documents. -/

mutual

/-- The activity without the flags in it. -/
def Activity.steady : Activity → Activity
  | ⟨title, preProcess, bridgeCapability, moduleFunction, parameters, requestBody,
      requiredActivities, subActivities, storeResult, priority, ui, debug⟩ =>
    ⟨title, preProcess, bridgeCapability, moduleFunction,
      Dict.mapValues Parameter.steady parameters, requestBody.map (Dict.mapValues Parameter.steady),
      requiredActivities, steadyActivities subActivities, storeResult, priority, ui, debug⟩

/-- Activities without the flags in them. -/
def steadyActivities : List (String × Activity) → List (String × Activity)
  | [] => []
  | (name, a) :: rest => (name, a.steady) :: steadyActivities rest

end

/-- A reference without the flags inside it. -/
def Reference.steady (r : Reference) : Reference :=
  { r with subActivities := steadyActivities r.subActivities }

/-- An entry of the process without the flags in it. -/
def CommonActivity.steady : CommonActivity → CommonActivity
  | reference r => reference r.steady
  | definition a => definition a.steady

/-- A service without the flags in it. -/
def Service.steady (s : Service) : Service :=
  { s with
    activities := steadyActivities s.activities
    parameters := s.parameters.mapValues SharedParameter.steady }

/-- What belongs to the process itself, without the flags in it. -/
def Common.steady (c : Common) : Common :=
  { c with
    activities := c.activities.mapValues CommonActivity.steady
    parameters := c.parameters.mapValues SharedParameter.steady }

/-- The process without the flags in it. -/
def Process.steady (p : Process) : Process :=
  { p with services := p.services.mapValues Service.steady, common := p.common.steady }

/-- What a page says about a service, without the flags in it. -/
def PageService.steady (s : PageService) : PageService :=
  { s with parameters := s.parameters.mapValues SharedParameter.steady }

/-- The page without the flags in it, a process that it spells out included. -/
def Page.steady (p : Page) : Page :=
  { p with
    process := { p.process with inline := p.process.inline.map Process.steady }
    services := p.services.mapValues PageService.steady
    common := { p.common with
      parameters := p.common.parameters.mapValues SharedParameter.steady } }

theorem steadyActivities_eq (activities : List (String × Activity)) :
    steadyActivities activities = Dict.mapValues Activity.steady activities := by
  induction activities with
  | nil => rfl
  | cons e rest ih =>
    rw [steadyActivities, ih]
    rfl

theorem Activity.steady_subActivities (a : Activity) :
    a.steady.subActivities = steadyActivities a.subActivities := by
  cases a
  rfl

theorem Activity.steady_priority (a : Activity) :
    a.steady.effectivePriority = a.effectivePriority := by
  cases a
  rfl

end Document

namespace Flow

open Document (Activity.steady steadyActivities processService)

/-! ## §3. Activities at their places. -/

/-- The activity without the flags in the definitions that its parameters are mapped from. -/
def Activity.steady (a : Activity) : Activity :=
  { a with
    definitions := a.definitions.mapValues Document.Parameter.steady
    bodyDefinitions := a.bodyDefinitions.mapValues Document.Parameter.steady }

section Layout

variable (functions : Module) (service : String) (bridge : Option Bridge)

/-- **An activity is made in the same way without flags.** -/
theorem activityOf_steady (name : String) (a : Document.Activity) :
    (activityOf functions service name a.steady bridge).value
      = (activityOf functions service name a bridge).value.steady := by
  obtain ⟨_, _, _, _, _, requestBody, _, _, _, _, _, _⟩ := a
  cases requestBody <;> rfl

mutual

theorem layout_steady (parent : Option Nat) (place : Nat) (name : String) :
    ∀ a : Document.Activity,
      (layout functions service bridge parent place name a.steady).value
        = (layout functions service bridge parent place name a).value.map Activity.steady
  | ⟨title, preProcess, bridgeCapability, moduleFunction, parameters, requestBody,
      requiredActivities, subActivities, storeResult, priority, ui, debug⟩ => by
    rw [layout_value, layout_value, unplaced, activityOf_steady,
      Document.Activity.steady_subActivities,
      layoutAll_steady (some place) (place + 1) subActivities]
    rfl

theorem layoutAll_steady (parent : Option Nat) (place : Nat) :
    ∀ siblings : List (String × Document.Activity),
      (layoutAll functions service bridge parent place (steadyActivities siblings)).value
        = ((layoutAll functions service bridge parent place siblings).value.1.map Activity.steady,
          (layoutAll functions service bridge parent place siblings).value.2)
  | [] => rfl
  | (name, a) :: rest => by
    simp only [steadyActivities, layoutAll, Noted.value_bind, Noted.value_pure]
    rw [layout_steady parent place name a, List.length_map, layoutAll_steady parent _ rest,
      List.map_append]

end

end Layout

/-- Siblings are put in order by what has no flags. -/
theorem byPriority_steady (siblings : List (String × Document.Activity)) :
    byPriority (steadyActivities siblings) = steadyActivities (byPriority siblings) := by
  rw [Document.steadyActivities_eq, Document.steadyActivities_eq]
  refine (List.map_mergeSort ?_).symm
  intro x _ y _
  rw [Document.Activity.steady_priority, Document.Activity.steady_priority]

mutual

theorem arranged_steady : ∀ a : Document.Activity, arranged a.steady = (arranged a).steady
  | ⟨title, preProcess, bridgeCapability, moduleFunction, parameters, requestBody,
      requiredActivities, subActivities, storeResult, priority, ui, debug⟩ => by
    rw [Document.Activity.steady, arranged, arranged, arrangedAll_steady subActivities,
      byPriority_steady]
    rfl

theorem arrangedAll_steady :
    ∀ siblings : List (String × Document.Activity),
      arrangedAll (steadyActivities siblings) = steadyActivities (arrangedAll siblings)
  | [] => rfl
  | (name, a) :: rest => by
    rw [steadyActivities, arrangedAll, arranged_steady a, arrangedAll_steady rest]
    rfl

end

/-! ## §4. Services and the process. -/

theorem layoutTop_steady (functions : Module) (service : String) (bridge : Option Bridge) :
    ∀ (entries : List (String × Document.Activity)) (arena : List Activity),
      (layoutTop functions service bridge (arena.map Activity.steady)
          (steadyActivities entries)).value
        = ((layoutTop functions service bridge arena entries).value.1.map Activity.steady,
          (layoutTop functions service bridge arena entries).value.2)
  | [], _ => rfl
  | (name, a) :: rest, arena => by
    simp only [steadyActivities, layoutTop, Noted.value_bind, Noted.value_pure, List.length_map]
    rw [arranged_steady, layout_steady, ← List.map_append,
      layoutTop_steady functions service bridge rest]

theorem layoutServices_steady (m : Materials) (page : Document.Page) :
    ∀ (entries : List (String × Document.Service)) (arena : List Activity),
      (layoutServices m page.steady (arena.map Activity.steady)
          (Dict.mapValues Document.Service.steady entries)).value
        = ((layoutServices m page arena entries).value.1.map Activity.steady,
          (layoutServices m page arena entries).value.2)
  | [], _ => rfl
  | (name, s) :: rest, arena => by
    have hpage : page.steady.services.get? name
        = (page.services.get? name).map Document.PageService.steady := Dict.get?_mapValues ..
    simp only [Dict.mapValues, List.map_cons, layoutServices, Noted.value_bind, Noted.value_pure]
    rw [hpage, show s.steady.activities = steadyActivities s.activities from rfl, layoutTop_steady]
    have others := layoutServices_steady m page rest
      (layoutTop m.functions name (m.bridges.get? name) arena s.activities).value.1
    rw [Dict.mapValues] at others
    rw [others]
    cases page.services.get? name <;> rfl

/-- The title that a reference takes over has no flags. -/
theorem title_steady (arena : List Activity) (target : Option Nat) :
    (target.bind fun i => (arena.map Activity.steady)[i]?).map Activity.title
      = (target.bind fun i => arena[i]?).map Activity.title := by
  cases target with
  | none => rfl
  | some i =>
    simp only [Option.bind_some, List.getElem?_map, Option.map_map]
    rfl

theorem layoutEntry_steady (functions : Module) (services : Dict Service) (arena : List Activity)
    (name : String) (entry : Document.CommonActivity) :
    (layoutEntry functions services (arena.map Activity.steady) name entry.steady).value
      = (layoutEntry functions services arena name entry).value.map Activity.steady := by
  cases entry with
  | definition a =>
    simp only [Document.CommonActivity.steady, layoutEntry, List.length_map]
    rw [arranged_steady, layout_steady]
  | reference r =>
    simp only [Document.CommonActivity.steady, layoutEntry]
    rw [layoutReference_value, layoutReference_value, List.length_map,
      show r.steady.subActivities = steadyActivities r.subActivities from rfl,
      arrangedAll_steady, byPriority_steady, layoutAll_steady, List.map_cons]
    have same : forwarding services (arena.map Activity.steady) name r.steady
        = (forwarding services arena name r).steady := by
      simp only [forwarding, title_steady]
      rfl
    rw [same]
    rfl

theorem layoutCommon_steady (functions : Module) (services : Dict Service) :
    ∀ (entries : List (String × Document.CommonActivity)) (arena : List Activity),
      (layoutCommon functions services (arena.map Activity.steady)
          (Dict.mapValues Document.CommonActivity.steady entries)).value
        = ((layoutCommon functions services arena entries).value.1.map Activity.steady,
          (layoutCommon functions services arena entries).value.2)
  | [], _ => rfl
  | (name, entry) :: rest, arena => by
    have others := layoutCommon_steady functions services rest
      (arena ++ (layoutEntry functions services arena name entry).value)
    simp only [Dict.mapValues] at others
    simp only [Dict.mapValues, List.map_cons, layoutCommon, Noted.value_bind, Noted.value_pure,
      List.length_map]
    rw [layoutEntry_steady, ← List.map_append, others]

/-- **What a flow is before parameters are mapped has no flags but in definitions.** -/
theorem declared_steady (m : Materials) (page : Document.Page) (process : Document.Process) :
    (declared m page.steady process.steady).value
      = { (declared m page process).value with
          arena := (declared m page process).value.arena.map Activity.steady } := by
  have services := layoutServices_steady m page process.services []
  have commons := layoutCommon_steady m.functions
    (layoutServices m page [] process.services).value.2 process.common.activities
    (layoutServices m page [] process.services).value.1
  simp only [declared, Noted.value_bind, Noted.value_pure]
  rw [show process.steady.services
      = Dict.mapValues Document.Service.steady process.services from rfl,
    show process.steady.common.activities
      = Dict.mapValues Document.CommonActivity.steady process.common.activities from rfl]
  rw [List.map_nil] at services
  rw [services]
  dsimp only
  rw [commons]
  rfl

/-! ## §5. What parameters are mapped by. -/

/-- What decides about a parameter, without flags. -/
def Choice.steady : Choice → Choice
  | definition p => definition p.steady
  | input isFile => input isFile

/-- A flag is no source. -/
theorem Source.ofParameter?_steady (p : Document.Parameter) (maker : Option Nat) :
    ofParameter? p.steady maker = ofParameter? p maker := by
  obtain ⟨_, field, parent, previous, constant, store, queryParam, generate, fileInput, _⟩ := p
  cases generate <;> rfl

/-- A source needs the same generated value without flags. -/
theorem Source.generator?_steady (p : Document.Parameter) :
    generator? p.steady = (generator? p).map Document.steadyGenerate := by
  have precedes : precedesGenerate p.steady = precedesGenerate p := by
    cases p
    rfl
  unfold generator?
  rw [precedes, p.steady_generate]
  cases precedesGenerate p <;> rfl

/-- **A maker is made in the same way without flags.** -/
theorem generatorOf_steady {m m' : Mapping} (materials : m'.materials = m.materials)
    (service activity parameter : String) (g : Document.Generate) :
    (generatorOf m' service activity parameter (Document.steadyGenerate g)).value
      = (generatorOf m service activity parameter g).value.steady := by
  have declared (title : String) :
      Document.Generate.toActivity (Document.steadyGenerate g) title
        = (Document.Generate.toActivity g title).steady := by
    obtain ⟨_, _, parameters⟩ := g
    simp only [Document.steadyGenerate, Document.steadyParameters_eq]
    rfl
  simp only [generatorOf, Noted.value_bind, Noted.value_pure]
  rw [materials, declared, activityOf_steady]
  rfl

section Documents

variable (m : Materials) (page : Document.Page) (process : Document.Process)

/-- What is shared, without flags. -/
theorem mappingOf_shared_steady :
    (mappingOf m page.steady process.steady).shared
      = (mappingOf m page process).shared.mapValues
        (List.map (Dict.mapValues Document.SharedParameter.steady)) := by
  have services : (process.steady.services.map fun e =>
        (e.1, e.2.parameters
          :: ((page.steady.services.get? e.1).map Document.PageService.parameters).toList))
      = Dict.mapValues (List.map (Dict.mapValues Document.SharedParameter.steady))
        (process.services.map fun e => (e.1, e.2.parameters
          :: ((page.services.get? e.1).map Document.PageService.parameters).toList)) := by
    simp only [Document.Process.steady, Document.Page.steady, Dict.mapValues, List.map_map]
    refine List.map_congr_left fun entry _ => ?_
    have hpage := Dict.get?_mapValues Document.PageService.steady page.services entry.1
    rw [Dict.mapValues] at hpage
    simp only [Function.comp_apply, hpage]
    cases page.services.get? entry.1 <;> rfl
  simp only [mappingOf]
  rw [services, Dict.mapValues_insert, Dict.mapValues_ofList]
  rfl

theorem mappingOf_shared?_steady (service name : String) :
    (mappingOf m page.steady process.steady).shared? service name
      = ((mappingOf m page process).shared? service name).map Document.Parameter.steady := by
  unfold Mapping.shared?
  rw [mappingOf_shared_steady, Dict.get?_mapValues]
  cases (mappingOf m page process).shared.get? service with
  | none => rfl
  | some maps =>
    simp only [Option.map_some, Option.bind_some, List.findSome?_map, Function.comp_def,
      Dict.get?_mapValues, Option.map_map]
    rw [show (fun shared : Dict Document.SharedParameter =>
        (shared.get? name).map Document.SharedParameter.steady)
      = Option.map Document.SharedParameter.steady ∘ fun shared => shared.get? name from rfl,
      ← List.map_findSome?, Option.map_map]
    exact congrArg (fun f => Option.map f _)
      (funext fun s => Document.SharedParameter.steady_toDefinition s)

theorem mappingOf_input?_steady (service name : String) :
    (mappingOf m page.steady process.steady).input? service name
      = (mappingOf m page process).input? service name := by
  have inputs : (mappingOf m page.steady process.steady).inputs
      = (mappingOf m page process).inputs := by
    simp only [mappingOf, Document.Process.steady, Dict.mapValues, List.map_map]
    rfl
  unfold Mapping.input?
  rw [inputs]

/-- **What decides about a parameter is the same but for its flags.** -/
theorem choice?_steady (a : Activity) (name : String) :
    (mappingOf m page.steady process.steady).choice? a.steady name
      = ((mappingOf m page process).choice? a name).map Choice.steady := by
  have own : a.steady.definitions.get? name
      = (a.definitions.get? name).map Document.Parameter.steady := Dict.get?_mapValues ..
  unfold Mapping.choice?
  rw [own, show a.steady.service = a.service from rfl, mappingOf_shared?_steady,
    mappingOf_input?_steady]
  -- the first of the three that exists decides, with flags and without
  cases a.definitions.get? name with
  | some p => rfl
  | none =>
    cases (mappingOf m page process).shared? a.service name with
    | some p => rfl
    | none => cases (mappingOf m page process).input? a.service name <;> rfl

end Documents

end Flow

end Pageflow
