/-
  Pageflow.Proofs.Precedence — which definition a parameter is mapped by.

  For each name that its strategy asks for, an activity takes its own definition, else one that its
  service shares, else one that the page shares for the service, else an input of that name.  The
  first of these that exists decides, and what it says is all that the activity holds under the
  name: a source, or a dynamic parameter, or nothing.  The makers of generated values stand in the
  arena at the places that are written there.

  Main definitions: `choice?`, `MadeAt`, `MappedAs` and `OwnMapped`.
  Main statements: `IsBuilt.ownMapped` and `IsBuilt.mapped_by_precedence`.
-/
import Pageflow.Proofs.Related
import Pageflow.Proofs.Turns

namespace Pageflow

/-- Whether an input of this name is declared, and if so, whether files are selected with it; an
input for files comes before all others of its name. -/
def Document.Ui.selectsFile? (ui : Document.Ui) (name : String) : Option Bool :=
  if name ∈ ui.fileInputs.keys then some true
  else if name ∈ ui.inputNames then some false
  else none

namespace Flow

open Document (processService)

/-! ## §1. What documents say about a name. -/

/-- The definition that is shared for a service under this name: by the service, else by the page;
for the process itself, by the process and the page. -/
def sharedDefinition? (page : Document.Page) (process : Document.Process) (service name : String) :
    Option Document.Parameter :=
  if service = processService then
    ((process.common.parameters.get? name).or (page.common.parameters.get? name)).map
      Document.SharedParameter.toDefinition
  else
    (process.services.get? service).bind fun s =>
      ((s.parameters.get? name).or
        ((page.services.get? service).bind fun ps => ps.parameters.get? name)).map
        Document.SharedParameter.toDefinition

/-- The inputs that a service declares. -/
def declaredUi? (process : Document.Process) (service : String) : Option Document.Ui :=
  if service = processService then some process.common.ui
  else (process.services.get? service).map Document.Service.ui

/-- What decides about a parameter: a definition, or an input of its name. -/
inductive Choice where
  | definition (p : Document.Parameter)
  | input (isFile : Bool)

/-- What decides about the parameter of this name: the definition of the activity, else one that is
shared for its service, else an input of its service. -/
def choice? (page : Document.Page) (process : Document.Process) (a : Activity) (name : String) :
    Option Choice :=
  (((a.definitions.get? name).or (sharedDefinition? page process a.service name)).map
    Choice.definition).or
      ((declaredUi? process a.service).bind fun ui => (ui.selectsFile? name).map Choice.input)

/-- What decides about a parameter when it is mapped. -/
def Mapping.choice? (m : Mapping) (a : Activity) (name : String) : Option Choice :=
  (((a.definitions.get? name).or (m.shared? a.service name)).map Choice.definition).or
    ((m.input? a.service name).map fun i => Choice.input i.isFile)

/-- The inputs of one kind, as they are written. -/
abbrev entriesOf {α : Type} (service : String) (kind : α → InputKind) (d : Dict α) : Dict Input :=
  d.map fun entry => (entry.1, ⟨service, entry.1, kind entry.2⟩)

/-- The input that counts is one for files exactly if files are selected under its name. -/
theorem inputsOf_isFile (service : String) (ui : Document.Ui) (name : String) :
    ((inputsOf service ui).get? name).map Input.isFile = ui.selectsFile? name := by
  have keys {α : Type} (kind : α → InputKind) (d : Dict α) :
      Dict.keys (entriesOf service kind d) = d.keys :=
    Dict.keys_map (fun key v => Input.mk service key (kind v)) d
  let others := entriesOf service .field ui.inputFields ++ entriesOf service .select ui.selects
    ++ entriesOf service .checkBox ui.checkBoxes
  have others_isFile : ∀ v, (name, v) ∈ others → v.isFile = false := by
    intro v hv
    simp only [others, List.mem_append, List.mem_map] at hv
    obtain (⟨_, _, h⟩ | ⟨_, _, h⟩) | ⟨_, _, h⟩ := hv <;> rw [← (Prod.mk.inj h).2] <;> rfl
  have others_keys : Dict.keys others ++ ui.fileInputs.keys = ui.inputNames := by
    simp only [others, Dict.keys, List.map_append] at keys ⊢
    rw [keys, keys, keys]
    rfl
  -- files are written last
  have files : inputsOf service ui
      = (Dict.insertAll [] others).insertAll (entriesOf service .file ui.fileInputs) :=
    List.foldl_append
  rw [files]
  unfold Document.Ui.selectsFile?
  split
  next isFile =>
    rw [← keys .file] at isFile
    obtain ⟨v, hv, found⟩ := Dict.exists_get?_insertAll isFile
    obtain ⟨_, _, h⟩ := List.mem_map.mp hv
    rw [found, ← (Prod.mk.inj h).2]
    rfl
  next notFile =>
    rw [Dict.get?_insertAll_of_not_mem (by rwa [keys .file]), ← others_keys]
    split
    next known =>
      have known := (List.mem_append.mp known).resolve_right notFile
      obtain ⟨v, hv, found⟩ := Dict.exists_get?_insertAll known
      rw [found, Option.map_some, others_isFile v hv]
    next unknown =>
      have unknown : name ∉ Dict.keys others := fun h => unknown (List.mem_append_left _ h)
      rw [Dict.get?_insertAll_of_not_mem unknown]
      rfl

theorem findSome?_pair (own other : Dict Document.SharedParameter) (name : String) :
    ([own, other].findSome? fun shared => shared.get? name)
      = (own.get? name).or (other.get? name) := by
  rw [List.findSome?_cons, List.findSome?_singleton]
  cases own.get? name <;> rfl

section Documents

variable (m : Materials) (page : Document.Page) {process : Document.Process}
  (keyed : Dict.Keyed process.services)
include keyed

theorem mappingOf_shared? (service name : String) :
    (mappingOf m page process).shared? service name
      = sharedDefinition? page process service name := by
  unfold Mapping.shared? sharedDefinition? mappingOf
  split
  next own =>
    rw [own, Dict.get?_insert_self, Option.bind_some, findSome?_pair]
  next other =>
    have services := Dict.get?_ofList_map keyed (fun name (s : Document.Service) => s.parameters
      :: ((page.services.get? name).map Document.PageService.parameters).toList) service
    rw [Dict.get?_insert_of_ne _ _ other, services, Option.bind_map]
    refine congrArg _ (funext fun s => ?_)
    cases page.services.get? service with
    | none => simp [List.findSome?_singleton]
    | some ps => exact congrArg _ (findSome?_pair s.parameters ps.parameters name)

theorem mappingOf_input? (service name : String) :
    ((mappingOf m page process).input? service name).map Input.isFile
      = (declaredUi? process service).bind fun ui => ui.selectsFile? name := by
  unfold Mapping.input? declaredUi? mappingOf
  split
  next own =>
    rw [own, Dict.get?_insert_self]
    exact inputsOf_isFile processService process.common.ui name
  next other =>
    have services := Dict.get?_ofList_map keyed
      (fun name (s : Document.Service) => inputsOf name s.ui) service
    rw [Dict.get?_insert_of_ne _ _ other, services, Option.bind_map, Option.map_bind,
      Option.bind_map]
    exact congrArg _ (funext fun s => inputsOf_isFile service s.ui name)

/-- **What decides when a parameter is mapped is what the documents say.** -/
theorem mappingOf_choice? (a : Activity) (name : String) :
    (mappingOf m page process).choice? a name = choice? page process a name := by
  unfold Mapping.choice? choice?
  have input := congrArg (Option.map Choice.input) (mappingOf_input? m page keyed a.service name)
  rw [Option.map_map, Option.map_bind] at input
  rw [mappingOf_shared? m page keyed]
  exact congrArg _ input

end Documents

/-! ## §2. What mapping writes. -/

/-- The maker of a generated value stands at a place; without a generated value there is none.
`stands k c` says that `c` stands at place `k`. -/
inductive MadeAt (m : Mapping) (stands : Nat → Activity → Prop) (a : Activity) (name : String) :
    Option Document.Generate → Option Nat → Prop
  | nothing : MadeAt m stands a name none none
  | maker {g : Document.Generate} {k : Nat}
      (h : stands k (generatorOf m a.service a.name name g).value) :
      MadeAt m stands a name (some g) (some k)

/-- The source of a definition, with the maker of its generated value if it needs one; without a
usable one it is `null`. -/
def IsSourceOf (m : Mapping) (stands : Nat → Activity → Prop) (a : Activity) (name : String)
    (p : Document.Parameter) (source : Source) : Prop :=
  ∃ maker, MadeAt m stands a name (Source.generator? p) maker
    ∧ source = (Source.ofParameter? p maker).getD (.constant .null)

/-- A dynamic parameter keeps its definition; its generated value has a maker in any case. -/
def IsDynamicOf (m : Mapping) (stands : Nat → Activity → Prop) (a : Activity) (name : String)
    (p : Document.Parameter) (d : DynamicParameter) : Prop :=
  ∃ maker, MadeAt m stands a name p.generate maker ∧ d = ⟨p, maker⟩

/-- What an activity holds under a name, given what decides about it: the entry among its
parameters and the one among its dynamic parameters. -/
inductive MappedAs (m : Mapping) (stands : Nat → Activity → Prop) (a : Activity) (name : String) :
    Option Choice → Option Source → Option DynamicParameter → Prop
  | nothing : MappedAs m stands a name none none none
  | input (isFile : Bool) : MappedAs m stands a name (some (.input isFile))
      (some (if isFile then .fileInput name else .input name)) none
  | fixed {p : Document.Parameter} {source : Source} (h : p.isDynamic = false)
      (hs : IsSourceOf m stands a name p source) :
      MappedAs m stands a name (some (.definition p)) (some source) none
  | dynamic {p : Document.Parameter} {d : DynamicParameter} (h : p.isDynamic = true)
      (hd : IsDynamicOf m stands a name p d) :
      MappedAs m stands a name (some (.definition p)) none (some d)

/-- What the request body holds: for each part its source. -/
def BodyMapped (m : Mapping) (stands : Nat → Activity → Prop) (a : Activity)
    (definitions : Dict Document.Parameter) (body : Dict Source) : Prop :=
  Dict.Related (IsSourceOf m stands a) definitions body

section Mono

variable {m : Mapping} {stands stands' : Nat → Activity → Prop} {a b : Activity} {name : String}
  (hr : Retains a b) (hs : ∀ k c, stands k c → stands' k c)
include hr hs

/-- A maker that stands still stands, and it is one for the mapped activity as well. -/
theorem MadeAt.mono {g : Option Document.Generate} {maker : Option Nat}
    (h : MadeAt m stands a name g maker) : MadeAt m stands' b name g maker := by
  cases h with
  | nothing => exact .nothing
  | maker h =>
    refine .maker (hs _ _ ?_)
    rwa [hr.service, hr.name]

theorem IsSourceOf.mono {p : Document.Parameter} {source : Source}
    (h : IsSourceOf m stands a name p source) : IsSourceOf m stands' b name p source := by
  obtain ⟨maker, made, rfl⟩ := h
  exact ⟨maker, made.mono hr hs, rfl⟩

theorem IsDynamicOf.mono {p : Document.Parameter} {d : DynamicParameter}
    (h : IsDynamicOf m stands a name p d) : IsDynamicOf m stands' b name p d := by
  obtain ⟨maker, made, rfl⟩ := h
  exact ⟨maker, made.mono hr hs, rfl⟩

theorem MappedAs.mono {choice : Option Choice} {source : Option Source}
    {d : Option DynamicParameter} (h : MappedAs m stands a name choice source d) :
    MappedAs m stands' b name choice source d := by
  cases h with
  | nothing => exact .nothing
  | input isFile => exact .input isFile
  | fixed h hp => exact .fixed h (hp.mono hr hs)
  | dynamic h hd => exact .dynamic h (hd.mono hr hs)

theorem BodyMapped.mono {definitions : Dict Document.Parameter} {body : Dict Source}
    (h : BodyMapped m stands a definitions body) : BodyMapped m stands' b definitions body :=
  List.Forall₂.imp (fun _ _ hxy => ⟨hxy.1, hxy.2.mono hr hs⟩) h

end Mono

section MappedAs

variable {m : Mapping} {stands : Nat → Activity → Prop} {a : Activity} {name : String}
  {choice : Option Choice} {source : Option Source} {d : Option DynamicParameter}

/-- Something is held under a name exactly if something decides about it. -/
theorem MappedAs.isSome_iff (h : MappedAs m stands a name choice source d) :
    source.isSome = true ∨ d.isSome = true ↔ choice.isSome = true := by
  cases h <;> simp

/-- A parameter has one entry only. -/
theorem MappedAs.not_both (h : MappedAs m stands a name choice source d) :
    ¬ (source.isSome = true ∧ d.isSome = true) := by
  cases h <;> simp

theorem MappedAs.source_eq_none {p : Document.Parameter} (isDynamic : p.isDynamic = true)
    (h : MappedAs m stands a name (some (.definition p)) source d) : source = none := by
  cases h with
  | fixed isFixed _ => exact absurd (isFixed.symm.trans isDynamic) Bool.false_ne_true
  | dynamic _ _ => rfl

theorem MappedAs.dynamic_eq_none
    (isFixed : ∀ p, choice = some (.definition p) → p.isDynamic = false)
    (h : MappedAs m stands a name choice source d) : d = none := by
  cases h with
  | dynamic isDynamic _ =>
    exact absurd ((isFixed _ rfl).symm.trans isDynamic) Bool.false_ne_true
  | nothing => rfl
  | input _ => rfl
  | fixed _ _ => rfl

end MappedAs

/-! ## §3. Mapping one activity. -/

/-- What is among the additions stands at its place. -/
def Additions.Has (added : Additions) (k : Nat) (c : Activity) : Prop :=
  ∃ i, k = added.place + i ∧ added.activities[i]? = some c

theorem Additions.Grows.has {before after : Additions} (h : before.Grows after) (k : Nat)
    (c : Activity) : before.Has k c → after.Has k c := by
  rintro ⟨i, rfl, hc⟩
  obtain ⟨more, hmore, _⟩ := h.more
  obtain ⟨hi, _⟩ := List.getElem?_eq_some_iff.mp hc
  refine ⟨i, by rw [h.place], ?_⟩
  rw [hmore, List.getElem?_append_left hi, hc]

theorem Additions.has_push (added : Additions) (c : Activity) : (added.push c).Has added.next c :=
  ⟨added.activities.length, rfl, List.getElem?_concat_length⟩

section One

variable {m : Mapping} {a : Activity}

theorem sourceOf_isSourceOf (name : String) (p : Document.Parameter) (added : Additions) :
    IsSourceOf m (sourceOf m a.service a.name name p added).value.2.Has a name p
      (sourceOf m a.service a.name name p added).value.1 := by
  unfold sourceOf
  split
  next g hg =>
    refine ⟨some added.next, ?_, ?_⟩
    · rw [hg]
      exact .maker (added.has_push _)
    · rw [Source.ofParameter?_of_generator? hg]
      rfl
  next hg =>
    refine ⟨none, by rw [hg]; exact .nothing, ?_⟩
    cases Source.ofParameter? p none <;> rfl

theorem dynamicOf_isDynamicOf (name : String) (p : Document.Parameter) (added : Additions) :
    IsDynamicOf m (dynamicOf m a.service a.name name p added).value.2.Has a name p
      (dynamicOf m a.service a.name name p added).value.1 := by
  unfold dynamicOf
  split
  next g hg =>
    refine ⟨some added.next, ?_, rfl⟩
    rw [hg]
    exact .maker (added.has_push _)
  next hg => exact ⟨none, by rw [hg]; exact .nothing, rfl⟩

/-- The names mapped so far hold what decides about them, and no other name holds anything. -/
structure MappedSoFar (m : Mapping) (a : Activity) (done : List String) (so : Mapped) : Prop where
  entries : ∀ name, MappedAs m so.added.Has a name
    (if name ∈ done then m.choice? a name else none) (so.parameters.get? name)
    (so.dynamicParameters.get? name)
  parameters : Dict.Keyed so.parameters
  dynamicParameters : Dict.Keyed so.dynamicParameters

namespace MappedSoFar

variable {done : List String} {so so' : Mapped} {name : String}

/-- One more name is mapped if other names hold what they held, and it holds what decides. -/
theorem next (h : MappedSoFar m a done so) (grows : so.added.Grows so'.added)
    (entry : MappedAs m so'.added.Has a name (m.choice? a name) (so'.parameters.get? name)
      (so'.dynamicParameters.get? name))
    (parameters : ∀ other, other ≠ name →
      so'.parameters.get? other = so.parameters.get? other)
    (dynamicParameters : ∀ other, other ≠ name →
      so'.dynamicParameters.get? other = so.dynamicParameters.get? other)
    (keyed : Dict.Keyed so'.parameters) (keyed' : Dict.Keyed so'.dynamicParameters) :
    MappedSoFar m a (done ++ [name]) so' where
  entries other := by
    by_cases same : other = name
    · subst same
      rwa [if_pos (List.mem_append_right _ (List.mem_singleton_self other))]
    · have before := (h.entries other).mono (.refl a) grows.has
      rw [parameters other same, dynamicParameters other same]
      have iff : other ∈ done ++ [name] ↔ other ∈ done := by simp [same]
      simpa only [iff] using before
  parameters := keyed
  dynamicParameters := keyed'

/-- A name that was mapped before was mapped in the same way. -/
theorem before (h : MappedSoFar m a done so) (name : String) :
    MappedAs m so.added.Has a name (m.choice? a name) (so.parameters.get? name)
        (so.dynamicParameters.get? name)
      ∨ so.parameters.get? name = none ∧ so.dynamicParameters.get? name = none := by
  have entry := h.entries name
  split at entry
  · exact .inl entry
  · right
    generalize so.parameters.get? name = source, so.dynamicParameters.get? name = d at entry
    cases entry
    exact ⟨rfl, rfl⟩

theorem parameter_free (h : MappedSoFar m a done so) {p : Document.Parameter}
    (hchoice : m.choice? a name = some (.definition p)) (isDynamic : p.isDynamic = true) :
    so.parameters.get? name = none := by
  rcases h.before name with entry | ⟨source, _⟩
  · rw [hchoice] at entry
    exact entry.source_eq_none isDynamic
  · exact source

theorem dynamic_free (h : MappedSoFar m a done so) (name : String)
    (isFixed : ∀ p, m.choice? a name = some (.definition p) → p.isDynamic = false) :
    so.dynamicParameters.get? name = none := by
  rcases h.before name with entry | ⟨_, d⟩
  · exact entry.dynamic_eq_none isFixed
  · exact d

theorem mapInput (h : MappedSoFar m a done so)
    (hchoice : m.choice? a name = (m.input? a.service name).map fun i => .input i.isFile) :
    MappedSoFar m a (done ++ [name]) (mapInput m a.service a.name name so).value := by
  have free := h.dynamic_free name fun p hp => by
    rw [hchoice, Option.map_eq_some_iff] at hp
    obtain ⟨_, _, hi⟩ := hp
    contradiction
  unfold Flow.mapInput
  cases hi : m.input? a.service name with
  | none =>
    rw [hi] at hchoice
    refine h.next (.refl so.added) ?_ (fun _ _ => rfl) (fun _ _ => rfl) h.parameters
      h.dynamicParameters
    rcases h.before name with entry | ⟨source, d⟩
    · exact entry
    · rw [hchoice, Noted.value_bind, Noted.value_pure, source, d]
      exact .nothing
  | some i =>
    rw [hi] at hchoice
    refine h.next (.refl so.added) ?_ (fun other ne => Dict.get?_insert_of_ne _ _ ne)
      (fun _ _ => rfl) (h.parameters.insert _ _) h.dynamicParameters
    rw [hchoice, Noted.value_pure, Dict.get?_insert_self, free]
    exact .input i.isFile

theorem mapDefined (h : MappedSoFar m a done so) {p : Document.Parameter}
    (hchoice : m.choice? a name = some (.definition p)) :
    MappedSoFar m a (done ++ [name]) (mapDefined m a.service a.name name p so).value := by
  unfold Flow.mapDefined
  split
  next isDynamic =>
    obtain ⟨grows, _⟩ := dynamicOf_grows m a.service a.name name p so.added
    refine h.next grows ?_ (fun _ _ => rfl) (fun other ne => Dict.get?_insert_of_ne _ _ ne)
      h.parameters (h.dynamicParameters.insert _ _)
    rw [hchoice, Noted.value_bind, Noted.value_pure, Dict.get?_insert_self,
      h.parameter_free hchoice isDynamic]
    exact .dynamic isDynamic (dynamicOf_isDynamicOf name p so.added)
  next isFixed =>
    have isFixed := Bool.eq_false_iff.mpr isFixed
    obtain ⟨grows, _⟩ := sourceOf_grows m a.service a.name name p so.added
    refine h.next grows ?_ (fun other ne => Dict.get?_insert_of_ne _ _ ne) (fun _ _ => rfl)
      (h.parameters.insert _ _) h.dynamicParameters
    have free := h.dynamic_free name fun q hq => by
      rw [hchoice] at hq
      obtain rfl := Choice.definition.inj (Option.some.inj hq)
      exact isFixed
    rw [hchoice, Noted.value_bind, Noted.value_bind, Noted.value_pure, Dict.get?_insert_self, free]
    exact .fixed isFixed (sourceOf_isSourceOf name p so.added)

/-- **One name is mapped by what decides about it.** -/
theorem mapName (h : MappedSoFar m a done so) (name : String) :
    MappedSoFar m a (done ++ [name]) (mapName m a so name).value := by
  unfold Flow.mapName
  split
  next p hp =>
    refine h.mapDefined ?_
    rw [Mapping.choice?, hp]
    rfl
  next hp =>
    refine h.mapInput ?_
    rw [Mapping.choice?, hp]
    rfl

theorem mapNames : ∀ (names : List String) {done : List String} {so : Mapped},
    MappedSoFar m a done so →
      MappedSoFar m a (done ++ names) (names.foldlM (Flow.mapName m a) so).value
  | [], done, _, h => by
      rw [List.append_nil]
      exact h
  | name :: rest, done, so, h => by
      rw [List.foldlM_cons, Noted.value_bind, List.append_cons]
      exact mapNames rest (h.mapName name)

end MappedSoFar

/-- The parts of a request body are mapped like parameters, in the order of their definitions. -/
theorem mapBody_mapped :
    ∀ (parts : List (String × Document.Parameter)) (definitions : Dict Document.Parameter)
      (body : Dict Source) (added : Additions), BodyMapped m added.Has a definitions body →
      BodyMapped m (mapBody m a parts body added).value.2.Has a (definitions.insertAll parts)
        (mapBody m a parts body added).value.1
  | [], _, _, _, h => h
  | (part, p) :: rest, definitions, body, added, h => by
      simp only [mapBody, Noted.value_bind]
      obtain ⟨grows, _⟩ := sourceOf_grows m a.service a.name part p added
      exact mapBody_mapped rest (definitions.insert part p) _ _
        ((h.mono (.refl a) grows.has).insert (sourceOf_isSourceOf part p added))

/-- What an activity with a strategy of its own holds after mapping. -/
structure OwnMapped (m : Mapping) (stands : Nat → Activity → Prop) (a : Activity)
    (strategy : Strategy) : Prop where
  entries : ∀ name, MappedAs m stands a name
    (if name ∈ strategy.ownParameterNames then m.choice? a name else none)
    (a.parameters.get? name) (a.dynamicParameters.get? name)
  parameters : Dict.Keyed a.parameters
  dynamicParameters : Dict.Keyed a.dynamicParameters
  /-- Only a remote operation has a request body. -/
  body : BodyMapped m stands a
    (if strategy.isRemote then Dict.ofList a.bodyDefinitions else []) a.requestBody

theorem OwnMapped.mono {stands stands' : Nat → Activity → Prop} {strategy : Strategy}
    (h : OwnMapped m stands a strategy) (hs : ∀ k c, stands k c → stands' k c) :
    OwnMapped m stands' a strategy where
  entries name := (h.entries name).mono (.refl a) hs
  parameters := h.parameters
  dynamicParameters := h.dynamicParameters
  body := h.body.mono (.refl a) hs

theorem mapRequestBody_mapped (strategy : Strategy) (added : Additions) :
    BodyMapped m (mapRequestBody m a strategy added).value.2.Has a
      (if strategy.isRemote then Dict.ofList a.bodyDefinitions else [])
      (mapRequestBody m a strategy added).value.1 := by
  unfold mapRequestBody
  split
  next => exact mapBody_mapped a.bodyDefinitions [] [] added .nil
  next => split <;> exact .nil

theorem mapOwn_ownMapped (strategy : Strategy) (added : Additions) :
    OwnMapped m (mapOwn m a strategy added).value.2.Has (mapOwn m a strategy added).value.1
      strategy := by
  have start : MappedSoFar m a [] { added } :=
    { entries := fun _ => .nothing
      parameters := Dict.keyed_nil
      dynamicParameters := Dict.keyed_nil }
  have names := start.mapNames strategy.ownParameterNames
  simp only [mapOwn, Noted.value_bind, Noted.value_pure]
  generalize (strategy.ownParameterNames.foldlM (mapName m a) { added }).value = so at names ⊢
  obtain ⟨grows, _⟩ := mapRequestBody_made m a strategy so.added
  have retains : Retains a
      { a with
        parameters := so.parameters
        dynamicParameters := so.dynamicParameters
        requestBody := (mapRequestBody m a strategy so.added).value.1 } := rfl
  exact {
    entries := fun name => (names.entries name).mono retains grows.has
    parameters := names.parameters
    dynamicParameters := names.dynamicParameters
    body := (mapRequestBody_mapped strategy so.added).mono retains fun _ _ => id }

end One

/-! ## §4. Built flows. -/

/-- At this place stands the activity, with its parameters mapped. -/
def Stands (arena : List Activity) (k : Nat) (c : Activity) : Prop :=
  ∃ c', arena[k]? = some c' ∧ Retains c c'

section Built

variable {m : Materials} {page : Document.Page} {process : Document.Process} {flow : Flow}

/-- What stands at a place in some turn stands there in the end. -/
theorem IsBuilt.stands (hb : IsBuilt m page process flow) {n k : Nat} {c : Activity}
    (h : (turned (mappingOf m page process) (declared m page process).value.arena n)[k]?
      = some c) : Stands flow.arena k c := by
  have unmapped := declared_unmapped m page process
  have inside : k < flow.arena.length := by
    by_cases hn : n ≤ k
    · have still := turned_of_ne unmapped h hn fun turn _ hlt => by omega
      exact (hb.lt_length_turned k).mp (List.getElem?_eq_some_iff.mp still).1
    · by_contra hk
      have stopped := turned_of_length_le (m := mappingOf m page process)
        (by rw [hb.turned_eq]) (show flow.arena.length ≤ n by omega)
      rw [stopped, hb.turned_eq] at h
      exact hk (List.getElem?_eq_some_iff.mp h).1
  have found := List.getElem?_eq_getElem inside
  obtain ⟨a, once⟩ := hb.exists_mappedOnce found
  refine ⟨_, found, ?_⟩
  by_cases hn : n ≤ k
  · rw [once.before n hn c h]
    exact once.mapsTo.retains
  · have after := once.after n (by omega)
    rw [h] at after
    rw [Option.some.inj after]
    exact .refl _

/-- **What an activity with a strategy of its own holds in a built flow.** -/
theorem IsBuilt.ownMapped (hb : IsBuilt m page process flow) {place : Nat} {b : Activity}
    {strategy : Strategy} (h : flow.arena[place]? = some b) (hs : b.strategy = some strategy)
    (own : strategy.isReference = false) :
    OwnMapped (mappingOf m page process) (Stands flow.arena) b strategy := by
  obtain ⟨a, once⟩ := hb.exists_mappedOnce h
  let start : Additions :=
    ⟨0, turned (mappingOf m page process) (declared m page process).value.arena place⟩
  have mapped : mapActivity (mappingOf m page process) a start
      = mapOwn (mappingOf m page process) a strategy start := by
    rw [mapActivity, ← once.mapsTo.retains.strategy, hs]
    exact if_neg (by rw [own]; exact Bool.false_ne_true)
  have held := mapOwn_ownMapped (m := mappingOf m page process) (a := a) strategy start
  obtain ⟨b', more, adds⟩ := mapActivity_adds (mappingOf m page process) once.unmapped start
  obtain rfl : b' = b := by rw [← once.mapped, adds.value]
  rw [← mapped, adds.value] at held
  refine held.mono ?_
  rintro k c ⟨i, rfl, hc⟩
  rw [show (start.pushAll more).place + i = i from Nat.zero_add i]
  -- the turn of the place itself puts the mapped activity there, and leaves all others
  by_cases same : i = place
  · subst same
    obtain ⟨hi, _⟩ := List.getElem?_eq_some_iff.mp once.found
    have here : (start.pushAll more).activities[i]? = some a := by
      rw [Additions.pushAll, List.getElem?_append_left hi, once.found]
    rw [here] at hc
    rw [← Option.some.inj hc]
    exact ⟨b', h, once.mapsTo.retains⟩
  · have turn := mapTurn_of_some once.found adds
    refine hb.stands (n := place + 1) ?_
    rw [turned, turn, List.getElem?_set_ne (Ne.symm same)]
    exact hc

/-- Where no strategy of its own asks for parameters, none is mapped. -/
theorem IsBuilt.unmapped (hb : IsBuilt m page process flow) {place : Nat} {b : Activity}
    (h : flow.arena[place]? = some b) (none_own : b.strategy = none ∨ b.isReference = true) :
    IsUnmapped b := by
  obtain ⟨a, once⟩ := hb.exists_mappedOnce h
  have retains := once.mapsTo.retains
  rcases none_own with inactive | reference
  · have same : b = a := by
      rw [← once.mapped, mapActivity, ← retains.strategy, inactive]
      rfl
    rw [same]
    exact once.unmapped
  · exact once.mapsTo.reference (retains.isReference ▸ reference)

/-- **The parameters of an activity are complete and follow their precedence.**  An activity with a
strategy of its own holds something under a name exactly if its strategy asks for it and something
decides about it: its own definition, else a shared one, else an input.  It is one entry, dynamic
if the definition that decides is; a source is the one of that definition, or of that input.  An
activity that is inactive or a reference holds nothing. -/
theorem IsBuilt.mapped_by_precedence (hb : IsBuilt m page process flow)
    (keyed : Dict.Keyed process.services) {place : Nat} {a : Activity}
    (h : flow.arena[place]? = some a) :
    (∀ strategy, a.strategy = some strategy → strategy.isReference = false →
      (∀ name,
        (name ∈ a.parameters.keys ∨ name ∈ a.dynamicParameters.keys
            ↔ name ∈ strategy.ownParameterNames ∧ (choice? page process a name).isSome = true)
          ∧ ¬ (name ∈ a.parameters.keys ∧ name ∈ a.dynamicParameters.keys))
      ∧ (∀ name ∈ strategy.ownParameterNames,
          MappedAs (mappingOf m page process) (Stands flow.arena) a name
            (choice? page process a name) (a.parameters.get? name)
            (a.dynamicParameters.get? name))
      ∧ Dict.Keyed a.parameters ∧ Dict.Keyed a.dynamicParameters)
    ∧ (a.strategy = none ∨ a.isReference = true →
        a.parameters = [] ∧ a.dynamicParameters = []) := by
  refine ⟨?_, fun none_own => ?_⟩
  · intro strategy hs own
    have held := hb.ownMapped h hs own
    have entries := held.entries
    simp only [mappingOf_choice? m page keyed] at entries
    refine ⟨fun name => ⟨?_, ?_⟩, fun name asked => ?_, held.parameters, held.dynamicParameters⟩
    · rw [Dict.mem_keys_iff, Dict.mem_keys_iff, (entries name).isSome_iff]
      split <;> simp [*]
    · rw [Dict.mem_keys_iff, Dict.mem_keys_iff]
      exact (entries name).not_both
    · have entry := entries name
      rwa [if_pos asked] at entry
  · have unmapped := hb.unmapped h none_own
    exact ⟨unmapped.parameters, unmapped.dynamicParameters⟩

end Built

/-! ## §5. A desk. -/

/-- A desk files papers: there is an input for the title and a constant for it, and the number of
a paper is made anew on every run. -/
def deskProcess : Document.Process where
  services := [("desk",
    { ui :=
        { inputFields := [("title", {}), ("note", {})], fileInputs := [("scan", {})] }
      activities := [("file",
        { moduleFunction := some "save"
          parameters := [("title", { constant := some (.integer 0) }),
            ("number",
              { generate := some { moduleFunction := some "count" }, isDynamic := true })] })]
      parameters := [("owner", .field "user")] })]

/-- The page knows a place, and another owner. -/
def deskPage : Document.Page where
  services := [("desk", { parameters := [("owner", .field "clerk"), ("place", .field "shelf")] })]

def deskMaterials : Materials where
  functions := [("count", ⟨"desk", "count", []⟩),
    ("save", ⟨"desk", "save", ["title", "owner", "place", "note", "scan", "number", "fee"]⟩)]
  bridges := []

def deskFlow : Flow := (assemble? deskMaterials deskPage deskProcess).value.getD default

theorem deskFlow_isBuilt : IsBuilt deskMaterials deskPage deskProcess deskFlow :=
  isBuilt_getD (by decide +kernel)

/-- All that is asked for is mapped but the fee, about which nothing decides; the title is the
constant and the owner that of the service. -/
theorem mapped_by_precedence_desk :
    IsBuilt deskMaterials deskPage deskProcess deskFlow
    ∧ Dict.Keyed deskProcess.services
    ∧ ∃ a, deskFlow.arena[0]? = some a
      ∧ (∀ name, name ∈ a.parameters.keys ∨ name ∈ a.dynamicParameters.keys
        ↔ name ∈ ["title", "owner", "place", "note", "scan", "number"])
      ∧ a.dynamicParameters.keys = ["number"]
      ∧ a.parameters = [("title", .constant (.integer 0)), ("owner", .input "user"),
        ("place", .input "shelf"), ("note", .input "note"), ("scan", .fileInput "scan")] := by
  have place : (deskFlow.arena[0]?).map (fun a => (a.strategy, a.parameters,
      a.dynamicParameters.keys,
      ["title", "owner", "place", "note", "scan", "number", "fee"].filter fun name =>
        (choice? deskPage deskProcess a name).isSome))
      = some (some (.function
          ⟨"desk", "save", ["title", "owner", "place", "note", "scan", "number", "fee"]⟩),
        [("title", .constant (.integer 0)), ("owner", .input "user"), ("place", .input "shelf"),
          ("note", .input "note"), ("scan", .fileInput "scan")], ["number"],
        ["title", "owner", "place", "note", "scan", "number"]) := by
    decide +kernel
  obtain ⟨a, ha, shown⟩ := Option.map_eq_some_iff.mp place
  obtain ⟨strategy, parameters, dynamic, decided⟩ :
      _ ∧ a.parameters = _ ∧ a.dynamicParameters.keys = _ ∧ _ = _ := by
    simpa only [Prod.mk.injEq] using shown
  have keyed : Dict.Keyed deskProcess.services := by
    unfold Dict.Keyed
    decide
  obtain ⟨entries, -⟩ :=
    (deskFlow_isBuilt.mapped_by_precedence keyed ha).1 _ strategy rfl
  refine ⟨deskFlow_isBuilt, keyed, a, ha, fun name => ?_, dynamic, parameters⟩
  rw [(entries name).1, ← decided, List.mem_filter]
  rfl

end Flow

end Pageflow
