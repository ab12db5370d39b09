/-
  Pageflow.Proofs.Origins — where the sources of a built flow come from.

  A parameter is mapped by a definition of its activity or by one that the service shares, or else
  to an input.  The generated value of a definition is made by an activity that is added for it and
  mapped in its turn, by the definitions inside the generated value and the shared ones.  So every
  source in a built flow goes back to a declared activity, through as many generated values as it
  takes.

  Main definitions: `Defines`, `Originates`, `IsOrigin` and `MapsTo`.
  Main statement: `IsBuilt.exists_origin`.
-/
import Pageflow.Proofs.Declarations

namespace Pageflow.Flow

/-! ## §1. Definitions and sources. -/

/-- A definition that a parameter of the activity may be mapped by: its own, or a shared one. -/
inductive Defines (m : Mapping) (a : Activity) : Document.Parameter → Prop
  | parameter {name : String} {p : Document.Parameter} (h : (name, p) ∈ a.definitions) :
      Defines m a p
  | body {part : String} {p : Document.Parameter} (h : (part, p) ∈ a.bodyDefinitions) :
      Defines m a p
  | shared {name : String} {p : Document.Parameter} (h : m.shared? a.service name = some p) :
      Defines m a p

/-- A source that a parameter of the activity may be mapped to: that of a definition, or an input;
`null` if a definition has none. -/
inductive Originates (m : Mapping) (a : Activity) : Source → Prop
  | definition {p : Document.Parameter} {generator : Option Nat} {source : Source}
      (hp : Defines m a p) (h : Source.ofParameter? p generator = some source) :
      Originates m a source
  | input (name : String) : Originates m a (.input name)
  | fileInput (name : String) : Originates m a (.fileInput name)
  | nothing : Originates m a (.constant .null)

/-- The second activity makes the generated value of a definition of the first one. -/
def MakesFor (m : Mapping) (a c : Activity) : Prop :=
  ∃ parameter p g, Defines m a p ∧ p.generate = some g
    ∧ c = (generatorOf m a.service a.name parameter g).value

/-- Of what has been added since, each activity has the property. -/
def Additions.Only (P : Activity → Prop) (before after : Additions) : Prop :=
  ∀ c ∈ after.activities, c ∈ before.activities ∨ P c

section Only

variable {P Q : Activity → Prop} {before middle after : Additions}

theorem Additions.Only.refl (before : Additions) : before.Only P before := fun _ => .inl

theorem Additions.Only.trans (h : before.Only P middle) (h' : middle.Only P after) :
    before.Only P after := by
  intro c hc
  rcases h' c hc with hc | hc
  · exact h c hc
  · exact .inr hc

theorem Additions.Only.mono (h : before.Only P after) (hPQ : ∀ c, P c → Q c) :
    before.Only Q after :=
  fun c hc => (h c hc).imp_right (hPQ c)

theorem Additions.only_push {c : Activity} (h : P c) : before.Only P (before.push c) := by
  intro c' hc'
  rcases List.mem_append.mp hc' with hc' | hc'
  · exact .inl hc'
  · rw [List.mem_singleton.mp hc']
    exact .inr h

end Only

/-! ## §2. One definition. -/

section Source

variable {m : Mapping} {a : Activity} {p : Document.Parameter}

/-- What precedes a generated value is none of the sources. -/
theorem Source.ofParameter?_of_generator? {g : Document.Generate} (h : Source.generator? p = some g)
    (k : Nat) : Source.ofParameter? p (some k) = some (.generate k) := by
  obtain ⟨_, field, parent, previous, constant, store, queryParam, generate, fileInput, _⟩ := p
  unfold Source.generator? Source.precedesGenerate at h
  cases field <;> cases parent <;> cases previous <;> cases constant <;> cases store <;>
    cases queryParam <;> simp_all [Source.ofParameter?]

theorem Source.generate_of_generator? {g : Document.Generate} (h : Source.generator? p = some g) :
    p.generate = some g := by
  unfold Source.generator? at h
  split at h
  · contradiction
  · exact h

theorem sourceOf_originates (hp : Defines m a p) (parameter : String) (added : Additions) :
    Originates m a (sourceOf m a.service a.name parameter p added).value.1
      ∧ added.Only (MakesFor m a) (sourceOf m a.service a.name parameter p added).value.2 := by
  unfold sourceOf
  split
  next g hg =>
    have made : MakesFor m a (generatorOf m a.service a.name parameter g).value :=
      ⟨parameter, p, g, hp, Source.generate_of_generator? hg, rfl⟩
    exact ⟨.definition hp (Source.ofParameter?_of_generator? hg added.next),
      Additions.only_push made⟩
  next =>
    split
    next source hs => exact ⟨.definition hp hs, .refl added⟩
    next => exact ⟨.nothing, .refl added⟩

theorem dynamicOf_definition (hp : Defines m a p) (parameter : String) (added : Additions) :
    (dynamicOf m a.service a.name parameter p added).value.1.definition = p
      ∧ added.Only (MakesFor m a) (dynamicOf m a.service a.name parameter p added).value.2 := by
  unfold dynamicOf
  split
  next g hg => exact ⟨rfl, Additions.only_push ⟨parameter, p, g, hp, hg, rfl⟩⟩
  next => exact ⟨rfl, .refl added⟩

end Source

/-! ## §3. The parameters of an activity. -/

/-- All sources go back to definitions of the activity. -/
def AllOriginate (m : Mapping) (a : Activity) (sources : Dict Source) : Prop :=
  ∀ source ∈ sources.values, Originates m a source

/-- All dynamic parameters have definitions of the activity. -/
def AllDefine (m : Mapping) (a : Activity) (ps : Dict DynamicParameter) : Prop :=
  ∀ p ∈ ps.values, Defines m a p.definition

theorem AllOriginate.insert {m : Mapping} {a : Activity} {sources : Dict Source}
    (h : AllOriginate m a sources) (name : String) {source : Source}
    (hs : Originates m a source) : AllOriginate m a (sources.insert name source) := by
  intro source' hm
  rcases Dict.mem_values_insert hm with rfl | hm
  · exact hs
  · exact h source' hm

theorem AllDefine.insert {m : Mapping} {a : Activity} {ps : Dict DynamicParameter}
    (h : AllDefine m a ps) (name : String) {p : DynamicParameter}
    (hp : Defines m a p.definition) : AllDefine m a (ps.insert name p) := by
  intro p' hm
  rcases Dict.mem_values_insert hm with rfl | hm
  · exact hp
  · exact h p' hm

/-- What the parameters mapped so far go back to. -/
structure SoFar (m : Mapping) (a : Activity) (before : Additions) (so : Mapped) : Prop where
  parameters : AllOriginate m a so.parameters
  dynamicParameters : AllDefine m a so.dynamicParameters
  only : before.Only (MakesFor m a) so.added

section Parameters

variable {m : Mapping} {a : Activity} {before : Additions} {so : Mapped}

theorem SoFar.mapDefined (h : SoFar m a before so) {p : Document.Parameter}
    (hp : Defines m a p) (name : String) :
    SoFar m a before (mapDefined m a.service a.name name p so).value := by
  unfold Flow.mapDefined
  split
  next =>
    obtain ⟨definition, only⟩ := dynamicOf_definition hp name so.added
    exact ⟨h.parameters, h.dynamicParameters.insert name (by rw [definition]; exact hp),
      h.only.trans only⟩
  next =>
    obtain ⟨source, only⟩ := sourceOf_originates hp name so.added
    exact ⟨h.parameters.insert name source, h.dynamicParameters, h.only.trans only⟩

theorem SoFar.mapInput (h : SoFar m a before so) (name : String) :
    SoFar m a before (mapInput m a.service a.name name so).value := by
  unfold Flow.mapInput
  split
  next i _ =>
    refine ⟨h.parameters.insert name ?_, h.dynamicParameters, h.only⟩
    cases i.isFile with
    | true => exact .fileInput name
    | false => exact .input name
  next => exact h

theorem SoFar.mapName (h : SoFar m a before so) (name : String) :
    SoFar m a before (mapName m a so name).value := by
  unfold Flow.mapName
  split
  next p hp =>
    -- a definition of the activity counts before a shared one
    refine h.mapDefined ?_ name
    rcases Option.or_eq_some_iff.mp hp with own | ⟨_, shared⟩
    · exact .parameter (Dict.mem_of_get? own)
    · exact .shared shared
  next => exact h.mapInput name

theorem SoFar.mapNames : ∀ (names : List String) {so : Mapped}, SoFar m a before so →
    SoFar m a before (names.foldlM (Flow.mapName m a) so).value
  | [], _, h => h
  | name :: rest, so, h => by
      rw [List.foldlM_cons, Noted.value_bind]
      exact SoFar.mapNames rest (h.mapName name)

theorem mapBody_originates :
    ∀ (parts : List (String × Document.Parameter)) (body : Dict Source) (added : Additions),
      (∀ entry ∈ parts, entry ∈ a.bodyDefinitions) → AllOriginate m a body →
      AllOriginate m a (mapBody m a parts body added).value.1
        ∧ added.Only (MakesFor m a) (mapBody m a parts body added).value.2
  | [], _, added, _, h => ⟨h, .refl added⟩
  | (part, p) :: rest, body, added, own, h => by
      simp only [mapBody, Noted.value_bind]
      obtain ⟨source, only⟩ :=
        sourceOf_originates (.body (own (part, p) List.mem_cons_self)) part added
      obtain ⟨others, only'⟩ := mapBody_originates rest _ _
        (fun entry he => own entry (List.mem_cons_of_mem _ he)) (h.insert part source)
      exact ⟨others, only.trans only'⟩

theorem mapRequestBody_originates (strategy : Strategy) (added : Additions) :
    AllOriginate m a (mapRequestBody m a strategy added).value.1
      ∧ added.Only (MakesFor m a) (mapRequestBody m a strategy added).value.2 := by
  have none : AllOriginate m a [] := by
    intro source hs
    contradiction
  unfold mapRequestBody
  split
  next => exact mapBody_originates a.bodyDefinitions [] added (fun _ => id) none
  next =>
    split
    next => exact ⟨none, .refl added⟩
    next => exact ⟨none, .refl added⟩

end Parameters

/-! ## §4. Activities. -/

/-- The second activity is the first one with its parameters mapped. -/
structure MapsTo (m : Mapping) (a b : Activity) : Prop where
  retains : Retains a b
  parameters : AllOriginate m a b.parameters
  requestBody : AllOriginate m a b.requestBody
  dynamicParameters : AllDefine m a b.dynamicParameters
  /-- A reference has none. -/
  reference : a.isReference = true → IsUnmapped b

/-- An activity whose parameters are not mapped stays as it is. -/
theorem mapsTo_self (m : Mapping) {a : Activity} (h : IsUnmapped a) : MapsTo m a a where
  retains := .refl a
  parameters := by
    intro source hs
    rw [h.parameters] at hs
    contradiction
  requestBody := by
    intro source hs
    rw [h.requestBody] at hs
    contradiction
  dynamicParameters := by
    intro p hp
    rw [h.dynamicParameters] at hp
    contradiction
  reference _ := h

theorem mapOwn_mapsTo (m : Mapping) {a : Activity} (own : a.isReference = false)
    (strategy : Strategy) (added : Additions) : MapsTo m a (mapOwn m a strategy added).value.1
      ∧ added.Only (MakesFor m a) (mapOwn m a strategy added).value.2 := by
  have start : SoFar m a added { added } :=
    ⟨by intro source hs; contradiction, by intro p hp; contradiction, .refl added⟩
  have names := SoFar.mapNames strategy.ownParameterNames start
  simp only [mapOwn, Noted.value_bind, Noted.value_pure]
  generalize (strategy.ownParameterNames.foldlM (mapName m a) { added }).value = mapped at names ⊢
  obtain ⟨body, only⟩ := mapRequestBody_originates (m := m) (a := a) strategy mapped.added
  refine ⟨⟨rfl, names.parameters, body, names.dynamicParameters, ?_⟩, names.only.trans only⟩
  intro reference
  rw [own] at reference
  contradiction

theorem mapActivity_mapsTo (m : Mapping) {a : Activity} (h : IsUnmapped a) (added : Additions) :
    MapsTo m a (mapActivity m a added).value.1
      ∧ added.Only (MakesFor m a) (mapActivity m a added).value.2 := by
  unfold mapActivity
  split
  next => exact ⟨mapsTo_self m h, .refl added⟩
  next strategy hs =>
    split
    next => exact ⟨mapsTo_self m h, .refl added⟩
    next own =>
      refine mapOwn_mapsTo m ?_ strategy added
      rw [Activity.isReference, hs]
      exact eq_false_of_ne_true own

theorem mapRound_mapsTo (m : Mapping) :
    ∀ (activities : List Activity) (added : Additions), (∀ a ∈ activities, IsUnmapped a) →
      (∀ b ∈ (mapRound m added activities).value.1, ∃ a ∈ activities, MapsTo m a b)
        ∧ added.Only (fun c => ∃ a ∈ activities, MakesFor m a c)
          (mapRound m added activities).value.2
  | [], added, _ => ⟨by intro b hb; contradiction, .refl added⟩
  | a :: rest, added, h => by
      simp only [mapRound, Noted.value_bind, Noted.value_pure]
      obtain ⟨first, only⟩ := mapActivity_mapsTo m (h a List.mem_cons_self) added
      obtain ⟨others, only'⟩ := mapRound_mapsTo m rest (mapActivity m a added).value.2
        fun b hb => h b (List.mem_cons_of_mem _ hb)
      constructor
      · intro b hb
        rcases List.mem_cons.mp hb with rfl | hb
        · exact ⟨a, List.mem_cons_self, first⟩
        · obtain ⟨a', ha', mapped⟩ := others b hb
          exact ⟨a', List.mem_cons_of_mem _ ha', mapped⟩
      · refine (only.mono fun c hc => ⟨a, List.mem_cons_self, hc⟩).trans (only'.mono ?_)
        rintro c ⟨a', ha', made⟩
        exact ⟨a', List.mem_cons_of_mem _ ha', made⟩

/-! ## §5. Rounds. -/

/-- What mapping starts from: these activities, and makers for what it starts from. -/
inductive IsOrigin (m : Mapping) (arena : List Activity) : Activity → Prop
  | declared {a : Activity} (h : a ∈ arena) : IsOrigin m arena a
  | made {a c : Activity} (ha : IsOrigin m arena a) (h : MakesFor m a c) : IsOrigin m arena c

theorem isUnmapped_of_makesFor {m : Mapping} {a c : Activity} (h : MakesFor m a c) :
    IsUnmapped c := by
  obtain ⟨parameter, p, g, _, _, rfl⟩ := h
  exact ⟨rfl, rfl, rfl⟩

theorem mapRounds_mapsTo (m : Mapping) {arena : List Activity} :
    ∀ (rounds place : Nat) (before after : List Activity),
      (∀ a ∈ before, IsUnmapped a ∧ IsOrigin m arena a) →
      (mapRounds m rounds place before).value = some after →
      ∀ b ∈ after, ∃ a, IsOrigin m arena a ∧ MapsTo m a b
  | rounds, place, [], after, _, h, b, hb => by
      obtain rfl : [] = after := by
        cases rounds <;> exact Option.some.inj h
      contradiction
  | 0, place, a :: rest, after, _, h, b, hb => by
      contradiction
  | rounds + 1, place, a :: rest, after, hbefore, h, b, hb => by
      simp only [mapRounds, Noted.value_bind, Noted.value_pure, Option.map_eq_some_iff] at h
      obtain ⟨mapped, only⟩ := mapRound_mapsTo m (a :: rest) { place }
        fun a ha => (hbefore a ha).1
      obtain ⟨behind, hbehind, rfl⟩ := h
      rcases List.mem_append.mp hb with hb | hb
      · obtain ⟨a', ha', mapsTo⟩ := mapped b hb
        exact ⟨a', (hbefore a' ha').2, mapsTo⟩
      · -- what a round adds is where the next one starts from
        refine mapRounds_mapsTo m rounds _ _ behind ?_ hbehind b hb
        intro c hc
        rcases only c hc with hc | ⟨a', ha', made⟩
        · contradiction
        · exact ⟨isUnmapped_of_makesFor made, .made (hbefore a' ha').2 made⟩

variable {m : Materials} {page : Document.Page} {process : Document.Process} {flow : Flow}

/-- **Every activity of a built flow is one that mapping starts from, with its parameters
mapped.** -/
theorem IsBuilt.exists_origin (hb : IsBuilt m page process flow) {b : Activity}
    (h : b ∈ flow.arena) :
    ∃ a, IsOrigin (mappingOf m page process) (declared m page process).value.arena a
      ∧ MapsTo (mappingOf m page process) a b := by
  obtain ⟨rounds, after, hafter, rfl⟩ := hb
  refine mapRounds_mapsTo _ rounds _ _ after ?_ hafter b h
  intro a ha
  exact ⟨(outline_of_mem_declared ha).1, .declared ha⟩

end Pageflow.Flow
