/-
  Pageflow.Proofs.Renaming — the numbers of makers.

  To map the parameters of an activity adds makers behind what has been added before, and numbers
  them by their places.  Started elsewhere it adds the same makers, and its sources differ in
  these numbers only.  So two runs of the same activity can be followed side by side: whatever was
  added before either of them, each is at the same distance from where it started.

  Main definitions: `Activity.rename`, `Level` and `Adds`.
  Main statement: `mapActivity_adds`.
-/
import Pageflow.Proofs.Origins

namespace Pageflow

theorem Dict.mapValues_congr {α β : Type} {d : Dict α} {u v : α → β}
    (h : ∀ x ∈ d.values, u x = v x) : d.mapValues u = d.mapValues v := by
  refine List.map_congr_left ?_
  intro entry he
  exact congrArg (entry.1, ·) (h entry.2 (List.mem_map_of_mem he))

theorem Dict.mapValues_mapValues {α β γ : Type} (d : Dict α) (u : α → β) (v : β → γ) :
    (d.mapValues u).mapValues v = d.mapValues fun x => v (u x) := by
  unfold mapValues
  rw [List.map_map]
  rfl

namespace Flow

/-! ## §1. Renaming. -/

/-- A source with the number of its maker changed. -/
def Source.rename (f : Nat → Nat) : Source → Source
  | generate maker => generate (f maker)
  | source => source

/-- A dynamic parameter with the number of its maker changed. -/
def DynamicParameter.rename (f : Nat → Nat) (p : DynamicParameter) : DynamicParameter :=
  { p with generator := p.generator.map f }

/-- An activity with the numbers of its makers changed. -/
def Activity.rename (f : Nat → Nat) (a : Activity) : Activity :=
  { a with
    parameters := a.parameters.mapValues (Source.rename f)
    dynamicParameters := a.dynamicParameters.mapValues (DynamicParameter.rename f)
    requestBody := a.requestBody.mapValues (Source.rename f) }

section Rename

variable {f g : Nat → Nat}

theorem Source.rename_of_maker?_eq_none {source : Source} (h : source.maker? = none) :
    source.rename f = source := by
  cases source <;> first | rfl | contradiction

theorem Source.rename_congr {source : Source} (h : ∀ k, source.maker? = some k → f k = g k) :
    source.rename f = source.rename g := by
  cases source with
  | generate maker => exact congrArg generate (h maker rfl)
  | _ => rfl

theorem Source.rename_rename (source : Source) :
    (source.rename f).rename g = source.rename fun k => g (f k) := by
  cases source <;> rfl

theorem DynamicParameter.rename_congr {p : DynamicParameter}
    (h : ∀ k, p.generator = some k → f k = g k) : p.rename f = p.rename g := by
  unfold rename
  cases hp : p.generator with
  | none => rfl
  | some k => rw [Option.map_some, Option.map_some, h k hp]

/-- Only the numbers of its makers count. -/
theorem Activity.rename_congr {a : Activity} (h : ∀ k ∈ a.makers, f k = g k) :
    a.rename f = a.rename g := by
  have source : ∀ source ∈ a.parameters.values ++ a.requestBody.values,
      source.rename f = source.rename g := by
    intro source hs
    refine Source.rename_congr fun k hk => h k ?_
    exact List.mem_append_left _ (List.mem_filterMap.mpr ⟨source, hs, hk⟩)
  have dynamic : ∀ p ∈ a.dynamicParameters.values, p.rename f = p.rename g := by
    intro p hp
    refine DynamicParameter.rename_congr fun k hk => h k ?_
    exact List.mem_append_right _ (List.mem_filterMap.mpr ⟨p, hp, hk⟩)
  unfold rename
  rw [Dict.mapValues_congr fun x hx => source x (List.mem_append_left _ hx),
    Dict.mapValues_congr dynamic,
    Dict.mapValues_congr fun x hx => source x (List.mem_append_right _ hx)]

theorem DynamicParameter.rename_rename (p : DynamicParameter) :
    (p.rename f).rename g = p.rename fun k => g (f k) := by
  unfold rename
  rw [Option.map_map]
  rfl

theorem Activity.rename_rename (a : Activity) :
    (a.rename f).rename g = a.rename fun k => g (f k) := by
  unfold rename
  simp only [Dict.mapValues_mapValues, Source.rename_rename, DynamicParameter.rename_rename]

/-- An activity keeps its makers if none of them gets another number. -/
theorem Activity.rename_eq_self {a : Activity} (h : ∀ k ∈ a.makers, f k = k) : a.rename f = a := by
  have source : Source.rename id = id := by
    funext source
    cases source <;> rfl
  have dynamic : DynamicParameter.rename id = id := by
    funext p
    exact congrArg (DynamicParameter.mk p.definition) (congrFun Option.map_id p.generator)
  have values : ∀ {α : Type} (d : Dict α), d.mapValues id = d := fun d => List.map_id d
  have same : a.rename id = a := by
    unfold rename
    rw [source, dynamic, values, values, values]
  rw [Activity.rename_congr h]
  exact same

theorem IsUnmapped.makers {a : Activity} (h : IsUnmapped a) : a.makers = [] := by
  rw [Activity.makers, h.parameters, h.dynamicParameters, h.requestBody]
  rfl

theorem IsUnmapped.rename {a : Activity} (h : IsUnmapped a) (f : Nat → Nat) : a.rename f = a := by
  refine Activity.rename_eq_self ?_
  intro k hk
  rw [h.makers] at hk
  contradiction

end Rename

/-! ## §2. Two runs side by side. -/

/-- Adds activities. -/
def Additions.pushAll (added : Additions) (more : List Activity) : Additions :=
  { added with activities := added.activities ++ more }

/-- Two runs that started at these additions have come to those: both have added the same. -/
def Level (start start' added added' : Additions) : Prop :=
  ∃ more, added = start.pushAll more ∧ added' = start'.pushAll more

/-- The number in the second run of what has this number in the first. -/
def moved (start start' : Additions) (k : Nat) : Nat := start'.next + (k - start.next)

section Level

variable {start start' added added' : Additions}

theorem Additions.pushAll_nil (added : Additions) : added.pushAll [] = added := by
  unfold pushAll
  rw [List.append_nil]

theorem Additions.push_pushAll (added : Additions) (more : List Activity) (a : Activity) :
    (added.pushAll more).push a = added.pushAll (more ++ [a]) := by
  unfold pushAll push
  rw [List.append_assoc]

theorem Additions.next_pushAll (added : Additions) (more : List Activity) :
    (added.pushAll more).next = added.next + more.length := by
  unfold pushAll next
  rw [List.length_append, Nat.add_assoc]

theorem Level.refl (start start' : Additions) : Level start start' start start' :=
  ⟨[], start.pushAll_nil.symm, start'.pushAll_nil.symm⟩

theorem Level.push (h : Level start start' added added') (a : Activity) :
    Level start start' (added.push a) (added'.push a) := by
  obtain ⟨more, rfl, rfl⟩ := h
  exact ⟨more ++ [a], start.push_pushAll more a, start'.push_pushAll more a⟩

/-- What is added next has corresponding numbers. -/
theorem Level.next (h : Level start start' added added') :
    moved start start' added.next = added'.next := by
  obtain ⟨more, rfl, rfl⟩ := h
  rw [moved, Additions.next_pushAll, Additions.next_pushAll]
  omega

end Level

/-- The mappings give the activities of a service the same definitions and makers. -/
structure Mapping.AgreesAt (m m' : Mapping) (service : String) : Prop where
  shared : ∀ name, m'.shared? service name = m.shared? service name
  input : ∀ name, m'.input? service name = m.input? service name
  generator : ∀ activity parameter g,
    (generatorOf m' service activity parameter g).value
      = (generatorOf m service activity parameter g).value

theorem Mapping.AgreesAt.refl (m : Mapping) (service : String) : m.AgreesAt m service :=
  ⟨fun _ => rfl, fun _ => rfl, fun _ _ _ => rfl⟩

section Runs

variable {m m' : Mapping} {start start' added added' : Additions}

theorem sourceOf_level {service : String} (agrees : m.AgreesAt m' service)
    (level : Level start start' added added') (activity parameter : String)
    (p : Document.Parameter) :
    Level start start' (sourceOf m service activity parameter p added).value.2
        (sourceOf m' service activity parameter p added').value.2
      ∧ (sourceOf m' service activity parameter p added').value.1
        = (sourceOf m service activity parameter p added).value.1.rename
          (moved start start') := by
  unfold sourceOf
  split
  next g _ =>
    simp only [Noted.value_bind, Noted.value_pure, agrees.generator]
    exact ⟨level.push _, congrArg Source.generate level.next.symm⟩
  next =>
    split
    next source hs =>
      -- a source that needs no maker has none
      have none : source.maker? = none := by
        refine Option.eq_none_iff_forall_not_mem.mpr ?_
        intro k hk
        have := Source.maker?_of_ofParameter? hs hk
        contradiction
      exact ⟨level, (Source.rename_of_maker?_eq_none none).symm⟩
    next => exact ⟨level, rfl⟩

theorem dynamicOf_level {service : String} (agrees : m.AgreesAt m' service)
    (level : Level start start' added added') (activity parameter : String)
    (p : Document.Parameter) :
    Level start start' (dynamicOf m service activity parameter p added).value.2
        (dynamicOf m' service activity parameter p added').value.2
      ∧ (dynamicOf m' service activity parameter p added').value.1
        = (dynamicOf m service activity parameter p added).value.1.rename
          (moved start start') := by
  unfold dynamicOf
  split
  next g _ =>
    simp only [Noted.value_bind, Noted.value_pure, agrees.generator]
    refine ⟨level.push _, ?_⟩
    rw [DynamicParameter.rename, Option.map_some, level.next]
  next => exact ⟨level, rfl⟩

/-- Parameters mapped side by side differ in the numbers of their makers. -/
structure MappedLevel (start start' : Additions) (so so' : Mapped) : Prop where
  level : Level start start' so.added so'.added
  parameters : so'.parameters = so.parameters.mapValues (Source.rename (moved start start'))
  dynamicParameters : so'.dynamicParameters
    = so.dynamicParameters.mapValues (DynamicParameter.rename (moved start start'))

namespace MappedLevel

variable {so so' : Mapped} {a : Activity}

theorem mapDefined (h : MappedLevel start start' so so') {service : String}
    (agrees : m.AgreesAt m' service) (activity name : String) (p : Document.Parameter) :
    MappedLevel start start' (mapDefined m service activity name p so).value
      (mapDefined m' service activity name p so').value := by
  unfold Flow.mapDefined
  split
  next =>
    obtain ⟨level, same⟩ := dynamicOf_level agrees h.level activity name p
    simp only [Noted.value_bind, Noted.value_pure]
    exact ⟨level, h.parameters, by rw [same, h.dynamicParameters, Dict.mapValues_insert]⟩
  next =>
    obtain ⟨level, same⟩ := sourceOf_level agrees h.level activity name p
    simp only [Noted.value_bind, Noted.value_pure]
    exact ⟨level, by rw [same, h.parameters, Dict.mapValues_insert], h.dynamicParameters⟩

theorem mapInput (h : MappedLevel start start' so so') {service : String}
    (agrees : m.AgreesAt m' service) (activity name : String) :
    MappedLevel start start' (mapInput m service activity name so).value
      (mapInput m' service activity name so').value := by
  unfold Flow.mapInput
  rw [agrees.input]
  split
  next i _ =>
    refine ⟨h.level, ?_, h.dynamicParameters⟩
    simp only [Noted.value_pure]
    rw [Dict.mapValues_insert, ← h.parameters]
    split <;> rfl
  next => exact h

theorem mapName (h : MappedLevel start start' so so') (agrees : m.AgreesAt m' a.service)
    (name : String) :
    MappedLevel start start' (mapName m a so name).value (mapName m' a so' name).value := by
  unfold Flow.mapName
  rw [agrees.shared]
  split
  next p _ => exact h.mapDefined agrees a.name name p
  next => exact h.mapInput agrees a.name name

theorem mapNames (agrees : m.AgreesAt m' a.service) :
    ∀ (names : List String) {so so' : Mapped}, MappedLevel start start' so so' →
      MappedLevel start start' (names.foldlM (Flow.mapName m a) so).value
        (names.foldlM (Flow.mapName m' a) so').value
  | [], _, _, h => h
  | name :: rest, so, so', h => by
      rw [List.foldlM_cons, List.foldlM_cons, Noted.value_bind, Noted.value_bind]
      exact mapNames agrees rest (h.mapName agrees name)

end MappedLevel

theorem mapBody_level {a : Activity} (agrees : m.AgreesAt m' a.service) :
    ∀ (parts : List (String × Document.Parameter)) (body : Dict Source) {added added' : Additions},
      Level start start' added added' →
      Level start start' (mapBody m a parts body added).value.2
          (mapBody m' a parts (body.mapValues (Source.rename (moved start start'))) added').value.2
        ∧ (mapBody m' a parts (body.mapValues (Source.rename (moved start start')))
            added').value.1
          = (mapBody m a parts body added).value.1.mapValues
            (Source.rename (moved start start'))
  | [], _, _, _, level => ⟨level, rfl⟩
  | (part, p) :: rest, body, added, added', level => by
      obtain ⟨level', same⟩ := sourceOf_level agrees level a.name part p
      simp only [mapBody, Noted.value_bind]
      rw [same, ← Dict.mapValues_insert]
      exact mapBody_level agrees rest _ level'

theorem mapRequestBody_level {a : Activity} (agrees : m.AgreesAt m' a.service)
    (level : Level start start' added added') (strategy : Strategy) :
    Level start start' (mapRequestBody m a strategy added).value.2
        (mapRequestBody m' a strategy added').value.2
      ∧ (mapRequestBody m' a strategy added').value.1
        = (mapRequestBody m a strategy added).value.1.mapValues
          (Source.rename (moved start start')) := by
  unfold mapRequestBody
  split
  next => exact mapBody_level agrees a.bodyDefinitions [] level
  next =>
    split
    next => exact ⟨level, rfl⟩
    next => exact ⟨level, rfl⟩

/-- Wherever it starts, to map an activity adds the same makers. -/
theorem mapOwn_level {a : Activity} (agrees : m.AgreesAt m' a.service) (strategy : Strategy)
    (start start' : Additions) :
    Level start start' (mapOwn m a strategy start).value.2 (mapOwn m' a strategy start').value.2
      ∧ (mapOwn m' a strategy start').value.1
        = (mapOwn m a strategy start).value.1.rename (moved start start') := by
  have names := MappedLevel.mapNames agrees strategy.ownParameterNames
    (⟨Level.refl start start', rfl, rfl⟩ :
      MappedLevel start start' { added := start } { added := start' })
  simp only [mapOwn, Noted.value_bind, Noted.value_pure]
  generalize (strategy.ownParameterNames.foldlM (mapName m a) { added := start }).value = so
    at names ⊢
  generalize (strategy.ownParameterNames.foldlM (mapName m' a) { added := start' }).value = so'
    at names ⊢
  obtain ⟨level, body⟩ := mapRequestBody_level agrees names.level strategy
  refine ⟨level, ?_⟩
  rw [Activity.rename, body, names.parameters, names.dynamicParameters]

theorem mapActivity_level {a : Activity} (agrees : m.AgreesAt m' a.service) (h : IsUnmapped a)
    (start start' : Additions) :
    Level start start' (mapActivity m a start).value.2 (mapActivity m' a start').value.2
      ∧ (mapActivity m' a start').value.1
        = (mapActivity m a start).value.1.rename (moved start start') := by
  have unchanged : a = a.rename (moved start start') := (h.rename _).symm
  unfold mapActivity
  split
  next => exact ⟨.refl start start', unchanged⟩
  next strategy _ =>
    split
    next => exact ⟨.refl start start', unchanged⟩
    next => exact mapOwn_level agrees strategy start start'

/-- To map an activity makes it this one, and adds these makers. -/
structure Adds (m : Mapping) (a : Activity) (start : Additions) (b : Activity)
    (more : List Activity) : Prop where
  value : (mapActivity m a start).value = (b, start.pushAll more)
  mapsTo : MapsTo m a b
  made : ∀ c ∈ more, MakesFor m a c
  /-- Its makers are among those that it adds. -/
  makers : ∀ k ∈ b.makers, start.next ≤ k ∧ k < start.next + more.length
  /-- Wherever it starts, it adds the same. -/
  elsewhere : ∀ m' start', m.AgreesAt m' a.service →
    (mapActivity m' a start').value = (b.rename (moved start start'), start'.pushAll more)

theorem mapActivity_adds (m : Mapping) {a : Activity} (h : IsUnmapped a) (start : Additions) :
    ∃ b more, Adds m a start b more := by
  -- with nothing added before, all that there is afterwards was added for the activity
  obtain ⟨_, mapped⟩ := mapActivity_mapped m a { place := start.next } h.makers
  obtain ⟨mapsTo, only⟩ := mapActivity_mapsTo m h { place := start.next }
  have level := fun (m' : Mapping) start' (agrees : m.AgreesAt m' a.service) =>
    mapActivity_level agrees h { place := start.next } start'
  generalize (mapActivity m a { place := start.next }).value = alone at mapped mapsTo only level
  obtain ⟨b, added⟩ := alone
  obtain ⟨⟨more, rfl, _⟩, _⟩ := level m start (.refl m a.service)
  have elsewhere : ∀ m' start', m.AgreesAt m' a.service →
      (mapActivity m' a start').value = (b.rename (moved start start'), start'.pushAll more) := by
    intro m' start' agrees
    obtain ⟨⟨more', hmore, hstart'⟩, same⟩ := level m' start' agrees
    obtain rfl : more = more' := congrArg Additions.activities hmore
    exact Prod.ext same hstart'
  have makers : ∀ k ∈ b.makers, start.next ≤ k ∧ k < start.next + more.length := by
    intro k hk
    obtain ⟨i, c, rfl, hc, _⟩ := mapped.makers k hk
    have hlt := (List.getElem?_eq_some_iff.mp hc).1
    exact ⟨Nat.le_add_right _ _, Nat.add_lt_add_left hlt _⟩
  have unmoved : b.rename (moved start start) = b := by
    refine Activity.rename_eq_self ?_
    intro k hk
    have := (makers k hk).1
    unfold moved
    omega
  refine ⟨b, more, ?_, mapsTo, ?_, makers, elsewhere⟩
  · rw [elsewhere m start (.refl m a.service), unmoved]
  · intro c hc
    exact (only c hc).resolve_left List.not_mem_nil

end Runs

end Flow

end Pageflow
