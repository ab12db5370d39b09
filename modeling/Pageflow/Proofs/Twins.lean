/-
  Pageflow.Proofs.Twins — flows of documents that differ in their dynamic flags.

  A dynamic parameter keeps its definition where another one has its source; but the source that
  the definition comes to on a run is the same, and so is the maker of a generated value, except for
  its place.  So in the flows of documents that differ in their flags only, the activities that
  stand at the places of declared ones are twins: whatever is asked for by name is drawn from the
  same sources, or made by makers that are twins again.

  Main definitions: `Activity.Twin`, `Activity.draws`, `Source.Twin` and `Twins`.
  Main statements: `MappedAs.isSourceOf`, `Twins.declared`, `Twins.draws` and `Twins.requestBody`.
-/
import Pageflow.Proofs.Forest
import Pageflow.Proofs.Steady

namespace Pageflow

/-- Dictionaries that are the same once their values are changed, each related to another one, are
related through these. -/
theorem Dict.Related.join {α β γ δ : Type} {f : α → γ} {r : String → α → β → Prop}
    {r' : String → α → δ → Prop} {q : String → β → δ → Prop}
    (hq : ∀ key u u' v w, f u = f u' → r key u v → r' key u' w → q key v w) :
    ∀ {d d' : Dict α} {e : Dict β} {e' : Dict δ}, d.mapValues f = d'.mapValues f →
      Related r d e → Related r' d' e' → Related q e e'
  | _, _, _, _, _, .nil, .nil => .nil
  | _, _, _, _, h, .cons ⟨hk, hv⟩ rest, .cons ⟨hk', hw⟩ rest' => by
    obtain ⟨head, tail⟩ := List.cons.inj h
    obtain ⟨key, same⟩ := Prod.mk.inj head
    refine .cons ⟨hk.symm.trans (key.trans hk'), ?_⟩ (join hq tail rest rest')
    rw [← hk]
    exact hq _ _ _ _ _ same hv (by rw [key]; exact hw)

/-- What is first found is at the same place if at each place both or neither are looked for. -/
theorem findIdx?_congr {α β : Type} {p : α → Bool} {q : β → Bool} :
    ∀ {xs : List α} {ys : List β}, (∀ k : Nat, (xs[k]?).any p = (ys[k]?).any q) →
      xs.findIdx? p = ys.findIdx? q
  | [], ys, h => by
    refine (List.findIdx?_eq_none_iff.mpr fun y hy => ?_).symm
    obtain ⟨k, hk⟩ := List.mem_iff_getElem?.mp hy
    simpa [hk] using (h k).symm
  | xs, [], h => by
    refine List.findIdx?_eq_none_iff.mpr fun x hx => ?_
    obtain ⟨k, hk⟩ := List.mem_iff_getElem?.mp hx
    simpa [hk] using h k
  | x :: xs, y :: ys, h => by
    have first : p x = q y := h 0
    have rest : xs.findIdx? p = ys.findIdx? q := findIdx?_congr fun k => h (k + 1)
    rw [List.findIdx?_cons, List.findIdx?_cons, first, rest]

namespace Flow

/-! ## §1. Twin activities. -/

/-- The activity without what its parameters come from, and without the flags in the definitions
of these. -/
def Activity.skeleton (a : Activity) : Activity :=
  { a.steady with parameters := [], dynamicParameters := [], requestBody := [] }

/-- The activities differ at most in the flags of definitions, and in what their parameters come
from. -/
def Activity.Twin (a b : Activity) : Prop := a.skeleton = b.skeleton

theorem Retains.skeleton {a b : Activity} (h : Retains a b) : b.skeleton = a.skeleton := by
  rw [h]
  rfl

namespace Activity.Twin

variable {a b c : Activity}

theorem symm (h : a.Twin b) : b.Twin a := Eq.symm h

/-- Mapping makes no difference between twins. -/
theorem of_retains {a' b' : Activity} (h : a.Twin b) (ha : Retains a a') (hb : Retains b b') :
    a'.Twin b' :=
  ha.skeleton.trans (Eq.trans h hb.skeleton.symm)

theorem of_steady (h : a.steady = b.steady) : a.Twin b := by
  unfold Twin skeleton
  rw [h]

/-- **A twin is the activity with other definitions and other sources.** -/
theorem eq (h : a.Twin b) : b = { a with
    parameters := b.parameters
    dynamicParameters := b.dynamicParameters
    requestBody := b.requestBody
    definitions := b.definitions
    bodyDefinitions := b.bodyDefinitions } := by
  obtain ⟨_, _, _, _, _, _, _, _, _, _, _, _, _, _, _, _, _⟩ := a
  obtain ⟨_, _, _, _, _, _, _, _, _, _, _, _, _, _, _, _, _⟩ := b
  simp_all [Twin, skeleton, Activity.steady]

theorem name (h : a.Twin b) : b.name = a.name := by rw [h.eq]

theorem title (h : a.Twin b) : b.title = a.title := by rw [h.eq]

theorem service (h : a.Twin b) : b.service = a.service := by rw [h.eq]

theorem strategy (h : a.Twin b) : b.strategy = a.strategy := by rw [h.eq]

theorem isReference (h : a.Twin b) : b.isReference = a.isReference := by
  unfold Activity.isReference
  rw [h.strategy]

theorem isGenerated (h : a.Twin b) : b.isGenerated = a.isGenerated := by rw [h.eq]

theorem steady_definitions (h : a.Twin b) :
    b.definitions.mapValues Document.Parameter.steady
      = a.definitions.mapValues Document.Parameter.steady :=
  (congrArg Activity.definitions h).symm

theorem steady_bodyDefinitions (h : a.Twin b) :
    b.bodyDefinitions.mapValues Document.Parameter.steady
      = a.bodyDefinitions.mapValues Document.Parameter.steady :=
  (congrArg Activity.bodyDefinitions h).symm

end Activity.Twin

/-! ## §2. What a value is drawn from. -/

/-- An activity has a strategy of its own, or none, or is a reference. -/
theorem Activity.own_or_unmapped (a : Activity) :
    (∃ strategy, a.strategy = some strategy ∧ strategy.isReference = false)
      ∨ (a.strategy = none ∨ a.isReference = true) := by
  unfold Activity.isReference
  cases hs : a.strategy with
  | none => exact .inr (.inl rfl)
  | some strategy =>
    cases hr : strategy.isReference with
    | true => exact .inr (.inr hr)
    | false => exact .inl ⟨strategy, rfl, hr⟩

/-- The source that the value under a name is drawn from, be it that of a dynamic parameter;
without one it is `null`. -/
def Activity.draws (a : Activity) (name : String) : Source :=
  ((a.parameters.get? name).or
    ((a.dynamicParameters.get? name).bind DynamicParameter.source?)).getD (.constant .null)

/-- Under each name there is one entry at most, be it dynamic or not. -/
structure Activity.Distinct (a : Activity) : Prop where
  parameters : Dict.Keyed a.parameters
  dynamicParameters : Dict.Keyed a.dynamicParameters
  apart : ∀ name ∈ a.dynamicParameters.keys, a.parameters.get? name = none

section Activity

variable {a : Activity} {name : String}

theorem Activity.draws_of_parameter (h : a.Distinct) {source : Source}
    (hm : (name, source) ∈ a.parameters) : a.draws name = source := by
  unfold draws
  rw [h.parameters.get?_of_mem hm]
  rfl

theorem Activity.draws_of_dynamic (h : a.Distinct) {p : DynamicParameter} {source : Source}
    (hm : (name, p) ∈ a.dynamicParameters) (hs : p.source? = some source) :
    a.draws name = source := by
  have apart := h.apart name (List.mem_map_of_mem hm)
  unfold draws
  rw [apart, h.dynamicParameters.get?_of_mem hm]
  exact congrArg (fun s => Option.getD s _) hs

/-- What has no entry with a source is drawn from nothing. -/
theorem Activity.draws_of_unknown (hp : name ∉ a.parameters.keys)
    (hd : ∀ p ∈ a.dynamicParameters.get? name, p.source? = none) :
    a.draws name = .constant .null := by
  have unknown : a.parameters.get? name = none := by
    rw [← Option.not_isSome_iff_eq_none]
    exact fun known => hp (Dict.mem_keys_iff.mpr known)
  unfold draws
  rw [unknown]
  cases hget : a.dynamicParameters.get? name with
  | none => rfl
  | some p => exact congrArg (fun s => Option.getD s _) (hd p hget)

theorem Activity.mem_makers_of_draws {k : Nat} (h : (a.draws name).maker? = some k) :
    k ∈ a.makers := by
  unfold draws at h
  cases hp : a.parameters.get? name with
  | some source =>
    rw [hp] at h
    obtain rfl := Source.eq_generate_of_maker? h
    exact mem_makers_of_parameter (Dict.mem_of_get? hp)
  | none =>
    rw [hp] at h
    cases hd : a.dynamicParameters.get? name with
    | none =>
      rw [hd] at h
      contradiction
    | some p =>
      rw [hd] at h
      have h : (p.source?.getD (.constant .null)).maker? = some k := h
      cases hs : p.source? with
      | none =>
        rw [hs] at h
        contradiction
      | some source =>
        rw [hs] at h
        exact mem_makers_of_dynamic (Dict.mem_of_get? hd)
          (Source.maker?_of_ofParameter? hs h)

theorem IsBuilt.distinct {m : Materials} {page : Document.Page} {process : Document.Process}
    {flow : Flow} (hb : IsBuilt m page process flow) {place : Nat}
    (ha : flow.arena[place]? = some a) : a.Distinct := by
  rcases a.own_or_unmapped with ⟨strategy, hs, own⟩ | none_own
  · have mapped := hb.ownMapped ha hs own
    refine ⟨mapped.parameters, mapped.dynamicParameters, fun name known => ?_⟩
    rw [← Option.not_isSome_iff_eq_none]
    exact fun fixed => (mapped.entries name).not_both ⟨fixed, Dict.mem_keys_iff.mp known⟩
  · have unmapped := hb.unmapped ha none_own
    refine ⟨?_, ?_, ?_⟩
    · rw [unmapped.parameters]
      exact Dict.keyed_nil
    · rw [unmapped.dynamicParameters]
      exact Dict.keyed_nil
    · rw [unmapped.parameters]
      exact fun _ _ => rfl

end Activity

/-- Unless its source is the generated value, a parameter does not depend on a maker. -/
theorem Source.ofParameter?_congr {p : Document.Parameter} (h : generator? p = none)
    (maker maker' : Option Nat) : ofParameter? p maker = ofParameter? p maker' := by
  obtain ⟨_, field, parent, previous, constant, store, queryParam, generate, fileInput, _⟩ := p
  cases field <;> cases parent <;> cases previous <;> cases constant <;> cases store <;>
    cases queryParam <;> simp_all [generator?, precedesGenerate, ofParameter?]

/-- Without a maker nothing is made. -/
theorem Source.maker?_of_unmade (p : Document.Parameter) :
    ((ofParameter? p none).getD (.constant .null)).maker? = none := by
  cases hs : ofParameter? p none with
  | none => rfl
  | some source =>
    cases hm : source.maker? with
    | none => exact hm
    | some k => simpa using maker?_of_ofParameter? hs hm

section Draws

variable {m : Mapping} {stands : Nat → Activity → Prop} {a : Activity} {name : String}
  {p : Document.Parameter}

/-- **A flag makes no difference to the source of a run**: that of a dynamic parameter is the one
that its definition has without the flag. -/
theorem MappedAs.isSourceOf {source : Option Source} {d : Option DynamicParameter}
    (h : MappedAs m stands a name (some (.definition p)) source d) :
    IsSourceOf m stands a name p
      ((source.or (d.bind DynamicParameter.source?)).getD (.constant .null)) := by
  cases h with
  | fixed _ hs => exact hs
  | dynamic _ hd =>
    obtain ⟨maker, made, rfl⟩ := hd
    cases hg : Source.generator? p with
    | some g =>
      have generates := Source.generate_of_generator? hg
      exact ⟨maker, hg ▸ generates ▸ made, rfl⟩
    | none =>
      -- a maker there may be, but nothing is drawn from it
      refine ⟨none, hg ▸ .nothing, ?_⟩
      rw [Source.ofParameter?_congr hg none maker]
      rfl

end Draws

/-! ## §3. Twin flows. -/

/-- The flows are built of the same materials from documents that differ in their flags only. -/
structure Twins (m : Materials) (page page' : Document.Page) (process process' : Document.Process)
    (flow flow' : Flow) : Prop where
  left : IsBuilt m page process flow
  right : IsBuilt m page' process' flow'
  page : page.steady = page'.steady
  process : process.steady = process'.steady

/-- The sources are the same, or makers that are twins. -/
inductive Source.Twin (flow flow' : Flow) : Source → Source → Prop
  | same {source : Source} (h : source.maker? = none) : Source.Twin flow flow' source source
  | made {k k' : Nat} {c c' : Activity} (hc : flow.arena[k]? = some c)
      (hc' : flow'.arena[k']? = some c') (h : c.Twin c') :
      Source.Twin flow flow' (.generate k) (.generate k')

variable {m : Materials} {page page' : Document.Page} {process process' : Document.Process}
  {flow flow' : Flow} {a b : Activity} {name : String}

/-- The makers of the same generated value are twins. -/
theorem Activity.Twin.generatorOf (h : a.Twin b) {g g' : Document.Generate}
    (same : Document.steadyGenerate g = Document.steadyGenerate g') (name : String) :
    (generatorOf (mappingOf m page process) a.service a.name name g).value.Twin
      (generatorOf (mappingOf m page' process') b.service b.name name g').value := by
  refine .of_steady ?_
  calc (Flow.generatorOf (mappingOf m page process) a.service a.name name g).value.steady
      = (Flow.generatorOf (mappingOf m page process) a.service a.name name
          (Document.steadyGenerate g)).value := (generatorOf_steady rfl ..).symm
    _ = (Flow.generatorOf (mappingOf m page process) b.service b.name name
          (Document.steadyGenerate g')).value := by rw [same, h.service, h.name]
    _ = (Flow.generatorOf (mappingOf m page' process') b.service b.name name g').value.steady :=
        generatorOf_steady rfl ..

/-- Definitions that differ in flags only have the same source, or makers that are twins. -/
theorem Activity.Twin.isSourceOf (h : a.Twin b) {p p' : Document.Parameter}
    (same : p.steady = p'.steady) {source source' : Source}
    (hs : IsSourceOf (mappingOf m page process) (Stands flow.arena) a name p source)
    (hs' : IsSourceOf (mappingOf m page' process') (Stands flow'.arena) b name p' source') :
    source.Twin flow flow' source' := by
  obtain ⟨maker, made, rfl⟩ := hs
  obtain ⟨maker', made', rfl⟩ := hs'
  have needs : (Source.generator? p).map Document.steadyGenerate
      = (Source.generator? p').map Document.steadyGenerate := by
    rw [← Source.generator?_steady, ← Source.generator?_steady, same]
  rw [← Source.ofParameter?_steady p, ← Source.ofParameter?_steady p', same]
  cases hg : Source.generator? p with
  | none =>
    rw [hg] at made needs
    have hg' : Source.generator? p' = none := Option.map_eq_none_iff.mp needs.symm
    rw [hg'] at made'
    cases made
    cases made'
    exact .same (Source.maker?_of_unmade _)
  | some g =>
    rw [hg] at made needs
    obtain ⟨g', hg', sameMade⟩ := Option.map_eq_some_iff.mp needs.symm
    rw [hg'] at made'
    cases made with
    | maker hk =>
      cases made' with
      | maker hk' =>
        obtain ⟨c, hc, retains⟩ := hk
        obtain ⟨c', hc', retains'⟩ := hk'
        have hsteady : Source.generator? p'.steady = some (Document.steadyGenerate g') := by
          rw [Source.generator?_steady, hg', Option.map_some]
        rw [Source.ofParameter?_of_generator? hsteady, Source.ofParameter?_of_generator? hsteady]
        exact .made hc hc' ((h.generatorOf sameMade.symm name).of_retains retains retains')

/-- What is held under a name by activities that are twins comes to the same source, or to makers
that are twins, if what decides about it differs in flags only. -/
theorem Activity.Twin.mappedAs (h : a.Twin b) {choice choice' : Option Choice}
    (same : choice.map Choice.steady = choice'.map Choice.steady)
    {source source' : Option Source} {d d' : Option DynamicParameter}
    (mapped : MappedAs (mappingOf m page process) (Stands flow.arena) a name choice source d)
    (mapped' : MappedAs (mappingOf m page' process') (Stands flow'.arena) b name choice' source'
      d') :
    ((source.or (d.bind DynamicParameter.source?)).getD (.constant .null)).Twin flow flow'
      ((source'.or (d'.bind DynamicParameter.source?)).getD (.constant .null)) := by
  match choice, choice', same with
  | none, none, _ =>
    cases mapped
    cases mapped'
    exact .same rfl
  | some (.input isFile), some (.input isFile'), same =>
    obtain rfl : isFile = isFile' := by simpa [Choice.steady] using same
    cases mapped
    cases mapped'
    cases isFile <;> exact .same rfl
  | some (.definition p), some (.definition p'), same =>
    have same : p.steady = p'.steady := by simpa [Choice.steady] using same
    exact h.isSourceOf same mapped.isSourceOf mapped'.isSourceOf
  | some (.definition _), some (.input _), same => simp [Choice.steady] at same
  | some (.input _), some (.definition _), same => simp [Choice.steady] at same

namespace Twins

theorem symm (h : Twins m page page' process process' flow flow') :
    Twins m page' page process' process flow' flow where
  left := h.right
  right := h.left
  page := h.page.symm
  process := h.process.symm

section

variable (twins : Twins m page page' process process' flow flow')
include twins

/-- Before parameters are mapped the flows differ in flags only. -/
theorem declared_eq :
    { (declared m page process).value with
        arena := (declared m page process).value.arena.map Activity.steady }
      = { (declared m page' process').value with
        arena := (declared m page' process').value.arena.map Activity.steady } := by
  rw [← declared_steady, ← declared_steady, twins.page, twins.process]

/-- **The flows have the same services.** -/
theorem services : flow'.services = flow.services ∧ flow'.common = flow.common := by
  obtain ⟨_, _, _, rfl⟩ := twins.left
  obtain ⟨_, _, _, rfl⟩ := twins.right
  have services := congrArg Flow.services twins.declared_eq
  have common := congrArg Flow.common twins.declared_eq
  exact ⟨services.symm, common.symm⟩

/-- What is at the top of a service stands at the same place in both flows. -/
theorem find? : flow'.service? = flow.service? ∧ flow'.find? = flow.find? := by
  obtain ⟨services, common⟩ := twins.services
  have known : flow'.service? = flow.service? := by
    funext service
    unfold service?
    rw [services, common]
  refine ⟨known, ?_⟩
  funext service name
  unfold Flow.find?
  rw [known]

/-- **At the place of a declared activity stands its twin.** -/
theorem declared {k : Nat} (ha : flow.arena[k]? = some a) (own : a.isGenerated = false) :
    ∃ b, flow'.arena[k]? = some b ∧ a.Twin b := by
  have hk := (twins.left.isGenerated_iff ha).mp own
  obtain ⟨a', ha', retains, _⟩ := twins.left.rounded.at (List.getElem?_eq_getElem hk)
  obtain rfl := Option.some.inj (ha.symm.trans ha')
  have arenas := congrArg (fun flow => flow.arena[k]?) twins.declared_eq
  simp only [List.getElem?_map, List.getElem?_eq_getElem hk, Option.map_some] at arenas
  obtain ⟨c, hc, same⟩ := Option.map_eq_some_iff.mp arenas.symm
  obtain ⟨b, hb, retains', _⟩ := twins.right.rounded.at hc
  exact ⟨b, hb, (Activity.Twin.of_steady same.symm).of_retains retains retains'⟩

/-- What decides about a parameter of twins differs in flags only. -/
theorem choice? (h : a.Twin b) (name : String) :
    ((mappingOf m page process).choice? a name).map Choice.steady
      = ((mappingOf m page' process').choice? b name).map Choice.steady := by
  rw [← choice?_steady, ← choice?_steady, twins.page, twins.process]
  unfold Mapping.choice?
  rw [show a.steady.definitions = b.steady.definitions from h.steady_definitions.symm,
    show a.steady.service = b.steady.service from h.service.symm]

/-- An activity without a strategy of its own has no twin with one; neither has parameters. -/
theorem unmapped {k k' : Nat} (ha : flow.arena[k]? = some a) (hb : flow'.arena[k']? = some b)
    (h : a.Twin b) (none_own : a.strategy = none ∨ a.isReference = true) :
    IsUnmapped a ∧ IsUnmapped b :=
  ⟨twins.left.unmapped ha none_own, twins.right.unmapped hb
    (none_own.imp h.strategy.trans h.isReference.trans)⟩

/-- **Twins draw their values from the same sources, or from makers that are twins.** -/
theorem draws {k k' : Nat} (ha : flow.arena[k]? = some a) (hb : flow'.arena[k']? = some b)
    (h : a.Twin b) (name : String) : (a.draws name).Twin flow flow' (b.draws name) := by
  rcases a.own_or_unmapped with ⟨strategy, hs, own⟩ | none_own
  · have mapped := (twins.left.ownMapped ha hs own).entries name
    have mapped' := (twins.right.ownMapped hb (h.strategy.trans hs) own).entries name
    refine h.mappedAs ?_ mapped mapped'
    split
    · exact twins.choice? h name
    · rfl
  · obtain ⟨unmapped, unmapped'⟩ := twins.unmapped ha hb h none_own
    unfold Activity.draws
    rw [unmapped.parameters, unmapped.dynamicParameters, unmapped'.parameters,
      unmapped'.dynamicParameters]
    exact .same rfl

/-- **The parts of the request bodies of twins come from the same sources**, or from makers that
are twins. -/
theorem requestBody {k k' : Nat} (ha : flow.arena[k]? = some a) (hb : flow'.arena[k']? = some b)
    (h : a.Twin b) :
    Dict.Related (fun _ => Source.Twin flow flow') a.requestBody b.requestBody := by
  rcases a.own_or_unmapped with ⟨strategy, hs, own⟩ | none_own
  · have mapped := (twins.left.ownMapped ha hs own).body
    have mapped' := (twins.right.ownMapped hb (h.strategy.trans hs) own).body
    refine Dict.Related.join (f := Document.Parameter.steady) ?_ ?_ mapped mapped'
    · exact fun key p p' source source' same hs hs' => h.isSourceOf same hs hs'
    · cases strategy.isRemote with
      | true =>
        rw [if_pos rfl, if_pos rfl, Dict.mapValues_ofList, Dict.mapValues_ofList,
          h.steady_bodyDefinitions]
      | false => rfl
  · obtain ⟨unmapped, unmapped'⟩ := twins.unmapped ha hb h none_own
    rw [unmapped.requestBody, unmapped'.requestBody]
    exact .nil

/-- **A name stands for the same place** in both flows, be it at the top or not. -/
theorem findAny? (service name : String) :
    flow'.findAny? service name = flow.findAny? service name := by
  unfold Flow.findAny?
  rw [twins.find?.2]
  refine congrArg _ (findIdx?_congr fun k => ?_)
  -- what is not generated has its twin in the other flow, and goes by the same name there
  have carried {flow flow' : Flow} {page page' : Document.Page}
      {process process' : Document.Process}
      (twins : Twins m page page' process process' flow flow') {a : Activity}
      (ha : flow.arena[k]? = some a)
      (named : (!a.isGenerated && a.service = service && a.name = name) = true) :
      (flow'.arena[k]?).any
        (fun b => !b.isGenerated && b.service = service && b.name = name) = true := by
    have own : a.isGenerated = false := by simp_all
    obtain ⟨b, hb, h⟩ := twins.declared ha own
    rw [hb, Option.any_some, h.isGenerated, h.service, h.name]
    exact named
  rw [Bool.eq_iff_iff]
  constructor
  · intro found
    obtain ⟨b, hb, named⟩ := (Option.any_eq_true ..).mp found
    exact carried twins.symm hb named
  · intro found
    obtain ⟨a, ha, named⟩ := (Option.any_eq_true ..).mp found
    exact carried twins ha named

end

end Twins

end Flow

end Pageflow
