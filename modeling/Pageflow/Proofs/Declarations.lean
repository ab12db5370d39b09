/-
  Pageflow.Proofs.Declarations — the arena holds what is declared.

  Activities are laid out in the order of their documents, with siblings by priority.  So if the
  order does not count, the activities of a flow before its parameters are mapped are the declared
  ones, each once, and besides them one for each reference.  This is said of any trait that an
  activity takes over from its document: the traits that the arena shows are those declared.

  Main definitions: `Trait`, and `Outline`, what an activity of a flow keeps of its document.
  Main statements: `Trait.declared_perm`, `IsBuilt.exists_outline` and `outline_of_mem_declared`.
-/
import Pageflow.Load.Integrity
import Pageflow.Proofs.Mapping

namespace Pageflow.Flow

open Document (processService)
open Load (declaredIn declaredAll declaredCommon)

/-! ## §1. Traits. -/

/-- Places in the order of the arena, each once. -/
abbrev Rising (places : List Nat) : Prop := places.Pairwise (· < ·)

/-- Siblings are laid out one behind the other. -/
theorem layoutAll_rising (functions : Module) (service : String) (bridge : Option Bridge)
    (parent : Option Nat) (place : Nat) :
    ∀ siblings : List (String × Document.Activity),
      Rising (layoutAll functions service bridge parent place siblings).value.2
        ∧ ∀ k ∈ (layoutAll functions service bridge parent place siblings).value.2, place ≤ k
  | [] => ⟨.nil, by intro k hk; contradiction⟩
  | (name, a) :: rest => by
      simp only [layoutAll, Noted.value_bind, Noted.value_pure]
      have hlen : 0 < (layout functions service bridge parent place name a).value.length := by
        rw [layout_value]
        exact Nat.succ_pos _
      obtain ⟨rising, behind⟩ := layoutAll_rising functions service bridge parent
        (place + (layout functions service bridge parent place name a).value.length) rest
      constructor
      · refine List.Pairwise.cons ?_ rising
        intro k hk
        have := behind k hk
        omega
      · intro k hk
        rcases List.mem_cons.mp hk with rfl | hk
        · exact Nat.le_refl k
        · have := behind k hk
          omega

/-- What an activity takes over from its document, wherever it is placed and whatever bridges and
functions there are; and what a reference shows, given the services that it may refer to. -/
structure Trait (β : Type) where
  shown : Activity → β
  declared : Load.Declared → β
  reference : Dict Service → String → Document.Reference → β
  laid : ∀ functions service name a bridge parent places, Rising places →
    shown (rootOf (unplaced functions service name a bridge) parent places)
      = declared ⟨service, name, a⟩
  arranged : ∀ service name a,
    declared ⟨service, name, Flow.arranged a⟩ = declared ⟨service, name, a⟩
  forwards : ∀ services arena name r places, Rising places →
    shown (rootOf (forwarding services arena name r) none places) = reference services name r

/-- What the references among the entries of the process show. -/
def Trait.references {β : Type} (t : Trait β) (services : Dict Service)
    (entries : List (String × Document.CommonActivity)) : List β :=
  entries.filterMap fun
    | (name, .reference r) => some (t.reference services name r)
    | (_, .definition _) => none

namespace Trait

variable {β : Type} (t : Trait β)

/-! ## §2. One activity and those inside it. -/

section One

variable (functions : Module) (service : String) (bridge : Option Bridge)

mutual

/-- **What is laid out is what is declared, in the same order.** -/
theorem layout_map (parent : Option Nat) (place : Nat) (name : String) :
    ∀ a : Document.Activity,
      (layout functions service bridge parent place name a).value.map t.shown
        = (declaredIn service name a).map t.declared
  | ⟨title, preProcess, bridgeCapability, moduleFunction, parameters, requestBody,
      requiredActivities, subActivities, storeResult, priority, ui, debug⟩ => by
      rw [layout_value, declaredIn, List.map_cons, List.map_cons,
        t.laid _ _ _ _ _ _ _ (layoutAll_rising ..).1,
        layoutAll_map (some place) (place + 1) subActivities]

theorem layoutAll_map (parent : Option Nat) (place : Nat) :
    ∀ siblings : List (String × Document.Activity),
      (layoutAll functions service bridge parent place siblings).value.1.map t.shown
        = (declaredAll service siblings).map t.declared
  | [] => rfl
  | (name, a) :: rest => by
      simp only [layoutAll, declaredAll, Noted.value_bind, Noted.value_pure, List.map_append]
      rw [layout_map parent place name a, layoutAll_map parent _ rest]

end

end One

theorem declaredAll_eq_flatMap (service : String) :
    ∀ siblings : List (String × Document.Activity),
      declaredAll service siblings = siblings.flatMap fun (name, a) => declaredIn service name a
  | [] => rfl
  | (name, a) :: rest => by
      rw [declaredAll, List.flatMap_cons, declaredAll_eq_flatMap service rest]

/-- Priority changes the order only. -/
theorem declaredAll_byPriority (service : String) (siblings : List (String × Document.Activity)) :
    (declaredAll service (byPriority siblings)).Perm (declaredAll service siblings) := by
  rw [declaredAll_eq_flatMap, declaredAll_eq_flatMap]
  exact (List.mergeSort_perm siblings _).flatMap_right _

mutual

/-- What is inside an activity stays the same when siblings are put in order. -/
theorem declaredIn_arranged (service name : String) :
    ∀ a : Document.Activity,
      ((declaredIn service name (Flow.arranged a)).map t.declared).Perm
        ((declaredIn service name a).map t.declared)
  | ⟨title, preProcess, bridgeCapability, moduleFunction, parameters, requestBody,
      requiredActivities, subActivities, storeResult, priority, ui, debug⟩ => by
      have own := t.arranged service name
        ⟨title, preProcess, bridgeCapability, moduleFunction, parameters, requestBody,
          requiredActivities, subActivities, storeResult, priority, ui, debug⟩
      rw [Flow.arranged] at own ⊢
      rw [declaredIn, declaredIn, List.map_cons, List.map_cons, own]
      refine List.Perm.cons _ (((declaredAll_byPriority service _).map t.declared).trans ?_)
      exact declaredAll_arranged service subActivities

theorem declaredAll_arranged (service : String) :
    ∀ siblings : List (String × Document.Activity),
      ((declaredAll service (arrangedAll siblings)).map t.declared).Perm
        ((declaredAll service siblings).map t.declared)
  | [] => .refl _
  | (name, a) :: rest => by
      rw [arrangedAll, declaredAll, declaredAll, List.map_append, List.map_append]
      exact (declaredIn_arranged service name a).append (declaredAll_arranged service rest)

end

/-- An activity that is laid out in order, and those inside it. -/
theorem layout_perm (functions : Module) (service : String) (bridge : Option Bridge)
    (parent : Option Nat) (place : Nat) (name : String) (a : Document.Activity) :
    ((layout functions service bridge parent place name (Flow.arranged a)).value.map
      t.shown).Perm ((declaredIn service name a).map t.declared) := by
  rw [layout_map]
  exact t.declaredIn_arranged service name a

/-! ## §3. Services and the process. -/

theorem layoutTop_perm (functions : Module) (service : String) (bridge : Option Bridge) :
    ∀ (entries : List (String × Document.Activity)) (before : List Activity),
      ((layoutTop functions service bridge before entries).value.1.map t.shown).Perm
        (before.map t.shown ++ (declaredAll service entries).map t.declared)
  | [], before => by
      rw [declaredAll, List.map_nil, List.append_nil]
      exact .refl _
  | (name, a) :: rest, before => by
      simp only [layoutTop, declaredAll, Noted.value_bind, Noted.value_pure, List.map_append]
      refine (layoutTop_perm functions service bridge rest _).trans ?_
      rw [List.map_append, List.append_assoc]
      refine List.Perm.append_left _ (List.Perm.append_right _ ?_)
      exact t.layout_perm functions service bridge none before.length name a

theorem layoutServices_perm (m : Materials) (page : Document.Page) :
    ∀ (entries : List (String × Document.Service)) (before : List Activity),
      ((layoutServices m page before entries).value.1.map t.shown).Perm
        (before.map t.shown
          ++ (entries.flatMap fun (service, s) => declaredAll service s.activities).map t.declared)
  | [], before => by
      rw [List.flatMap_nil, List.map_nil, List.append_nil]
      exact .refl _
  | (name, s) :: rest, before => by
      simp only [layoutServices, Noted.value_bind, Noted.value_pure]
      rw [List.flatMap_cons, List.map_append, ← List.append_assoc]
      refine (layoutServices_perm m page rest _).trans (List.Perm.append_right _ ?_)
      exact t.layoutTop_perm m.functions name (m.bridges.get? name) s.activities before

theorem layoutEntry_perm (functions : Module) (services : Dict Service) (arena : List Activity)
    (name : String) (entry : Document.CommonActivity) :
    ((layoutEntry functions services arena name entry).value.map t.shown).Perm
      ((declaredCommon name entry).map t.declared ++ t.references services [(name, entry)]) := by
  cases entry with
  | definition a =>
    rw [references, List.filterMap_cons_none rfl, List.filterMap_nil, List.append_nil]
    exact t.layout_perm functions processService none none arena.length name a
  | reference r =>
    rw [layoutEntry, layoutReference_value, List.map_cons, layoutAll_map,
      t.forwards _ _ _ _ _ (layoutAll_rising ..).1]
    -- the reference itself stands first here and last there
    refine List.Perm.trans ?_ (List.perm_append_singleton (t.reference services name r) _).symm
    refine List.Perm.cons _ (((declaredAll_byPriority processService _).map t.declared).trans ?_)
    exact t.declaredAll_arranged processService r.subActivities

theorem layoutCommon_perm (functions : Module) (services : Dict Service) :
    ∀ (entries : List (String × Document.CommonActivity)) (before : List Activity),
      ((layoutCommon functions services before entries).value.1.map t.shown).Perm
        (before.map t.shown
          ++ ((entries.flatMap fun (name, entry) => declaredCommon name entry).map t.declared
            ++ t.references services entries))
  | [], before => by
      simp [layoutCommon, references]
  | (name, entry) :: rest, before => by
      simp only [layoutCommon, Noted.value_bind, Noted.value_pure]
      have these := t.layoutEntry_perm functions services before name entry
      have all : t.references services ((name, entry) :: rest)
          = t.references services [(name, entry)] ++ t.references services rest := by
        cases entry <;> rfl
      refine (layoutCommon_perm functions services rest _).trans ?_
      rw [List.flatMap_cons, List.map_append, List.map_append, all, List.append_assoc,
        List.append_assoc]
      refine List.Perm.append_left _ ((these.append_right _).trans ?_)
      -- the references of the first entry move behind what the others declare
      rw [List.append_assoc]
      exact List.Perm.append_left _ (List.perm_append_comm_assoc ..)

/-- **What a flow holds before parameters are mapped**: every declared activity once, and every
reference. -/
theorem declared_perm (m : Materials) (page : Document.Page) (process : Document.Process) :
    ((Flow.declared m page process).value.arena.map t.shown).Perm
      ((Load.declared process).map t.declared
        ++ t.references (Flow.declared m page process).value.services
          process.common.activities) := by
  simp only [Flow.declared, Noted.value_bind, Noted.value_pure]
  refine (t.layoutCommon_perm m.functions _ process.common.activities _).trans ?_
  have services := t.layoutServices_perm m page process.services []
  rw [Load.declared, List.map_append, List.append_assoc]
  exact List.Perm.append_right _ services

end Trait

/-! ## §4. Outlines. -/

/-- What an activity of a flow keeps of its document. -/
structure Outline where
  service : String
  name : String
  isReference : Bool
  required : List Document.Required
  storeResult : Option Document.StoreTarget
  definitions : Dict Document.Parameter
  bodyDefinitions : Dict Document.Parameter

/-- The outline of an activity. -/
def Activity.outline (a : Activity) : Outline where
  service := a.service
  name := a.name
  isReference := a.isReference
  required := a.required
  storeResult := a.storeResult
  definitions := a.definitions
  bodyDefinitions := a.bodyDefinitions

theorem Retains.outline {a b : Activity} (h : Retains a b) : b.outline = a.outline := by
  rw [Activity.outline, h.isReference, h]
  rfl

/-- The outline of a declared activity. -/
def outlineOf (d : Load.Declared) : Outline where
  service := d.service
  name := d.name
  isReference := false
  required := d.activity.requiredActivities
  storeResult := d.activity.storeResult
  definitions := d.activity.parameters
  bodyDefinitions := d.activity.requestBody.getD []

/-- The outline of a reference: it keeps its name, and whether there is a target. -/
def outlineOfReference (services : Dict Service) (name : String) (r : Document.Reference) :
    Outline where
  service := processService
  name := name
  isReference :=
    ((services.get? r.serviceName).bind fun s => s.activities.get? r.activityName).isSome
  required := []
  storeResult := none
  definitions := []
  bodyDefinitions := []

/-- An outline is taken over, and no parameter is mapped yet. -/
def outlines : Trait (Outline × Dict Source × Dict DynamicParameter × Dict Source) where
  shown a := (a.outline, a.parameters, a.dynamicParameters, a.requestBody)
  declared d := (outlineOf d, [], [], [])
  reference services name r := (outlineOfReference services name r, [], [], [])
  laid functions service name a bridge parent places _ := by
    have own : (rootOf (unplaced functions service name a bridge) parent places).isReference
        = false := isReference_unplaced functions service name a bridge
    rw [Activity.outline, own]
    rfl
  arranged service name a := by
    cases a
    rfl
  forwards services arena name r places _ := by
    have own : (rootOf (forwarding services arena name r) none places).isReference
        = (outlineOfReference services name r).isReference := by
      unfold Activity.isReference rootOf forwarding outlineOfReference
      cases (services.get? r.serviceName).bind fun s => s.activities.get? r.activityName <;> rfl
    rw [Activity.outline, own]
    rfl

variable {m : Materials} {page : Document.Page} {process : Document.Process} {flow : Flow}

/-- **What is declared is in the arena of a built flow.** -/
theorem IsBuilt.exists_outline (hb : IsBuilt m page process flow) {d : Load.Declared}
    (hd : d ∈ Load.declared process) : ∃ a ∈ flow.arena, a.outline = outlineOf d := by
  have shown : outlines.declared d ∈ (declared m page process).value.arena.map outlines.shown :=
    (outlines.declared_perm m page process).mem_iff.mpr
      (List.mem_append_left _ (List.mem_map_of_mem hd))
  obtain ⟨a, ha, shown⟩ := List.mem_map.mp shown
  obtain ⟨i, hi⟩ := List.mem_iff_getElem?.mp ha
  -- to map its parameters leaves the outline as it is
  obtain ⟨b, hb, retains, _⟩ := hb.rounded.at hi
  exact ⟨b, List.mem_of_getElem? hb, retains.outline.trans (congrArg Prod.fst shown)⟩

/-- No parameter of the activity is mapped. -/
structure IsUnmapped (a : Activity) : Prop where
  parameters : a.parameters = []
  dynamicParameters : a.dynamicParameters = []
  requestBody : a.requestBody = []

/-- **What stands in the arena before parameters are mapped is declared, or a reference**, which
has no definitions. -/
theorem outline_of_mem_declared {a : Activity}
    (ha : a ∈ (declared m page process).value.arena) :
    IsUnmapped a ∧ ((∃ d ∈ Load.declared process, a.outline = outlineOf d)
      ∨ a.definitions = [] ∧ a.bodyDefinitions = []) := by
  have shown := (outlines.declared_perm m page process).mem_iff.mp (List.mem_map_of_mem ha)
  rcases List.mem_append.mp shown with h | h
  · obtain ⟨d, hd, h⟩ := List.mem_map.mp h
    obtain ⟨outline, parameters, dynamic, body⟩ : outlineOf d = a.outline ∧ _ ∧ _ ∧ _ := by
      simpa only [outlines, Prod.mk.injEq] using h
    exact ⟨⟨parameters.symm, dynamic.symm, body.symm⟩, .inl ⟨d, hd, outline.symm⟩⟩
  · obtain ⟨⟨name, entry⟩, _, h⟩ := List.mem_filterMap.mp h
    cases entry with
    | definition => contradiction
    | reference r =>
      obtain ⟨outline, parameters, dynamic, body⟩ :
          outlineOfReference _ name r = a.outline ∧ _ ∧ _ ∧ _ := by
        simpa only [outlines, Prod.mk.injEq] using Option.some.inj h
      exact ⟨⟨parameters.symm, dynamic.symm, body.symm⟩,
        .inr ⟨congrArg Outline.definitions outline.symm,
          congrArg Outline.bodyDefinitions outline.symm⟩⟩

/-! ## §5. Sub-activities. -/

/-- Sub-activities stand in the order of the arena. -/
def subActivitiesRise : Trait Prop where
  shown a := Rising a.subActivities
  declared _ := True
  reference _ _ _ := True
  laid _ _ _ _ _ _ _ rising := eq_true rising
  arranged _ _ _ := rfl
  forwards _ _ _ _ _ rising := eq_true rising

/-- **The sub-activities of an activity of a built flow stand in the order of the arena**, each
once. -/
theorem IsBuilt.subActivities_rising (hb : IsBuilt m page process flow) {place : Nat}
    {a : Activity} (ha : flow.arena[place]? = some a) : Rising a.subActivities := by
  have rounded := hb.rounded
  by_cases hlt : place < (declared m page process).value.arena.length
  · obtain ⟨b, hb', retains, _⟩ := rounded.at (List.getElem?_eq_getElem hlt)
    obtain rfl := Option.some.inj (ha.symm.trans hb')
    rw [retains.subActivities]
    have shown := (subActivitiesRise.declared_perm m page process).mem_iff.mp
      (List.mem_map_of_mem (List.getElem_mem hlt))
    rcases List.mem_append.mp shown with h | h
    · obtain ⟨d, _, rises⟩ := List.mem_map.mp h
      exact of_eq_true rises.symm
    · obtain ⟨⟨name, entry⟩, _, rises⟩ := List.mem_filterMap.mp h
      cases entry with
      | definition => contradiction
      | reference => exact of_eq_true (Option.some.inj rises).symm
  · -- a maker has none
    obtain ⟨maker, _⟩ := rounded.added place a (by omega) ha
    rw [maker.subActivities]
    exact .nil

end Pageflow.Flow
