/-
  Pageflow.Proofs.Places — how the activities of a flow refer to each other.

  An activity may start others: those that make its values, the target if it is a reference, and
  its sub-activities.  In an orderly flow makers and sub-activities stand behind the activity and
  targets before it, and only a reference has a target, which is no reference itself.

  Main definitions: `Activity.callees`, `IsMaker` and `Orderly`.
-/
import Pageflow.Flow.Basic

namespace Pageflow.Flow

/-! ## §1. Whom an activity may start. -/

/-- The activity that makes the value of a source. -/
def Source.maker? : Source → Option Nat
  | generate maker => some maker
  | _ => none

theorem Source.eq_generate_of_maker? {source : Source} {maker : Nat}
    (h : source.maker? = some maker) : source = generate maker := by
  cases source <;> simp_all [maker?]

/-- The activity that a strategy forwards to. -/
def Strategy.target? : Strategy → Option Nat
  | reference target => some target
  | _ => none

namespace Activity

/-- The activities that make values for this one. -/
def makers (a : Activity) : List Nat :=
  (a.parameters.values ++ a.requestBody.values).filterMap Source.maker?
    ++ a.dynamicParameters.values.filterMap DynamicParameter.generator

/-- The activity that this one forwards to. -/
def target? (a : Activity) : Option Nat := a.strategy.bind Strategy.target?

/-- The activities that a run of this one may start. -/
def callees (a : Activity) : List Nat := a.makers ++ a.target?.toList ++ a.subActivities

theorem target?_eq_some {a : Activity} {target : Nat} :
    a.target? = some target ↔ a.strategy = some (.reference target) := by
  obtain hs | ⟨s, hs⟩ := Option.eq_none_or_eq_some a.strategy
  · simp [target?, hs]
  · cases s <;> simp [target?, Strategy.target?, hs]

theorem target?_of_not_isReference {a : Activity} (h : a.isReference = false) :
    a.target? = none := by
  obtain hs | ⟨s, hs⟩ := Option.eq_none_or_eq_some a.strategy
  · simp [target?, hs]
  · cases s <;> simp_all [target?, Strategy.target?, isReference, Strategy.isReference]

theorem isReference_of_target?_eq_some {a : Activity} {target : Nat}
    (h : a.target? = some target) : a.isReference = true := by
  rw [target?_eq_some] at h
  simp [isReference, h, Strategy.isReference]

theorem mem_callees {a : Activity} {k : Nat} :
    k ∈ a.callees ↔ k ∈ a.makers ∨ a.target? = some k ∨ k ∈ a.subActivities := by
  simp [callees]

theorem mem_makers_of_parameter {a : Activity} {name : String} {maker : Nat}
    (h : (name, Source.generate maker) ∈ a.parameters) : maker ∈ a.makers := by
  refine List.mem_append_left _ (List.mem_filterMap.mpr ⟨.generate maker, ?_, rfl⟩)
  exact List.mem_append_left _ (List.mem_map.mpr ⟨_, h, rfl⟩)

theorem mem_makers_of_body {a : Activity} {name : String} {maker : Nat}
    (h : (name, Source.generate maker) ∈ a.requestBody) : maker ∈ a.makers := by
  refine List.mem_append_left _ (List.mem_filterMap.mpr ⟨.generate maker, ?_, rfl⟩)
  exact List.mem_append_right _ (List.mem_map.mpr ⟨_, h, rfl⟩)

theorem mem_makers_of_dynamic {a : Activity} {name : String} {p : DynamicParameter}
    {maker : Nat} (h : (name, p) ∈ a.dynamicParameters) (hp : p.generator = some maker) :
    maker ∈ a.makers :=
  List.mem_append_right _ (List.mem_filterMap.mpr ⟨p, List.mem_map.mpr ⟨_, h, rfl⟩, hp⟩)

end Activity

/-- The maker of a source that a definition gives is the one it was given. -/
theorem Source.maker?_of_ofParameter? {p : Document.Parameter} {generator : Option Nat}
    {source : Source} {maker : Nat} (h : ofParameter? p generator = some source)
    (hm : source.maker? = some maker) : generator = some maker := by
  unfold ofParameter? at h
  repeat' split at h
  all_goals first
    | (obtain rfl := Option.some.inj h; simp [maker?] at hm)
    | skip
  · obtain ⟨k, hk, rfl⟩ := Option.map_eq_some_iff.mp h
    simp only [maker?, Option.some.injEq] at hm
    rw [hk, hm]
  · obtain ⟨name, _, rfl⟩ := Option.map_eq_some_iff.mp h
    simp [maker?] at hm

/-! ## §2. Activities that make values. -/

/-- It makes a generated value and does nothing else: it requires nothing, has no sub-activities,
and its result is neither stored nor shown. -/
structure IsMaker (a : Activity) : Prop where
  isGenerated : a.isGenerated = true
  isReference : a.isReference = false
  parent : a.parent = none
  subActivities : a.subActivities = []
  required : a.required = []
  storeResult : a.storeResult = none
  presentation : a.presentation = {}
  overrides : a.overrides = none
  preProcess : a.preProcess = none

/-- The activities differ at most in what their parameters come from. -/
def Retains (a b : Activity) : Prop :=
  b = { a with
    parameters := b.parameters
    dynamicParameters := b.dynamicParameters
    requestBody := b.requestBody }

namespace Retains

variable {a b : Activity}

theorem refl (a : Activity) : Retains a a := rfl

theorem service (h : Retains a b) : b.service = a.service := by rw [h]

theorem name (h : Retains a b) : b.name = a.name := by rw [h]

theorem parent (h : Retains a b) : b.parent = a.parent := by rw [h]

theorem subActivities (h : Retains a b) : b.subActivities = a.subActivities := by rw [h]

theorem strategy (h : Retains a b) : b.strategy = a.strategy := by rw [h]

theorem isGenerated (h : Retains a b) : b.isGenerated = a.isGenerated := by rw [h]

theorem isReference (h : Retains a b) : b.isReference = a.isReference := by
  rw [Activity.isReference, h.strategy, Activity.isReference]

theorem target? (h : Retains a b) : b.target? = a.target? := by
  rw [Activity.target?, h.strategy, Activity.target?]

theorem isMaker (h : Retains a b) (ha : IsMaker a) : IsMaker b where
  isGenerated := h.isGenerated.trans ha.isGenerated
  isReference := h.isReference.trans ha.isReference
  parent := h.parent.trans ha.parent
  subActivities := h.subActivities.trans ha.subActivities
  required := by rw [h]; exact ha.required
  storeResult := by rw [h]; exact ha.storeResult
  presentation := by rw [h]; exact ha.presentation
  overrides := by rw [h]; exact ha.overrides
  preProcess := by rw [h]; exact ha.preProcess

end Retains

/-! ## §3. Orderly flows. -/

/-- What is declared below an activity: no reference, and no maker of values. -/
structure IsDeclared (a : Activity) : Prop where
  isGenerated : a.isGenerated = false
  isReference : a.isReference = false

/-- How the activity at place `i` refers to the others of an arena. -/
structure Placed (arena : List Activity) (i : Nat) (a : Activity) : Prop where
  /-- Sub-activities stand behind, and know whose they are. -/
  sub : ∀ k ∈ a.subActivities, i < k ∧
    ∃ b, arena[k]? = some b ∧ IsDeclared b ∧ b.parent = some i ∧ b.service = a.service
  /-- The activity above stands before, and counts it among its own. -/
  above : ∀ p, a.parent = some p → p < i ∧ ∃ b, arena[p]? = some b ∧ i ∈ b.subActivities
  /-- A target stands before, at the top of its service. -/
  target : ∀ t, a.target? = some t → t < i ∧
    ∃ b, arena[t]? = some b ∧ IsDeclared b ∧ b.parent = none
  /-- Only the process has references. -/
  reference : a.isReference = true → a.service = Document.processService
  /-- Makers stand behind. -/
  maker : ∀ k ∈ a.makers, i < k ∧
    ∃ b, arena[k]? = some b ∧ IsMaker b ∧ b.service = a.service
  /-- A generated activity is a maker. -/
  generated : a.isGenerated = true → IsMaker a

/-- A flow whose activities are in order, and whose services name activities of their own. -/
structure Orderly (flow : Flow) : Prop where
  placed : ∀ i a, flow.arena[i]? = some a → Placed flow.arena i a
  top : ∀ service name k, flow.find? service name = some k →
    ∃ a, flow.arena[k]? = some a ∧ a.service = service ∧ a.parent = none ∧ a.isGenerated = false

end Pageflow.Flow
