/-
  Pageflow.Proofs.Nesting — runs nest no deeper than their depth allows.

  An activity runs others only if they are among its callees.  In an orderly flow a rank falls
  from an activity to its callees: that of a reference is the number of activities, that of any
  other activity the number of those behind it.  Any two depths above the rank of an activity
  give the same run, so the depth that `execute` starts with bounds nothing.

  Main statements: `calls_wellFounded` and `execute_eq`.
-/
import Pageflow.Proofs.Closed
import Pageflow.Proofs.Mapping
import Pageflow.Run.Host

namespace Pageflow

namespace Flow

/-! ## §1. The rank of an activity. -/

/-- A run of the activity at place `h` may run the one at place `k`. -/
def Calls (flow : Flow) (h k : Nat) : Prop :=
  ∃ a, flow.arena[h]? = some a ∧ k ∈ a.callees

instance (flow : Flow) (h k : Nat) : Decidable (flow.Calls h k) :=
  decidable_of_iff ((flow.arena[h]?).any (fun a => a.callees.contains k) = true) (by
    rw [Option.any_eq_true]
    simp only [List.contains_iff_mem, Calls])

/-- How deep runs of the activity at a place may nest. -/
def rank (flow : Flow) (place : Nat) : Nat :=
  if (flow.arena[place]?).any Activity.isReference then flow.arena.length
  else flow.arena.length - 1 - place

theorem rank_of_isReference {flow : Flow} {place : Nat} {a : Activity}
    (ha : flow.arena[place]? = some a) (hr : a.isReference = true) :
    flow.rank place = flow.arena.length := by
  simp [rank, ha, hr]

theorem rank_of_not_isReference {flow : Flow} {place : Nat} {a : Activity}
    (ha : flow.arena[place]? = some a) (hr : a.isReference = false) :
    flow.rank place = flow.arena.length - 1 - place := by
  simp [rank, ha, hr]

theorem rank_le (flow : Flow) (place : Nat) : flow.rank place ≤ flow.arena.length := by
  unfold rank
  split
  · exact Nat.le_refl _
  · omega

variable {flow : Flow}

/-- What is behind an activity and no reference has a lower rank. -/
theorem rank_lt_of_behind {h k : Nat} {a b : Activity} (ha : flow.arena[h]? = some a)
    (hb : flow.arena[k]? = some b) (hr : b.isReference = false) (hlt : h < k) :
    flow.rank k < flow.rank h := by
  obtain ⟨hk, _⟩ := List.getElem?_eq_some_iff.mp hb
  rw [rank_of_not_isReference hb hr]
  cases har : a.isReference with
  | true =>
    rw [rank_of_isReference ha har]
    omega
  | false =>
    rw [rank_of_not_isReference ha har]
    omega

/-- **The rank falls from an activity to its callees.** -/
theorem rank_lt_of_calls (ho : Orderly flow) {h k : Nat} (hc : flow.Calls h k) :
    flow.rank k < flow.rank h := by
  obtain ⟨a, ha, hk⟩ := hc
  have placed := ho.placed h a ha
  rcases Activity.mem_callees.mp hk with hk | hk | hk
  · obtain ⟨hlt, b, hb, maker, _⟩ := placed.maker k hk
    exact rank_lt_of_behind ha hb maker.isReference hlt
  · obtain ⟨_, b, hb, declared, _⟩ := placed.target k hk
    obtain ⟨hlt, _⟩ := List.getElem?_eq_some_iff.mp hb
    -- a target stands before the reference, but the rank of a reference is above all others
    rw [rank_of_isReference ha (Activity.isReference_of_target?_eq_some hk),
      rank_of_not_isReference hb declared.isReference]
    omega
  · obtain ⟨hlt, b, hb, declared, _⟩ := placed.sub k hk
    exact rank_lt_of_behind ha hb declared.isReference hlt

/-- Callees have places of their own. -/
theorem exists_of_calls (ho : Orderly flow) {h k : Nat} (hc : flow.Calls h k) :
    ∃ b, flow.arena[k]? = some b := by
  obtain ⟨a, ha, hk⟩ := hc
  have placed := ho.placed h a ha
  rcases Activity.mem_callees.mp hk with hk | hk | hk
  · obtain ⟨_, b, hb, _⟩ := placed.maker k hk
    exact ⟨b, hb⟩
  · obtain ⟨_, b, hb, _⟩ := placed.target k hk
    exact ⟨b, hb⟩
  · obtain ⟨_, b, hb, _⟩ := placed.sub k hk
    exact ⟨b, hb⟩

/-- There is no endless chain of calls. -/
theorem calls_wellFounded (ho : Orderly flow) :
    WellFounded fun k h => flow.Calls h k :=
  Subrelation.wf (fun hc => rank_lt_of_calls ho hc) (measure flow.rank).wf

end Flow

namespace Run

open Pageflow.Flow (Activity Source Strategy)

/-! ## §2. A run depends on how callees are run, and on nothing else of others. -/

section Congruence

variable {run run' : Executor} {make make' : Maker} {a a' : Activity} {before before' : Inherited}

/-- The values of sources are the same if the value of each is. -/
theorem sourceValues_congr :
    ∀ (sources : Dict Source) (values : Dict Json),
      (∀ source ∈ sources.values,
        sourceValue make a before source = sourceValue make' a' before' source) →
      sourceValues make a before sources values = sourceValues make' a' before' sources values
  | [], _, _ => rfl
  | (_, source) :: rest, _, h => by
      simp only [sourceValues, h source List.mem_cons_self]
      congr 1
      funext value
      exact sourceValues_congr rest _ fun source hs => h source (List.mem_cons_of_mem _ hs)

theorem dynamicValues_congr (name : a'.name = a.name) :
    ∀ (ps : Dict Flow.DynamicParameter) (values : Dict Json),
      (∀ p ∈ ps.values, ∀ source, p.source? = some source →
        sourceValue make a before source = sourceValue make' a' before' source) →
      dynamicValues make a before ps values = dynamicValues make' a' before' ps values
  | [], _, _ => rfl
  | (parameter, p) :: rest, _, h => by
      have others := fun values => dynamicValues_congr name rest values
        fun p hp => h p (List.mem_cons_of_mem _ hp)
      have first : dynamicValue make a before parameter p
          = dynamicValue make' a' before' parameter p := by
        unfold dynamicValue
        cases hs : p.source? with
        | none => simp only [name]
        | some source => simp only [h p List.mem_cons_self source hs, name]
      simp only [dynamicValues, first, others]

/-- The arguments of activities that differ at most in their strategy are the same if the value of
each source is. -/
theorem argumentsOf_congr (same : a' = { a with strategy := a'.strategy })
    (h : ∀ source ∈ a.sources,
      sourceValue (maker run) a before source = sourceValue (maker run') a' before' source) :
    argumentsOf run a before = argumentsOf run' a' before' := by
  have parameters : parameterValues (maker run) a before
      = parameterValues (maker run') a' before' := by
    unfold parameterValues
    rw [show a'.parameters = a.parameters by rw [same],
      show a'.dynamicParameters = a.dynamicParameters by rw [same],
      sourceValues_congr _ _ fun source hs => h source (Activity.mem_sources_of_parameter hs)]
    congr 1
    funext values
    exact dynamicValues_congr (by rw [same]) _ _ fun p hp source hs =>
      h source (Activity.mem_sources_of_dynamic hp hs)
  have body : requestBody (maker run) a before = requestBody (maker run') a' before' := by
    unfold requestBody
    rw [show a'.requestBody = a.requestBody by rw [same], show a'.name = a.name by rw [same]]
    split
    · rfl
    -- the whole of it comes from one source, and else its parts from one each
    cases hw : a.requestBody.get? wholeBody with
    | some source => simp only [h source (Activity.mem_sources_of_whole hw)]
    | none =>
      simp only [sourceValues_congr _ _ fun source hs =>
        h source (Activity.mem_sources_of_part hw hs)]
  unfold argumentsOf
  rw [parameters, body]

/-- The value of a source depends on its maker. -/
theorem sourceValue_congr {source : Source} (h : ∀ k, source.maker? = some k → run k = run' k) :
    sourceValue (maker run) a before source = sourceValue (maker run') a before source := by
  cases source with
  | generate k => simp only [sourceValue, madeValue, maker, h k rfl]
  | _ => rfl

theorem resultOf_congr (flow : Flow) (place : Nat) {strategy : Strategy}
    (h : ∀ k, strategy.target? = some k → run k = run' k) (arguments : Arguments) :
    resultOf flow run place a strategy arguments
      = resultOf flow run' place a strategy arguments := by
  have call : callStrategy run strategy arguments = callStrategy run' strategy arguments := by
    cases strategy with
    | reference target => simp only [callStrategy, h target rfl]
    | _ => rfl
  simp only [resultOf, dispatch, call]

theorem cascade_congr (parent : Json) (shows : Bool) :
    ∀ (places : List Nat) (previous : Option Json), (∀ k ∈ places, run k = run' k) →
      cascade run parent shows places previous = cascade run' parent shows places previous
  | [], _, _ => rfl
  | k :: rest, previous, h => by
      simp only [cascade, h k List.mem_cons_self]
      congr 1
      funext result
      exact cascade_congr parent shows rest _ fun k hk => h k (List.mem_cons_of_mem _ hk)

/-- **A run of an activity depends on how its callees are run.** -/
theorem runActivity_congr {flow : Flow} {place : Nat} {shows : Bool}
    (h : ∀ k ∈ a.callees, run k = run' k) :
    runActivity flow run place a before shows = runActivity flow run' place a before shows := by
  have arguments : argumentsOf run a before = argumentsOf run' a before :=
    argumentsOf_congr rfl fun source hs => sourceValue_congr fun k hk =>
      h k (Activity.mem_callees.mpr (.inl (Activity.mem_makers_of_source hs hk)))
  have cascade := fun parent => cascade_congr parent shows a.subActivities none
    fun k hk => h k (Activity.mem_callees.mpr (.inr (.inr hk)))
  unfold runActivity
  cases hs : a.strategy with
  | none => rfl
  | some strategy =>
    have result : ∀ arguments, resultOf flow run place a strategy arguments
        = resultOf flow run' place a strategy arguments := by
      apply resultOf_congr
      intro k hk
      refine h k (Activity.mem_callees.mpr (.inr (.inl ?_)))
      rw [Activity.target?, hs]
      exact hk
    simp only [resultFor, settle, handDown, arguments, result, cascade]

end Congruence

/-! ## §3. Depth. -/

variable {flow : Flow}

theorem executeTo_succ {place : Nat} {a : Activity} (ha : flow.arena[place]? = some a)
    (depth : Nat) (before : Inherited) (shows : Bool) :
    executeTo flow (depth + 1) place before shows
      = traced place before (runActivity flow (executeTo flow depth) place a before shows) := by
  simp only [executeTo, ha]

/-- Depths above the rank of an activity give the same run. -/
theorem executeTo_congr (ho : Flow.Orderly flow) :
    ∀ (depth depth' place : Nat), flow.rank place < depth → flow.rank place < depth' →
      executeTo flow depth place = executeTo flow depth' place
  | depth + 1, depth' + 1, place, h, h' => by
      funext before shows
      cases ha : flow.arena[place]? with
      | none => simp only [executeTo, ha]
      | some a =>
        -- one depth less on both sides is above the rank of every callee
        rw [executeTo_succ ha, executeTo_succ ha]
        congr 1
        apply runActivity_congr
        intro k hk
        have hlt := Flow.rank_lt_of_calls ho ⟨a, ha, hk⟩
        exact executeTo_congr ho depth depth' k (by omega) (by omega)

/-- **A run of an activity is its steps, its callees being run in the same way.** -/
theorem execute_eq (ho : Flow.Orderly flow) {place : Nat} {a : Activity}
    (ha : flow.arena[place]? = some a) (before : Inherited) (shows : Bool) :
    execute flow place before shows
      = traced place before (runActivity flow (execute flow) place a before shows) := by
  unfold execute
  rw [executeTo_succ ha]
  congr 1
  apply runActivity_congr
  intro k hk
  have hlt := Flow.rank_lt_of_calls ho ⟨a, ha, hk⟩
  have hle := Flow.rank_le flow place
  exact executeTo_congr ho _ _ k (by omega) (by omega)

end Run

end Pageflow
