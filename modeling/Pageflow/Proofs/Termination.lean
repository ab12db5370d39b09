/-
  Pageflow.Proofs.Termination — every run of a built flow comes to an end.

  All places that the activities of a built flow name are in its list.  Sub-activities and makers
  stand behind the activity that calls them and targets before it, but a target is no reference:
  there is no endless chain of calls.  So a run nests only so deep, and ends whatever the answers
  are.

  Main definition: `Activity.NamesBelow`.
  Main statement: `runs_terminate`.
-/
import Pageflow.Proofs.Steps

namespace Pageflow

namespace Flow

/-! ## §1. Places in bounds. -/

/-- Every place that the activity names is below `n`. -/
structure Activity.NamesBelow (a : Activity) (n : Nat) : Prop where
  subActivity : ∀ k ∈ a.subActivities, k < n
  parent : ∀ k, a.parent = some k → k < n
  target : ∀ k, a.strategy = some (.reference k) → k < n
  parameter : ∀ name k, (name, Source.generate k) ∈ a.parameters → k < n
  body : ∀ name k, (name, Source.generate k) ∈ a.requestBody → k < n
  dynamic : ∀ name p k, (name, p) ∈ a.dynamicParameters → p.generator = some k → k < n

variable {flow : Flow}

theorem lt_of_calls (ho : Orderly flow) {h k : Nat} (hc : flow.Calls h k) :
    k < flow.arena.length := by
  obtain ⟨b, hb⟩ := exists_of_calls ho hc
  exact (List.getElem?_eq_some_iff.mp hb).1

theorem Orderly.namesBelow (ho : Orderly flow) {place : Nat} {a : Activity}
    (ha : flow.arena[place]? = some a) : a.NamesBelow flow.arena.length := by
  have maker : ∀ k ∈ a.makers, k < flow.arena.length := fun k hk =>
    lt_of_calls ho ⟨a, ha, Activity.mem_callees.mpr (.inl hk)⟩
  constructor
  case subActivity =>
    intro k hk
    exact lt_of_calls ho ⟨a, ha, Activity.mem_callees.mpr (.inr (.inr hk))⟩
  case parent =>
    intro k hk
    obtain ⟨_, b, hb, _⟩ := (ho.placed place a ha).above k hk
    exact (List.getElem?_eq_some_iff.mp hb).1
  case target =>
    intro k hk
    rw [← Activity.target?_eq_some] at hk
    exact lt_of_calls ho ⟨a, ha, Activity.mem_callees.mpr (.inr (.inl hk))⟩
  case parameter =>
    intro name k hk
    exact maker k (Activity.mem_makers_of_parameter hk)
  case body =>
    intro name k hk
    exact maker k (Activity.mem_makers_of_body hk)
  case dynamic =>
    intro name p k hp hk
    exact maker k (Activity.mem_makers_of_dynamic hp hk)

end Flow

namespace Run

open Pageflow.Flow (Activity IsBuilt Materials Orderly assemble? isBuilt_getD)

/-! ## §2. Runs. -/

theorem execute_terminates {flow : Flow} (ho : Orderly flow) {place : Nat}
    (hlt : place < flow.arena.length) (before : Inherited) (shows : Bool) (s : State) :
    (execute flow place before shows s).Terminates := by
  have h : (execute flow place before shows).Within (Steps flow fun _ => True) :=
    execute_within ho (fun _ _ _ _ => trivial) (fun _ _ _ => trivial) place hlt trivial _ _
  exact (h s).terminates

variable {m : Materials} {page : Document.Page} {process : Document.Process} {flow : Flow}

/-- **Every run of a built flow ends.**  The places that activities name are in bounds, and calls
do not go on for ever.  A run of an activity depends on others only as far as it calls them, and
`execute` runs the callees of an activity in the same way as the activity; so a run ends from
every place and state, whatever the answers are. -/
theorem runs_terminate (hb : IsBuilt m page process flow) :
    (WellFounded fun k h => flow.Calls h k)
    ∧ ∀ (place : Nat) (a : Activity), flow.arena[place]? = some a →
        a.NamesBelow flow.arena.length
        ∧ ∀ before shows,
          (∀ run run' : Executor, (∀ k, flow.Calls place k → run k = run' k) →
            runActivity flow run place a before shows = runActivity flow run' place a before shows)
          ∧ execute flow place before shows
            = traced place before (runActivity flow (execute flow) place a before shows)
          ∧ ∀ s, (execute flow place before shows s).Terminates := by
  have ho := hb.orderly
  refine ⟨Flow.calls_wellFounded ho, ?_⟩
  intro place a ha
  refine ⟨ho.namesBelow ha, ?_⟩
  intro before shows
  refine ⟨?_, execute_eq ho ha before shows, ?_⟩
  · intro run run' h
    exact runActivity_congr fun k hk => h k ⟨a, ha, hk⟩
  · exact execute_terminates ho (List.getElem?_eq_some_iff.mp ha).1 before shows

/-! ## §3. A flow. -/

/-- A shop that is to be loaded before something is sold, and can be loaded again. -/
def shopProcess : Document.Process where
  services := [("shop",
    { activities := [
        ("load",
          { moduleFunction := some "fetch"
            parameters := [("key", { generate := some { moduleFunction := some "make" } })]
            subActivities := [("check", { moduleFunction := some "make" })]
            storeResult := some { key := "stock" } }),
        ("sell",
          { moduleFunction := some "make"
            requiredActivities := [{ activityName := "load" }] })] })]
  common :=
    { activities := [("again", .reference { serviceName := "shop", activityName := "load" })] }

def shopMaterials : Materials where
  functions := [("fetch", ⟨"shop", "fetch", ["key"]⟩), ("make", ⟨"shop", "make", []⟩)]
  bridges := []

/-- The flow of the shop: to load, to check, to sell, to load again, and to make the key. -/
def shopFlow : Flow := (assemble? shopMaterials {} shopProcess).value.getD default

theorem shopFlow_isBuilt : IsBuilt shopMaterials {} shopProcess shopFlow :=
  isBuilt_getD (by decide +kernel)

/-- Loading calls the activities behind it, and loading again calls the one before it. -/
theorem runs_terminate_shop :
    IsBuilt shopMaterials {} shopProcess shopFlow
    ∧ shopFlow.Calls 0 1 ∧ shopFlow.Calls 0 4 ∧ shopFlow.Calls 3 0
    ∧ (WellFounded fun k h => shopFlow.Calls h k)
    ∧ ∀ s, (execute shopFlow 3 {} true s).Terminates := by
  have assembled := shopFlow_isBuilt
  obtain ⟨calls, ends⟩ := runs_terminate assembled
  have again : 3 < shopFlow.arena.length := by decide +kernel
  obtain ⟨_, runs⟩ := ends 3 _ (List.getElem?_eq_getElem again)
  refine ⟨assembled, ?_, ?_, ?_, calls, (runs {} true).2.2⟩
  all_goals decide +kernel

end Run

end Pageflow
