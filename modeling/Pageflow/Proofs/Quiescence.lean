/-
  Pageflow.Proofs.Quiescence — between operations nothing runs.

  An operation leaves every service as free as it found it, and the store of the run as it was or
  empty: it is refused before it starts anything, or it releases what it has occupied, however its
  work ends.  So after any operations, one after the other, no service runs and the store of the
  run is empty.

  Main definitions: `Rested` and `OneByOne`.
  Main statements: `Operation.rested` and `nothing_runs_between_operations`.
-/
import Pageflow.Proofs.Errands
import Pageflow.Proofs.Requirements

namespace Pageflow.Run

open Pageflow.Flow (IsBuilt Materials Orderly)

/-! ## §1. What an operation leaves behind. -/

/-- Every service runs what it did, and the store of the run is as it was or empty. -/
structure Rested (s t : State) : Prop where
  runs : t.runs = s.runs
  scratch : t.scratch.values = s.scratch.values ∨ t.scratch.values = []

theorem rested_chained : Task.Chained Rested where
  refl _ := ⟨rfl, .inl rfl⟩
  trans h h' := by
    refine ⟨h'.runs.trans h.runs, ?_⟩
    rcases h'.scratch with same | empty
    · rw [same]
      exact h.scratch
    · exact .inr empty

/-- However the run ends, what it leaves behind is at rest. -/
def EndsRested {ε α : Type} (r : Run State ε α) : Prop :=
  ∀ s x t, (r s).Ends x t → Rested s t

theorem endsRested_logging : Logging (EndsRested : Property State) where
  toClosed := leads_closed rested_chained
  note _ := leads_modify fun _ => ⟨rfl, .inl rfl⟩

variable {flow : Flow} {s t : State}

theorem rested_told (e : Errand) (failure : HostError) (s : State) :
    Rested s (e.told failure s) := by
  cases e <;> exact ⟨rfl, .inl rfl⟩

/-- **An errand releases what it has occupied**, or occupies nothing. -/
theorem Errand.endsRested (ho : Orderly flow) (e : Errand) : EndsRested (e.run flow) := by
  intro s x t h
  cases hw : e.work? flow with
  | error failure =>
    rw [Errand.run_of_unknown hw] at h
    obtain ⟨_, rfl⟩ := h
    exact rested_told e failure s
  | ok found =>
    obtain ⟨name, work⟩ := found
    cases hs : s.running? e.service with
    | some other =>
      rw [Errand.run_of_busy hw hs] at h
      obtain ⟨_, rfl⟩ := h
      exact rested_told e _ s
    | none =>
      have done : Finished flow e.service (s.occupy e.service name) t := by
        refine Task.ends_of_passes ?_ (e.passes ho hw hs) h
        rintro s t u held ⟨v, held', hu⟩
        exact ⟨v, held.trans held', hu⟩
      obtain ⟨u, held, ht⟩ := done
      have released := State.runs_release hs (runs_held held)
      obtain rfl | ⟨message, rfl⟩ := ht
      · exact ⟨released, .inr rfl⟩
      · exact ⟨released, .inr rfl⟩

/-- **An operation leaves every service as free as it found it**, however it ends. -/
theorem Operation.endsRested (ho : Orderly flow) (op : Operation) : EndsRested (op.run flow) := by
  have closed := endsRested_logging.toClosed
  cases op with
  | activity service name shows =>
    exact closed.bind (Errand.endsRested ho (.activity service name shows)) fun _ => closed.pure _
  | sequence service name =>
    refine closed.bind ?_ fun _ => closed.pure _
    intro s x t h
    -- the errand gives the results in another shape
    refine Errand.endsRested ho (.sequence service name) s (x.map Json.array) t ?_
    refine (Task.ends_bind _ _ _ _).mpr ⟨x, t, h, ?_⟩
    cases x <;> exact ⟨rfl, rfl⟩
  | autostart =>
    exact autostart_closed endsRested_logging
      fun service name => Errand.endsRested ho (.activity service name true)
  | call c => exact closed.bind (Errand.endsRested ho (.call c)) fun _ => closed.pure _

/-! ## §2. One operation after the other. -/

/-- An operation runs to its end, or the host lends something else. -/
inductive OneByOne (flow : Flow) : State → State → Prop
  | operation {s t : State} {result : Except HostError Unit} (op : Operation)
      (h : (op.run flow s).Ends result t) : OneByOne flow s t
  | lend (query : Dict String) (values : Dict (Dict Json)) (files : Dict (Dict String))
      (listener : Listener) (s : State) : OneByOne flow s { s with query, values, files, listener }

/-- No service runs, the process included, and the store of the run is empty. -/
structure Quiescent (s : State) : Prop where
  idle : ∀ service ∈ s.process :: s.services.values, service.running = none
  empty : s.scratch.values = []

theorem quiescent_initial (flow : Flow) : Quiescent (initial flow) where
  idle := by
    intro service h
    rcases List.mem_cons.mp h with rfl | h
    · rfl
    · obtain ⟨entry, he, rfl⟩ := List.mem_map.mp h
      obtain ⟨⟨_, declared⟩, _, rfl⟩ := List.mem_map.mp he
      rfl
  empty := rfl

theorem Quiescent.rested (hs : Quiescent s) (h : Rested s t) : Quiescent t where
  idle := by
    have listed : (t.process :: t.services.values).map ServiceState.running
        = (s.process :: s.services.values).map ServiceState.running := by
      obtain ⟨process, services⟩ := Prod.mk.inj h.runs
      have values : ∀ d : Dict ServiceState,
          d.values.map ServiceState.running = (d.mapValues ServiceState.running).values := by
        intro d
        simp [Dict.values, Dict.mapValues]
      rw [List.map_cons, List.map_cons, values, values, process, services]
    intro service hm
    have running := List.mem_map_of_mem (f := ServiceState.running) hm
    rw [listed] at running
    obtain ⟨known, hknown, same⟩ := List.mem_map.mp running
    rw [← same]
    exact hs.idle known hknown
  empty := by
    rcases h.scratch with same | empty
    · exact same.trans hs.empty
    · exact empty

theorem quiescent_of_oneByOne (ho : Orderly flow) (hs : Quiescent s) (h : OneByOne flow s t) :
    Quiescent t := by
  cases h with
  | operation op h => exact hs.rested (Operation.endsRested ho op s _ t h)
  | lend => exact ⟨hs.idle, hs.empty⟩

variable {m : Materials} {page : Document.Page} {process : Document.Process}

/-- **Between operations nothing runs.**  A new process is at rest, and after any operations, one
after the other, whatever each gives or fails with, it is at rest again: every service is free and
the store of the run is empty.  Every operation comes to an end. -/
theorem nothing_runs_between_operations (hb : IsBuilt m page process flow)
    (h : Relation.ReflTransGen (OneByOne flow) (initial flow) s) :
    Quiescent s ∧ ∀ op : Operation, (op.run flow s).Terminates := by
  have ho := hb.orderly
  constructor
  · induction h with
    | refl => exact quiescent_initial flow
    | tail _ step ih => exact quiescent_of_oneByOne ho ih step
  · intro op
    exact (op.within ho s).terminates

/-- What is sold before it is loaded fails; after that, and after loading, nothing runs. -/
theorem nothing_runs_between_operations_shop :
    ∃ s t e, ((Operation.activity "shop" "sell" true).run shopFlow (initial shopFlow)).Ends
        (.error e) s
      ∧ ((Operation.activity "shop" "load" true).run shopFlow s).Ends (.ok ()) t
      ∧ Quiescent s ∧ Quiescent t := by
  have sold : (((Operation.activity "shop" "sell" true).run shopFlow
      (initial shopFlow)).finish nullAnswers ()).1.map (fun r => r.1.toBool) = some false := by
    decide +kernel
  have loaded : (((Operation.activity "shop" "load" true).run shopFlow
      (shopAfter (.activity "shop" "sell" true) (initial shopFlow))).finish nullAnswers ()).1.map
        (fun r => r.1.toBool) = some true := by
    decide +kernel
  obtain ⟨⟨failed, s⟩, hs, hfailed⟩ := Option.map_eq_some_iff.mp sold
  obtain ⟨⟨done, t⟩, ht, hdone⟩ := Option.map_eq_some_iff.mp loaded
  have after : shopAfter (.activity "shop" "sell" true) (initial shopFlow) = s := by
    rw [shopAfter, hs, Option.map_some, Option.getD_some]
  rw [after] at ht
  have first := Task.ends_of_finish nullAnswers (Prod.ext hs rfl)
  have second := Task.ends_of_finish nullAnswers (Prod.ext ht rfl)
  have rested := nothing_runs_between_operations shopFlow_isBuilt (.single (.operation _ first))
  have rested' := nothing_runs_between_operations shopFlow_isBuilt
    (.tail (.single (.operation _ first)) (.operation _ second))
  cases failed with
  | ok _ => contradiction
  | error e =>
    cases done with
    | error _ => contradiction
    | ok _ => exact ⟨s, t, e, first, second, rested.1, rested'.1⟩

end Pageflow.Run
