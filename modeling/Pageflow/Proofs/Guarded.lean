/-
  Pageflow.Proofs.Guarded — runs under the mark of a service.

  An operation finds its activity by name and runs it under the mark of its service.  If the
  service runs already, the operation is refused at once and nothing changes.  If it is free, the
  mark is set, the run takes place, and whatever becomes of it the service is released.

  No step of an activity starts or releases a service.

  Main definitions: `State.running?`, `State.occupy` and `State.runs`.
  Main statements: `guarded_of_busy`, `guarded_of_free`, `runs_release` and `runs_step`.
-/
import Pageflow.Proofs.Steps

namespace Pageflow.Run

open Pageflow.Flow (Activity)

/-! ## §1. The mark of a service. -/

namespace State

/-- What the service was started for, if it runs. -/
def running? (s : State) (service : String) : Option String :=
  (s.service? service).bind ServiceState.running

/-- The state after the service has started. -/
def occupy (s : State) (service name : String) : State :=
  s.modifyService service fun state => { state with running := some name }

end State

variable {ε α : Type} {service name : String} {s : State}

theorem start_of_busy {other : String} (h : s.running? service = some other) :
    start service name s = .done (.error (.alreadyRunning service)) s := by
  unfold start
  rw [get_bind_apply]
  simp only [show (s.service? service).bind ServiceState.running = some other from h]
  rfl

theorem start_of_free (h : s.running? service = none) :
    start service name s = .done (.ok ()) (s.occupy service name) := by
  unfold start
  rw [get_bind_apply]
  simp only [show (s.service? service).bind ServiceState.running = none from h]
  rfl

theorem start_within {R : State → State → Prop} (hR : Task.Chained R)
    (occupied : ∀ s, R s (s.occupy service name)) : (start service name).Within R := by
  refine within_bind hR (within_get hR) ?_
  intro s
  split
  · exact within_fail hR _
  · exact within_modify occupied

/-- **A service that runs refuses to be started again**, and nothing changes. -/
theorem guarded_of_busy {other : String} (h : s.running? service = some other)
    (r : Run State HostError α) :
    guarded service name r s = .done (.error (.alreadyRunning service)) s :=
  bind_of_done_error (start_of_busy h)

/-- **A service that is free is started, and released whatever becomes of the run.** -/
theorem guarded_of_free (h : s.running? service = none) (r : Run State HostError α) :
    guarded service name r s
      = (r (s.occupy service name)).bind fun outcome t => .done outcome (t.release service) := by
  -- after the release the outcome is given back as it was
  have released : ∀ (outcome : Except HostError α) (t : State),
      ((modify (State.release service) >>= fun _ => ofExcept outcome :
        Run State HostError α) t) = .done outcome (t.release service) := by
    intro outcome t
    cases outcome <;> rfl
  show (start service name s).bind _ = _
  rw [start_of_free h]
  show ((r (s.occupy service name)).bind _).bind _ = _
  rw [Task.bind_assoc]
  congr 1
  funext outcome t
  exact released outcome t

/-! ## §2. What services run. -/

namespace State

/-- What the process runs, and what each declared service runs. -/
def runs (s : State) : Option String × Dict (Option String) :=
  (s.process.running, s.services.mapValues ServiceState.running)

/-- Sets what a service runs. -/
def setRunning (s : State) (service : String) (name : Option String) : State :=
  s.modifyService service fun state => { state with running := name }

/-- To release a service is to take its mark away and to empty the store of the run. -/
theorem release_eq (s : State) (service : String) : s.release service
    = { s.setRunning service none with scratch := (s.setRunning service none).scratch.clear } := by
  have kept : (s.setRunning service none).scratch = s.scratch := scratch_modifyService ..
  rw [kept]
  rfl

variable {s t : State} {service : String}

theorem map_running_service? (s : State) (name : String) :
    (s.service? name).map ServiceState.running
      = if name = Document.processService then some s.runs.1 else s.runs.2.get? name := by
  unfold service? runs
  split <;> simp

theorem map_running_congr (h : t.runs = s.runs) (name : String) :
    (t.service? name).map ServiceState.running = (s.service? name).map ServiceState.running := by
  rw [map_running_service?, map_running_service?, h]

theorem running?_congr (h : t.runs = s.runs) (name : String) :
    t.running? name = s.running? name := by
  have joined : ∀ u : State, u.running? name
      = ((u.service? name).map ServiceState.running).join := by
    intro u
    cases hu : u.service? name <;> simp [running?, hu]
  rw [joined, joined, map_running_congr h]

theorem isSome_service?_congr (h : t.runs = s.runs) (name : String) :
    (t.service? name).isSome = (s.service? name).isSome := by
  have same := congrArg Option.isSome (map_running_congr h name)
  rwa [Option.isSome_map, Option.isSome_map] at same

/-- What changes about a service beside what it runs does not count. -/
theorem runs_modifyService (s : State) (name : String) {f : ServiceState → ServiceState}
    (hf : ∀ state, (f state).running = state.running) : (s.modifyService name f).runs = s.runs := by
  unfold modifyService
  split
  · simp only [runs, hf]
  split
  next state hs =>
    have known : (s.services.mapValues ServiceState.running).get? name = some state.running := by
      rw [Dict.get?_mapValues, hs, Option.map_some]
    simp only [runs, Dict.mapValues_insert, hf, Dict.insert_of_get? known]
  next => rfl

theorem runs_setRunning (s : State) (service : String) (name : Option String) :
    (s.setRunning service name).runs
      = if service = Document.processService then (name, s.runs.2)
        else (s.runs.1, if (s.runs.2.get? service).isSome then s.runs.2.insert service name
          else s.runs.2) := by
  unfold setRunning modifyService
  split
  · rfl
  · -- a service that is not declared is not added
    cases hs : s.services.get? service with
    | none => simp [runs, hs]
    | some state => simp [runs, hs, Dict.mapValues_insert]

theorem runs_setRunning_setRunning (s : State) (service : String) (name last : Option String) :
    ((s.setRunning service name).setRunning service last).runs
      = (s.setRunning service last).runs := by
  simp only [runs_setRunning]
  split
  · rfl
  split <;> simp_all [Dict.insert_insert]

theorem runs_setRunning_self {name : Option String} (h : s.running? service = name) :
    (s.setRunning service name).runs = s.runs := by
  subst h
  unfold setRunning modifyService running? service?
  split
  · rfl
  · cases hs : s.services.get? service with
    | none => rfl
    | some state =>
      have known : (s.services.mapValues ServiceState.running).get? service
          = some state.running := by
        rw [Dict.get?_mapValues, hs, Option.map_some]
      simp [runs, Dict.mapValues_insert, Dict.insert_of_get? known]

/-- **A service that was free is as it was when it is released**, and so are all others. -/
theorem runs_release {name : String} (free : s.running? service = none)
    (h : t.runs = (s.occupy service name).runs) : (t.release service).runs = s.runs := by
  calc (t.release service).runs
      = (t.setRunning service none).runs := rfl
    _ = ((s.setRunning service (some name)).setRunning service none).runs := by
        have h' : t.runs = (s.setRunning service (some name)).runs := h
        simp only [runs_setRunning _ service none, h']
    _ = (s.setRunning service none).runs := runs_setRunning_setRunning ..
    _ = s.runs := runs_setRunning_self free

@[simp] theorem trail_occupy (s : State) (service name : String) :
    (s.occupy service name).trail = s.trail := trail_modifyService ..

@[simp] theorem trail_release (s : State) (service : String) :
    (s.release service).trail = s.trail := trail_modifyService s service _

theorem service?_setRunning (s : State) (service other : String) (name : Option String) :
    (s.setRunning service name).service? other
      = if other = service then (s.service? service).map fun state => { state with running := name }
        else s.service? other :=
  service?_modifyService s service other _

theorem isSome_service?_setRunning (s : State) (service other : String) (name : Option String) :
    ((s.setRunning service name).service? other).isSome = (s.service? other).isSome := by
  rw [service?_setRunning]
  split
  next h => rw [Option.isSome_map, h]
  next => rfl

theorem running?_occupy (known : (s.service? service).isSome = true) (name other : String) :
    (s.occupy service name).running? other
      = if other = service then some name else s.running? other := by
  obtain ⟨state, hstate⟩ := Option.isSome_iff_exists.mp known
  have occupied := service?_setRunning s service other (some name)
  unfold running?
  show ((s.setRunning service (some name)).service? other).bind ServiceState.running = _
  rw [occupied, hstate]
  split <;> rfl

theorem running?_release (s : State) (service other : String) :
    (s.release service).running? other = if other = service then none else s.running? other := by
  unfold running?
  show ((s.setRunning service none).service? other).bind ServiceState.running = _
  rw [service?_setRunning]
  split
  · cases s.service? service <;> rfl
  · rfl

theorem runs_emit (event : Event) (s : State) : (emit event s).runs = s.runs := by
  cases h : s.listener <;> simp [emit, h, runs, Journal.write]

theorem runs_modifyStore (s : State) (scope : Document.StoreScope) (service : String)
    (f : Store → Store) : (s.modifyStore scope service f).runs = s.runs := by
  cases scope with
  | activity => rfl
  | process => exact runs_modifyService s _ fun _ => rfl
  | service => exact runs_modifyService s _ fun _ => rfl

end State

/-- Nothing runs before anything happens. -/
theorem running?_initial (flow : Flow) (name : String) : (initial flow).running? name = none := by
  unfold State.running? State.service? initial
  split
  · rfl
  · simp only [Dict.get?_mapValues, Option.bind_map]
    cases flow.services.get? name <;> rfl

variable {flow : Flow} {allowed : Mark → Prop} {t : State}

/-- **No step starts or releases a service.** -/
theorem runs_step (step : Step flow allowed s t) : t.runs = s.runs := by
  cases step with
  | @settle place a result _ _ _ =>
    unfold State.settle State.storeResult
    split
    · rfl
    split
    · rfl
    · exact State.runs_modifyStore s _ _ _
  | insert ui _ _ _ => exact State.runs_modifyService s _ fun _ => rfl
  | @complete place a result _ _ _ =>
    unfold State.complete
    cases a.isGenerated with
    | true => rfl
    | false => exact State.runs_emit _ _
  | _ => rfl

end Pageflow.Run
