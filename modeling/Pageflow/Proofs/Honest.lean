/-
  Pageflow.Proofs.Honest — states in which files are only described by those who may.

  A host selects files for the inputs of services.  A state is honest if the files that are
  selected in it are among these, if whatever else the host has set and whatever is stored is
  vouched for, and if the inputs registered with a service belong to it.  Everything that a run
  does to a state keeps it honest, provided that the results which it stores are vouched for.

  Main definitions: `Selection` and `Honest`.
  Main statements: `Honest.modifyService`, `Honest.settle`, `Honest.insertInputs` and
  `honest_initial`.
-/
import Pageflow.Proofs.Declarations
import Pageflow.Proofs.Vouched
import Pageflow.Proofs.Written

namespace Pageflow.Run

open Document (Executed StoreScope processService)
open Pageflow.Flow (Activity Input IsBuilt Materials inputsOf)

/-! ## §1. Honest states. -/

/-- The files that a host ever selects, by service and input. -/
abbrev Selection := String → String → String → Prop

/-- The file is selected for some input of the service. -/
def Selection.Has (Sel : Selection) (service path : String) : Prop :=
  ∃ input, Sel service input path

/-- Nothing in the state describes a file that it may not describe. -/
structure Honest (V : String → Prop) (Sel : Selection) (s : State) : Prop where
  file : ∀ service input path, s.file? service input = some path → Sel service input path
  value : ∀ service input v, s.value? service input = some v → Vouched V v
  scratch : Fine V s.scratch.values
  store : ∀ name state, s.service? name = some state → Fine V state.store.values
  input : ∀ name state, s.service? name = some state → ∀ e ∈ state.inputs, e.2.service = name

variable {V : String → Prop} {Sel : Selection} {s t : State}

/-- Only what the host lends and what is kept by services matters. -/
theorem Honest.congr (h : Honest V Sel s) (files : t.files = s.files)
    (values : t.values = s.values) (scratch : t.scratch = s.scratch)
    (services : ∀ name, t.service? name = s.service? name) : Honest V Sel t where
  file service input path hp := h.file service input path (by
    rw [State.file?, files] at hp
    exact hp)
  value service input v hv := h.value service input v (by
    rw [State.value?, values] at hv
    exact hv)
  scratch := scratch ▸ h.scratch
  store name state hs := h.store name state (services name ▸ hs)
  input name state hs := h.input name state (services name ▸ hs)

/-- **What is stored in an honest state is vouched for**, whichever store it is in. -/
theorem Honest.storeFor (h : Honest V Sel s) (scope : StoreScope) (service : String) :
    Fine V (s.storeFor scope service).values := by
  -- an unknown service has the store of the process
  have process : Fine V s.process.store.values := h.store processService _ (State.service?_process s)
  cases scope with
  | activity => exact h.scratch
  | process => exact process
  | service =>
    unfold State.storeFor
    cases hs : s.service? service with
    | some state => exact h.store service state hs
    | none => exact process

/-- The input that a service has under a name belongs to it. -/
theorem Honest.service_of_input? (h : Honest V Sel s) {service name : String} {i : Input}
    (hi : s.input? service name = some i) : i.service = service := by
  obtain ⟨state, hs, hi⟩ := Option.bind_eq_some_iff.mp hi
  exact h.input service state hs _ (Dict.mem_of_get? hi)

/-! ## §2. What keeps a state honest. -/

theorem Honest.write (n : Note) (h : Honest V Sel s) : Honest V Sel (Journal.write n s) :=
  h.congr rfl rfl rfl fun _ => rfl

theorem Honest.display (d : Display) (h : Honest V Sel s) : Honest V Sel (s.display d) :=
  h.congr rfl rfl rfl fun _ => rfl

theorem Honest.mark (place : Nat) (stage : Stage) (h : Honest V Sel s) :
    Honest V Sel (s.mark place stage) :=
  h.congr rfl rfl rfl fun _ => rfl

theorem Honest.emit (event : Event) (h : Honest V Sel s) : Honest V Sel (s.emit event) := by
  refine h.congr ?_ ?_ (State.scratch_emit event s) (State.service?_emit event s)
  · unfold State.emit
    cases s.listener <;> rfl
  · unfold State.emit
    cases s.listener <;> rfl

theorem lent_modifyService (s : State) (name : String) (f : ServiceState → ServiceState) :
    (s.modifyService name f).files = s.files ∧ (s.modifyService name f).values = s.values := by
  unfold State.modifyService
  split
  · exact ⟨rfl, rfl⟩
  split <;> exact ⟨rfl, rfl⟩

/-- **A service may be changed so that it stays honest by itself.** -/
theorem Honest.modifyService (h : Honest V Sel s) {name : String}
    {f : ServiceState → ServiceState}
    (store : ∀ state, Fine V state.store.values → Fine V (f state).store.values)
    (input : ∀ state : ServiceState, (∀ e ∈ state.inputs, e.2.service = name) →
      ∀ e ∈ (f state).inputs, e.2.service = name) : Honest V Sel (s.modifyService name f) := by
  have lent := lent_modifyService s name f
  -- a service is as it was, unless it is the one that is changed
  have changed : ∀ other state, (s.modifyService name f).service? other = some state →
      s.service? other = some state
        ∨ other = name ∧ ∃ before, s.service? name = some before ∧ f before = state := by
    intro other state hs
    rw [State.service?_modifyService] at hs
    split at hs
    next same => exact .inr ⟨same, Option.map_eq_some_iff.mp hs⟩
    next => exact .inl hs
  refine ⟨?_, ?_, ?_, ?_, ?_⟩
  · intro service input path hp
    rw [State.file?, lent.1] at hp
    exact h.file service input path hp
  · intro service input v hv
    rw [State.value?, lent.2] at hv
    exact h.value service input v hv
  · rw [State.scratch_modifyService]
    exact h.scratch
  · intro other state hs
    rcases changed other state hs with same | ⟨rfl, before, found, rfl⟩
    · exact h.store other state same
    · exact store before (h.store other before found)
  · intro other state hs
    rcases changed other state hs with same | ⟨rfl, before, found, rfl⟩
    · exact h.input other state same
    · exact input before (h.input other before found)

/-- A result that is vouched for may be stored. -/
theorem Honest.modifyStore (h : Honest V Sel s) (scope : StoreScope) (service key : String)
    {v : Json} (hv : Vouched V v) :
    Honest V Sel (s.modifyStore scope service fun store => store.write key v) := by
  have inService : ∀ name, Honest V Sel
      (s.modifyService name fun state => { state with store := state.store.write key v }) :=
    fun name => h.modifyService (fun _ fine => fine.insert hv) fun _ own => own
  cases scope with
  | activity => exact ⟨h.file, h.value, h.scratch.insert hv, h.store, h.input⟩
  | process => exact inService _
  | service => exact inService _

/-- **A result that is vouched for may become known.** -/
theorem Honest.settle (h : Honest V Sel s) (place : Nat) (a : Activity) {result : Json}
    (hr : Vouched V result) : Honest V Sel (s.settle place a result) := by
  refine Honest.mark place _ ?_
  unfold State.storeResult
  split
  · exact h
  · split
    · exact h
    · exact h.modifyStore _ _ _ hr

theorem Honest.complete (h : Honest V Sel s) (place : Nat) (a : Activity) (result : Json) :
    Honest V Sel (s.complete place a result) := by
  have marked : Honest V Sel (s.mark place (.completed result)) := h.mark _ _
  unfold State.complete
  simp only
  split
  · exact marked
  · refine Honest.emit ⟨.completed, a.executed⟩ ?_
    exact marked.congr rfl rfl rfl fun _ => rfl

theorem service_of_inputsOf {service : String} {ui : Document.Ui} {e : String × Input}
    (h : e ∈ inputsOf service ui) : e.2.service = service := by
  have h := Dict.mem_of_mem_ofList h
  simp only [List.mem_append, List.mem_map] at h
  rcases h with ((⟨_, _, rfl⟩ | ⟨_, _, rfl⟩) | ⟨_, _, rfl⟩) | ⟨_, _, rfl⟩ <;> rfl

theorem service_of_register {state : ServiceState} {service : String} {ui : Document.Ui}
    (own : ∀ e ∈ state.inputs, e.2.service = service) :
    ∀ e ∈ (state.register service ui).inputs, e.2.service = service := by
  intro e he
  rcases Dict.mem_of_mem_insertAll he with he | he
  · exact own e he
  · exact service_of_inputsOf he

/-- **Inputs that a result describes belong to the service** that they are shown for. -/
theorem Honest.insertInputs (h : Honest V Sel s) (service : String) (ui : Document.Ui) :
    Honest V Sel (insertInputs service ui s) := by
  have registered : Honest V Sel
      (s.modifyService service fun state => state.register service ui) :=
    h.modifyService (fun _ fine => fine) fun _ own => service_of_register own
  exact registered.display _

theorem Honest.setRunning (h : Honest V Sel s) (service : String) (name : Option String) :
    Honest V Sel (s.modifyService service fun state => { state with running := name }) :=
  h.modifyService (fun _ fine => fine) fun _ own => own

theorem Honest.release (h : Honest V Sel s) (service : String) :
    Honest V Sel (s.release service) := by
  -- besides the service it frees, a release empties the store of activities
  have free := h.setRunning service none
  exact ⟨free.file, free.value, fine_nil, free.store, free.input⟩

/-- What the host lends may change to what fits. -/
theorem Honest.lend (h : Honest V Sel s) (query : Dict String) {values : Dict (Dict Json)}
    {files : Dict (Dict String)} (listener : Listener)
    (fits : ∀ service inputs input path, files.get? service = some inputs →
      inputs.get? input = some path → Sel service input path)
    (fine : ∀ service inputs, values.get? service = some inputs → Fine V inputs) :
    Honest V Sel { s with query, values, files, listener } where
  file service input path hp := by
    obtain ⟨inputs, hi, hp⟩ := Option.bind_eq_some_iff.mp hp
    exact fits service inputs input path hi hp
  value service input v hv := by
    obtain ⟨inputs, hi, hv⟩ := Option.bind_eq_some_iff.mp hv
    exact (fine service inputs hi).get? hv
  scratch := h.scratch
  store := h.store
  input := h.input

/-! ## §3. The state at the start. -/

/-- A service of a built flow goes by its name. -/
theorem name_of_isBuilt {m : Materials} {page : Document.Page} {process : Document.Process}
    {flow : Flow} (hb : IsBuilt m page process flow) {name : String} {service : Flow.Service}
    (h : flow.service? name = some service) : service.name = name := by
  obtain ⟨_, _, _, rfl⟩ := hb
  unfold Flow.service? at h
  split at h
  next hp =>
    obtain rfl := Option.some.inj h
    exact hp.symm
  next =>
    exact (Flow.layoutServices_isEntry m page process.services [] _ (Dict.mem_of_get? h)).name

theorem service?_initial (flow : Flow) (name : String) :
    (initial flow).service? name = (flow.service? name).map initialService := by
  unfold State.service? Flow.service?
  split
  · rfl
  · exact Dict.get?_mapValues initialService flow.services name

/-- **A built flow starts honest**: nothing is stored, selected or set. -/
theorem honest_initial {m : Materials} {page : Document.Page} {process : Document.Process}
    {flow : Flow} (hb : IsBuilt m page process flow) (V : String → Prop) (Sel : Selection) :
    Honest V Sel (initial flow) where
  file := by
    intro service input path hp
    contradiction
  value := by
    intro service input v hv
    contradiction
  scratch := fine_nil
  store := by
    intro name state hs
    rw [service?_initial] at hs
    obtain ⟨service, _, rfl⟩ := Option.map_eq_some_iff.mp hs
    exact fine_nil
  input := by
    intro name state hs
    rw [service?_initial] at hs
    obtain ⟨service, hservice, rfl⟩ := Option.map_eq_some_iff.mp hs
    rw [← name_of_isBuilt hb hservice]
    exact service_of_register fun e he => absurd he List.not_mem_nil

end Pageflow.Run
