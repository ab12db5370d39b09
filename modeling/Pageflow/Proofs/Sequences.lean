/-
  Pageflow.Proofs.Sequences — a sequence is its activities, one by one.

  A sequence runs its activities under one mark of its service, and the store of the run is kept
  from one to the next.  To start each of them on its own sets and takes away the mark every time,
  and empties that store.  What a run does depends on neither, if nothing that it reaches reads the
  store of the run.  So both ask the same questions, come to the same outcome, and leave the same
  state but for what that store holds.

  Main definitions: `State.atRest` and `oneByOne`.
  Main statements: `atRest_unread`, `steps_alike` and `sequence_is_its_activities`.
-/
import Pageflow.Proofs.Rejection
import Pageflow.Proofs.Starts

namespace Pageflow

/-- Entries are the same if two parts of their values are that determine the values. -/
theorem Dict.eq_of_mapValues {α β γ : Type} {f : α → β} {g : α → γ}
    (both : ∀ v w, f v = f w → g v = g w → v = w) :
    ∀ {d e : Dict α}, d.mapValues f = e.mapValues f → d.mapValues g = e.mapValues g → d = e
  | [], [], _, _ => rfl
  | (_, _) :: _, (_, _) :: _, hf, hg => by
      obtain ⟨entry, rest⟩ := List.cons.inj hf
      obtain ⟨entry', rest'⟩ := List.cons.inj hg
      obtain ⟨rfl, hv⟩ := Prod.mk.inj entry
      obtain rfl := both _ _ hv (Prod.mk.inj entry').2
      exact congrArg _ (eq_of_mapValues both rest rest')

namespace Run

open Document (StoreScope processService)
open Pageflow.Flow (Activity IsBuilt Materials Orderly)

/-! ## §1. The state at rest. -/

/-- The service as if it did not run. -/
def ServiceState.idle (p : ServiceState) : ServiceState := { p with running := none }

namespace State

/-- The state as if no service ran and nothing were kept for a run. -/
def atRest (s : State) : State :=
  { s with
    services := s.services.mapValues ServiceState.idle
    process := s.process.idle
    scratch := s.scratch.clear }

theorem service?_atRest (s : State) (name : String) :
    s.atRest.service? name = (s.service? name).map ServiceState.idle := by
  unfold service?
  split
  · rfl
  · exact Dict.get?_mapValues ServiceState.idle s.services name

/-- What runs does not count for a change that leaves it alone. -/
theorem atRest_modifyService (s : State) (name : String) {f : ServiceState → ServiceState}
    (hf : ∀ p, (f p).idle = f p.idle) :
    (s.modifyService name f).atRest = s.atRest.modifyService name f := by
  unfold modifyService
  split
  · simp only [atRest, hf]
  · have known : s.atRest.services.get? name = (s.services.get? name).map ServiceState.idle :=
      Dict.get?_mapValues ServiceState.idle s.services name
    rw [known]
    cases s.services.get? name with
    | none => rfl
    | some p => simp only [atRest, Dict.mapValues_insert, hf, Option.map_some]

theorem atRest_setRunning (s : State) (name : String) (what : Option String) :
    (s.setRunning name what).atRest = s.atRest := by
  unfold setRunning modifyService
  split
  · rfl
  · cases hs : s.services.get? name with
    | none => rfl
    | some p =>
      have known : (s.services.mapValues ServiceState.idle).get? name
          = some (ServiceState.idle { p with running := what }) := by
        rw [Dict.get?_mapValues, hs, Option.map_some]
        rfl
      simp only [atRest, Dict.mapValues_insert, Dict.insert_of_get? known]

theorem atRest_emit (event : Event) (s : State) : (emit event s).atRest = emit event s.atRest := by
  have same : s.atRest.listener = s.listener := rfl
  unfold emit
  rw [same]
  cases s.listener <;> rfl

theorem atRest_write (s : State) (scope : StoreScope) (service key : String) (value : Json) :
    (s.modifyStore scope service fun store => store.write key value).atRest
      = if scope = .activity then s.atRest
        else s.atRest.modifyStore scope service fun store => store.write key value := by
  have inService : ∀ name, (s.modifyService name fun state =>
        { state with store := state.store.write key value }).atRest
      = s.atRest.modifyService name fun state =>
        { state with store := state.store.write key value } :=
    fun name => atRest_modifyService s name fun _ => rfl
  unfold modifyStore
  cases scope with
  | activity => rfl
  | process => exact inService _
  | service =>
    simp only [service?_atRest, Option.isSome_map]
    exact inService _

theorem storeFor_atRest (s : State) {scope : StoreScope} (h : scope ≠ .activity)
    (service : String) : s.atRest.storeFor scope service = s.storeFor scope service := by
  cases scope with
  | activity => contradiction
  | process => rfl
  | service =>
    unfold storeFor
    rw [service?_atRest, Option.map_map]
    rfl

theorem input?_atRest (s : State) : s.atRest.input? = s.input? := by
  funext service name
  unfold input?
  rw [service?_atRest, Option.bind_map]
  rfl

end State

/-- The states are the same at rest. -/
def SameAtRest (s t : State) : Prop := t.atRest = s.atRest

variable {s t : State}

/-- A change keeps states the same at rest if what runs, or is kept for a run, does not count. -/
theorem SameAtRest.map (h : SameAtRest s t) (f : State → State)
    (hf : ∀ s, (f s).atRest = f s.atRest) : SameAtRest (f s) (f t) := by
  unfold SameAtRest
  rw [hf, hf, h]

/-- What does not depend on what runs, or is kept for a run, is the same. -/
theorem SameAtRest.congr {α : Type} (h : SameAtRest s t) (f : State → α)
    (hf : ∀ s, f s.atRest = f s) : f t = f s :=
  calc f t = f t.atRest := (hf t).symm
    _ = f s.atRest := congrArg f h
    _ = f s := hf s

theorem sameAtRest_settle (h : SameAtRest s t) (place : Nat) (a : Activity)
    (result : Json) : SameAtRest (s.settle place a result) (t.settle place a result) := by
  have stored : SameAtRest (s.storeResult a result) (t.storeResult a result) := by
    unfold State.storeResult
    split
    · exact h
    split
    · exact h
    · unfold SameAtRest
      rw [State.atRest_write, State.atRest_write, h]
  exact stored.map (State.mark place (.settled result)) fun _ => rfl

theorem sameAtRest_complete (h : SameAtRest s t) (place : Nat) (a : Activity)
    (result : Json) : SameAtRest (s.complete place a result) (t.complete place a result) := by
  have marked := h.map (State.mark place (.completed result)) fun _ => rfl
  have remembered := marked.map
    (fun s => { s with executed := State.remember a.executed s.executed }) fun _ => rfl
  unfold State.complete
  cases a.isGenerated with
  | true => exact marked
  | false => exact remembered.map _ (State.atRest_emit _)

theorem sameAtRest_insert (h : SameAtRest s t) (service : String)
    (ui : Document.Ui) : SameAtRest (insertInputs service ui s) (insertInputs service ui t) := by
  have registered : SameAtRest (s.modifyService service fun state => state.register service ui)
      (t.modifyService service fun state => state.register service ui) :=
    h.map (fun s => s.modifyService service fun state => state.register service ui) fun s =>
      s.atRest_modifyService service fun _ => rfl
  exact registered.map (State.display (.inputs service ui.inputNames)) fun _ => rfl

/-- **What does not read the store of the run cannot tell a state from the state at rest.** -/
theorem atRest_unread : Unread (fun scope _ => scope ≠ .activity) SameAtRest where
  look h :=
    { query := h.congr State.query fun _ => rfl
      value := h.congr State.value? fun _ => rfl
      file := h.congr State.file? fun _ => rfl
      input := h.congr State.input? State.input?_atRest
      store := fun scope service kept => h.congr (fun s => s.storeFor scope service) fun s =>
        s.storeFor_atRest kept service }
  executed h := h.congr State.executed fun _ => rfl
  note n _ _ h := h.map (Journal.write n) fun _ => rfl
  display d _ _ h := h.map (State.display d) fun _ => rfl
  mark place stage _ _ h := h.map (State.mark place stage) fun _ => rfl
  settle place a result _ _ h := sameAtRest_settle h place a result
  insert service ui _ _ h := sameAtRest_insert h service ui
  complete place a result _ _ h := sameAtRest_complete h place a result

theorem sameAtRest_occupy (h : SameAtRest s t) (service name : String) :
    SameAtRest s (t.occupy service name) :=
  (State.atRest_setRunning t service (some name)).trans h

theorem sameAtRest_release (h : SameAtRest s t) (service : String) :
    SameAtRest s (t.release service) := by
  unfold SameAtRest
  rw [State.release_eq]
  exact (State.atRest_setRunning t service none).trans h

/-- States that are the same at rest, and in which the same services run, differ at most in what is
kept for a run. -/
theorem SameAtRest.eq_of_runs (h : SameAtRest s t) (hr : t.runs = s.runs) :
    t = { s with scratch := t.scratch } := by
  have both : ∀ p q : ServiceState, p.idle = q.idle → p.running = q.running → p = q := by
    rintro ⟨_, _, _⟩ ⟨_, _, _⟩ hidle hrunning
    simp_all [ServiceState.idle]
  have process : t.process = s.process :=
    both _ _ (congrArg State.process h) (congrArg Prod.fst hr)
  have services : t.services = s.services :=
    Dict.eq_of_mapValues both (congrArg State.services h) (congrArg Prod.snd hr)
  calc t = { t.atRest with
        services := t.services, process := t.process, scratch := t.scratch } := rfl
    _ = { s.atRest with
        services := s.services, process := s.process, scratch := t.scratch } := by
      rw [h, services, process]
    _ = { s with scratch := t.scratch } := rfl

/-! ## §2. One by one. -/

/-- Activities of a service, each started on its own; the first failure stops them. -/
def oneByOne (flow : Flow) (service : String) : List String → Run State HostError (List Json)
  | [] => return []
  | name :: rest => do
    let result ← executeActivity flow service name true
    return result :: (← oneByOne flow service rest)

variable {flow : Flow} {service : String}

/-- No activity that a run of these activities reaches reads the store of the run. -/
def NoneReadsRun (flow : Flow) (service : String) (names : List String) : Prop :=
  ∀ name ∈ names, ∀ place k a, flow.find? service name = some place → flow.Reaches place k →
    flow.arena[k]? = some a → ¬ a.LooksInto .activity

theorem runTop_sameAtRest (ho : Orderly flow) {names : List String}
    (unread : NoneReadsRun flow service names) {name : String} (hn : name ∈ names) {place : Nat}
    {a : Activity} (known : knownActivity flow service name = .ok (place, a)) :
    Blind SameAtRest (runTop flow service name place a true) := by
  obtain ⟨hfind, ha⟩ := getElem?_of_knownActivity known
  have run : Blind SameAtRest (execute flow place {} true) := by
    have closed : ∀ h k, flow.Reaches place h → flow.Calls h k → flow.Reaches place k :=
      fun _ _ => .tail
    refine execute_blind ho atRest_unread closed ?_ (List.getElem?_eq_some_iff.mp ha).1 .refl {}
      true
    intro k b reaches hb scope looks
    rintro rfl
    exact unread name hn place k b hfind reaches hb looks
  refine runTop_closed (blind_closed SameAtRest) ?_ run
  exact fun e => blind_modify fun _ _ h => h.map _ (State.atRest_emit ⟨.failed, e⟩)

/-- **Activities run one after the other like each on its own**, from states that are the same at
rest. -/
theorem steps_alike (ho : Orderly flow) {known : Flow.Service}
    (hs : knownService flow service = .ok known) :
    ∀ {names : List String}, NoneReadsRun flow service names → ∀ {s t : State}, SameAtRest s t →
      t.running? service = none →
      (runSteps flow service names s).Alike SameAtRest (oneByOne flow service names t)
  | [], _, s, t, h, _ => .done _ h
  | name :: rest, unread, s, t, h, free => by
      cases found : knownActivity flow service name with
      | error e =>
        have left : runSteps flow service (name :: rest) s = .done (.error e) s := by
          rw [runSteps, found]
          rfl
        have right : oneByOne flow service (name :: rest) t = .done (.error e) t := by
          rw [oneByOne, executeActivity, hs, found]
          rfl
        rw [left, right]
        exact .done _ h
      | ok found' =>
        obtain ⟨place, a⟩ := found'
        have others : NoneReadsRun flow service rest :=
          fun name hn => unread name (List.mem_cons_of_mem _ hn)
        have run := runTop_sameAtRest ho unread List.mem_cons_self found
        have left : runSteps flow service (name :: rest) s
            = (runTop flow service name place a true >>= fun result =>
                runSteps flow service rest >>= fun results => pure (result :: results)) s := by
          rw [runSteps, found]
          rfl
        -- each one is started from a free service, and leaves it free
        have first : executeActivity flow service name true t
            = (runTop flow service name place a true (t.occupy service name)).bind
                fun outcome u => .done outcome (u.release service) := by
          rw [executeActivity, hs, found]
          exact guarded_of_free free _
        rw [left, oneByOne]
        show ((runTop flow service name place a true s).bind _).Alike SameAtRest
          ((executeActivity flow service name true t).bind _)
        rw [first, Task.bind_assoc]
        refine (run _ _ (sameAtRest_occupy h service name)).bind ?_
        intro outcome u v huv
        have next := sameAtRest_release huv service
        cases outcome with
        | error e => exact .done _ next
        | ok result =>
          have free' : (v.release service).running? service = none := by
            rw [State.running?_release, if_pos rfl]
          refine (steps_alike ho hs others next free').bind ?_
          intro results w x hwx
          cases results with
          | error e => exact .done _ hwx
          | ok results => exact .done _ hwx

/-- A sequence and its activities, one by one, go on alike from a free service. -/
theorem executeSequence_alike (ho : Orderly flow) {name : String} {names : List String}
    (known : knownSteps flow service name = .ok names) (unread : NoneReadsRun flow service names)
    (free : s.running? service = none) :
    (executeSequence flow service name s).Alike SameAtRest (oneByOne flow service names s) := by
  obtain ⟨found, hs⟩ : ∃ found, knownService flow service = .ok found := by
    unfold knownSteps at known
    split at known
    next found hs => exact ⟨found, hs⟩
    next => contradiction
  have steps := steps_alike ho hs unread
    (State.atRest_setRunning s service (some name)).symm free
  -- at its end the sequence releases the service
  rw [executeSequence_eq, known, ← (oneByOne flow service names s).bind_done_right]
  show (guarded service name (runSteps flow service names) s).Alike SameAtRest _
  rw [guarded_of_free free]
  refine steps.bind ?_
  intro outcome u v huv
  refine .done outcome ?_
  exact (sameAtRest_release (show SameAtRest v u from huv.symm) service).symm

/-! ## §3. What runs afterwards. -/

/-- **After an errand that nothing disturbs the same services run as before.** -/
theorem Errand.runs_of_ends (ho : Orderly flow) {e : Errand} {x : Except HostError Json}
    (h : (e.run flow s).Ends x t) : t.runs = s.runs := by
  have told : ∀ failure, (e.told failure s).runs = s.runs := fun _ => by cases e <;> rfl
  cases hw : e.work? flow with
  | error failure =>
    rw [Errand.run_of_unknown hw] at h
    rw [← h.2, told]
  | ok found =>
    obtain ⟨name, work⟩ := found
    cases hs : s.running? e.service with
    | some other =>
      rw [Errand.run_of_busy hw hs] at h
      rw [← h.2, told]
    | none =>
      have onward : ∀ s t u : State, Held flow e.service s t → Finished flow e.service t u →
          Finished flow e.service s u := by
        rintro s t u held ⟨v, held', ht⟩
        exact ⟨v, held.trans held', ht⟩
      have finished := Task.ends_of_passes onward (e.passes ho hw hs) h
      obtain ⟨u, hu, ht, _⟩ := Traffic.runs_of_finished finished
      exact ht.trans (State.runs_release hs hu)

theorem runs_of_oneByOne (ho : Orderly flow) :
    ∀ {names : List String} {s t : State} {x : Except HostError (List Json)},
      (oneByOne flow service names s).Ends x t → t.runs = s.runs
  | [], _, _, _, h => by rw [h.2]
  | name :: rest, s, t, x, h => by
      have alone : ∀ {y u}, (executeActivity flow service name true s).Ends y u →
          u.runs = s.runs := fun h => Errand.runs_of_ends ho (e := .activity service name true) h
      cases x with
      | error e =>
        rcases ends_bind_error.mp h with h | ⟨_, u, first, h⟩
        · exact alone h
        rcases ends_bind_error.mp h with h | ⟨_, _, _, h, _⟩
        · exact (runs_of_oneByOne ho h).trans (alone first)
        · contradiction
      | ok results =>
        obtain ⟨_, u, first, h⟩ := ends_bind_ok.mp h
        obtain ⟨_, v, others, _, rfl⟩ := ends_bind_ok.mp h
        exact (runs_of_oneByOne ho others).trans (alone first)

theorem runs_of_executeSequence (ho : Orderly flow) {name : String}
    {x : Except HostError (List Json)} (h : (executeSequence flow service name s).Ends x t) :
    t.runs = s.runs := by
  have ends : ((Errand.sequence service name).run flow s).Ends (x.map Json.array) t := by
    refine (Task.ends_bind _ _ _ _).mpr ⟨x, t, h, ?_⟩
    cases x <;> exact ⟨rfl, rfl⟩
  exact Errand.runs_of_ends ho ends

/-! ## §4. Sequences. -/

variable {m : Materials} {page : Document.Page} {process : Document.Process}

/-- **A sequence is its activities, one by one.**  Let a service be free, and let no activity that
a sequence of it reaches read the store of the run; whether any of them writes there does not
matter.  Then, whatever the functions and the other side of the wire answer, to run the sequence
and to run its activities on their own, one after the other up to the first failure, come to the
same: the same questions are asked, the results or the failure are the same, and so is the state
afterwards, but for what the store of the run holds. -/
theorem sequence_is_its_activities (hb : IsBuilt m page process flow) {known : Flow.Service}
    (hs : flow.service? service = some known) {name : String} {sequence : Document.Sequence}
    (hq : known.sequences.get? name = some sequence)
    (unread : NoneReadsRun flow service sequence.activities)
    (free : s.running? service = none) {ω : Type} (environment : Task.Environment ω) (world : ω) :
    ∃ outcome t u world',
      (executeSequence flow service name s).finish environment world
          = (some (outcome, t), world')
        ∧ (oneByOne flow service sequence.activities s).finish environment world
          = (some (outcome, u), world')
        ∧ (executeSequence flow service name s).asked environment world
          = (oneByOne flow service sequence.activities s).asked environment world
        ∧ u = { t with scratch := u.scratch } := by
  have ho := hb.orderly
  have steps : knownSteps flow service name = .ok sequence.activities := by
    simp only [knownSteps, knownService, hs, hq]
  have alike := executeSequence_alike ho steps unread free
  have within := executeSequence_closed (hostSteps_showing flow).toClosed (hostParts_within ho)
    service name s
  obtain ⟨outcome, t, world', ht⟩ := within.terminates.finish environment world
  obtain ⟨u, same, hu⟩ := alike.finish environment ht
  have runs : t.runs = s.runs := runs_of_executeSequence ho (Task.ends_of_finish environment ht)
  have runs' : u.runs = s.runs := runs_of_oneByOne ho (Task.ends_of_finish environment hu)
  refine ⟨outcome, t, u, world', ht, hu, alike.asked environment world, ?_⟩
  exact same.eq_of_runs (runs'.trans runs.symm)

/-- A bank whose day is to open and to close; what it counts first is kept for the run. -/
def dayProcess : Document.Process where
  services := [("bank",
    { activities := [
        ("open",
          { moduleFunction := some "count"
            storeResult := some { scope := .activity, key := "tally" } }),
        ("close", { moduleFunction := some "count", storeResult := some { key := "balance" } })]
      sequences := [("day", { activities := ["open", "close"] })] })]

def dayFlow : Flow := (Flow.assemble? Traffic.marketMaterials {} dayProcess).value.getD default

theorem dayFlow_isBuilt : IsBuilt Traffic.marketMaterials {} dayProcess dayFlow :=
  Flow.isBuilt_getD (by decide +kernel)

theorem sequence_is_its_activities_bank :
    (∃ known sequence, dayFlow.service? "bank" = some known
      ∧ known.sequences.get? "day" = some sequence
      ∧ NoneReadsRun dayFlow "bank" sequence.activities)
    ∧ (initial dayFlow).running? "bank" = none
    ∧ ∃ outcome t u world',
      (executeSequence dayFlow "bank" "day" (initial dayFlow)).finish Traffic.marketAnswers ()
          = (some (outcome, t), world')
        ∧ (oneByOne dayFlow "bank" ["open", "close"] (initial dayFlow)).finish
          Traffic.marketAnswers () = (some (outcome, u), world')
        ∧ (executeSequence dayFlow "bank" "day" (initial dayFlow)).asked Traffic.marketAnswers ()
          = (oneByOne dayFlow "bank" ["open", "close"] (initial dayFlow)).asked
            Traffic.marketAnswers ()
        ∧ u = { t with scratch := u.scratch } := by
  have day : (dayFlow.service? "bank").bind (fun known => known.sequences.get? "day")
      = some { activities := ["open", "close"] } := by decide +kernel
  obtain ⟨known, hs, hq⟩ := Option.bind_eq_some_iff.mp day
  have unread : NoneReadsRun dayFlow "bank" ["open", "close"] := by
    have none : ∀ a ∈ dayFlow.arena, ¬ a.LooksInto .activity := by decide +kernel
    exact fun _ _ _ _ a _ _ ha => none a (List.mem_of_getElem? ha)
  have free : (initial dayFlow).running? "bank" = none := by decide +kernel
  exact ⟨⟨known, _, hs, hq, unread⟩, free,
    sequence_is_its_activities dayFlow_isBuilt hs hq unread free _ _⟩

end Run

end Pageflow
