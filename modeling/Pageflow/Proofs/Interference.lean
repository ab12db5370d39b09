/-
  Pageflow.Proofs.Interference — services and the stores of other services.

  A run that starts with an activity of a declared service never leaves the service: only
  references lead elsewhere, and these belong to the process.  An activity reads and writes the
  store of its service, that of the process and that of the run.  So what the stores of other
  declared services hold is neither seen nor changed.  Put as a statement about two runs: from
  states that differ only there they ask the same questions, come to the same outcome, and end in
  states that differ only there.

  Main definitions: `SameFor` and `Confined`.
  Main statements: `sameFor_unseen`, `confined_held` and `services_do_not_interfere`.
-/
import Pageflow.Proofs.Rejection
import Pageflow.Proofs.Related

namespace Pageflow

namespace Run

open Document (StoreScope processService)
open Pageflow.Flow (Activity IsBuilt Materials Orderly)

/-! ## §1. States that differ in the stores of others. -/

/-- The services differ at most in what their stores hold. -/
def Restocked (p q : ServiceState) : Prop :=
  q = { p with store := { p.store with values := q.store.values } }

/-- The states are the same for a service: they differ at most in what the stores of other declared
services hold. -/
structure SameFor (service : String) (s t : State) : Prop where
  services : s.services.Related (fun name p q => Restocked p q ∧ (name = service → q = p))
    t.services
  rest : t = { s with services := t.services }

variable {service : String} {s t : State}

namespace SameFor

theorem process (h : SameFor service s t) : t.process = s.process := by rw [h.rest]

theorem service? (h : SameFor service s t) (name : String) :
    Option.Rel Restocked (s.service? name) (t.service? name) := by
  unfold State.service?
  split
  · rw [h.process]
    exact .some rfl
  · match s.services.get? name, t.services.get? name, h.services.get? name with
    | _, _, .none => exact .none
    | _, _, .some same => exact .some same.1

/-- What the states differ in does not count for a change that leaves the services alone. -/
theorem map (h : SameFor service s t) (f : State → State)
    (hf : ∀ s services, f { s with services } = { f s with services }) :
    SameFor service (f s) (f t) := by
  obtain ⟨services, rest⟩ := h
  rw [rest, hf s t.services]
  refine ⟨?_, rfl⟩
  have same : f s = { f s with services := s.services } := hf s s.services
  have kept : (f s).services = s.services := by rw [same]
  rw [kept]
  exact services

/-- A change that restocked services take alike makes no difference to the service. -/
theorem modifyService (h : SameFor service s t) (name : String) {f : ServiceState → ServiceState}
    (hf : ∀ p q, Restocked p q → Restocked (f p) (f q)) :
    SameFor service (s.modifyService name f) (t.modifyService name f) := by
  unfold State.modifyService
  split
  · refine ⟨h.services, ?_⟩
    rw [h.process, h.rest]
  · match hs : s.services.get? name, ht : t.services.get? name, h.services.get? name with
    | _, _, .none => exact h
    | some p, some q, .some ⟨restocked, same⟩ =>
      refine ⟨h.services.insert ⟨hf p q restocked, ?_⟩, ?_⟩
      · intro hn
        rw [same hn]
      · simp only
        rw [h.rest]

/-- The service itself is the same, whatever its name is. -/
theorem own (h : SameFor service s t) : t.service? service = s.service? service := by
  unfold State.service?
  split
  · rw [h.process]
  · match s.services.get? service, t.services.get? service, h.services.get? service with
    | _, _, .none => rfl
    | _, _, .some same => rw [same.2 rfl]

theorem isSome_service? (h : SameFor service s t) (name : String) :
    (t.service? name).isSome = (s.service? name).isSome := by
  match s.service? name, t.service? name, h.service? name with
  | _, _, .none => rfl
  | _, _, .some _ => rfl

theorem emit (h : SameFor service s t) (event : Event) :
    SameFor service (s.emit event) (t.emit event) :=
  h.map (State.emit event) fun s _ => by
    cases hs : s.listener <;> simp [State.emit, hs, Journal.write]

theorem write (h : SameFor service s t) (scope : StoreScope) (name key : String) (value : Json) :
    SameFor service (s.modifyStore scope name fun store => store.write key value)
      (t.modifyStore scope name fun store => store.write key value) := by
  have inService : ∀ name, SameFor service
      (s.modifyService name fun state => { state with store := state.store.write key value })
      (t.modifyService name fun state => { state with store := state.store.write key value }) := by
    intro name
    refine h.modifyService name fun p q restocked => ?_
    rw [Restocked, restocked]
    rfl
  unfold State.modifyStore
  cases scope with
  | activity =>
    exact h.map (fun s => { s with scratch := s.scratch.write key value }) fun _ _ => rfl
  | process => exact inService _
  | service =>
    simp only [h.isSome_service? name]
    exact inService _

theorem settle (h : SameFor service s t) (place : Nat) (a : Activity) (result : Json) :
    SameFor service (s.settle place a result) (t.settle place a result) := by
  have stored : SameFor service (s.storeResult a result) (t.storeResult a result) := by
    unfold State.storeResult
    split
    · exact h
    split
    · exact h
    · exact h.write _ _ _ _
  exact stored.map (State.mark place (.settled result)) fun _ _ => rfl

theorem complete (h : SameFor service s t) (place : Nat) (a : Activity) (result : Json) :
    SameFor service (s.complete place a result) (t.complete place a result) := by
  have marked := h.map (State.mark place (.completed result)) fun _ _ => rfl
  have remembered := marked.map
    (fun s => { s with executed := State.remember a.executed s.executed }) fun _ _ => rfl
  unfold State.complete
  cases a.isGenerated with
  | true => exact marked
  | false => exact remembered.emit _

theorem insertInputs (h : SameFor service s t) (name : String) (ui : Document.Ui) :
    SameFor service (insertInputs name ui s) (insertInputs name ui t) := by
  have registered : SameFor service (s.modifyService name fun state => state.register name ui)
      (t.modifyService name fun state => state.register name ui) := by
    refine h.modifyService name fun p q restocked => ?_
    rw [Restocked, restocked]
    rfl
  exact registered.map (State.display (.inputs name ui.inputNames)) fun _ _ => rfl

theorem setRunning (h : SameFor service s t) (name : String) (what : Option String) :
    SameFor service (s.setRunning name what) (t.setRunning name what) := by
  refine h.modifyService name fun p q restocked => ?_
  rw [Restocked, restocked]

theorem running (h : SameFor service s t) : t.running? = s.running? := by
  funext name
  unfold State.running?
  match s.service? name, t.service? name, h.service? name with
  | _, _, .none => rfl
  | some p, some q, .some restocked => rw [Option.bind_some, Option.bind_some, restocked]

/-- The states look the same to a service that sees no store of another. -/
theorem sameLook (h : SameFor service s t) :
    SameLook (fun scope name => scope = .service → name = service) s t where
  query := by rw [h.rest]
  value := by rw [h.rest]; rfl
  file := by rw [h.rest]; rfl
  input := by
    funext name input
    unfold State.input?
    match s.service? name, t.service? name, h.service? name with
    | _, _, .none => rfl
    | some p, some q, .some restocked =>
      rw [Option.bind_some, Option.bind_some, restocked]
  store scope name own := by
    cases scope with
    | activity => rw [h.rest]; rfl
    | process => rw [h.rest]; rfl
    | service =>
      obtain rfl := own rfl
      unfold State.storeFor
      rw [h.own, h.process]

end SameFor

/-- **No service sees what the stores of other declared services hold.** -/
theorem sameFor_unseen (service : String) :
    Unseen (fun scope name => scope = .service → name = service) (SameFor service) where
  look h := h.sameLook
  executed h := by rw [h.rest]
  running h := h.running
  note n _ _ h := h.map (Journal.write n) fun _ _ => rfl
  display d _ _ h := h.map (State.display d) fun _ _ => rfl
  mark place stage _ _ h := h.map (State.mark place stage) fun _ _ => rfl
  settle place a result _ _ h := h.settle place a result
  insert name ui _ _ h := h.insertInputs name ui
  complete place a result _ _ h := h.complete place a result
  failed e _ _ h := h.emit ⟨.failed, e⟩
  occupy other name _ _ h := h.setRunning other (some name)
  release other s t h := by
    rw [State.release_eq, State.release_eq]
    exact (h.setRunning other none).map (fun s => { s with scratch := s.scratch.clear })
      fun _ _ => rfl

theorem sameFor_refl (service : String) (s : State) : SameFor service s s :=
  ⟨.refl (fun _ _ => ⟨rfl, fun _ => rfl⟩) _, rfl⟩

/-- To stock another declared service makes no difference to the service. -/
theorem sameFor_restock (s : State) {other : String} (hp : other ≠ processService)
    (ho : other ≠ service) {f : ServiceState → ServiceState} (hf : ∀ p, Restocked p (f p)) :
    SameFor service s (s.modifyService other f) := by
  unfold State.modifyService
  rw [if_neg hp]
  cases hs : s.services.get? other with
  | none => exact sameFor_refl service s
  | some p =>
    refine ⟨.replace (fun _ _ => ⟨rfl, fun _ => rfl⟩) hs ⟨hf p, ?_⟩, rfl⟩
    exact fun h => absurd h ho

/-! ## §2. What a service leaves alone. -/

/-- The stores of declared services stay as they are, but for that of this service. -/
def Confined (service : String) (s t : State) : Prop :=
  s.services.Related (fun name p q => name ≠ service → q.store = p.store) t.services

theorem confined_of_eq (h : t.services = s.services) : Confined service s t := by
  unfold Confined
  rw [h]
  exact .refl (fun _ _ _ => rfl) _

theorem confined_chained (service : String) : Task.Chained (Confined service) where
  refl _ := confined_of_eq rfl
  trans h h' := h.trans (fun _ _ _ _ first last other => (last other).trans (first other)) h'

theorem confined_modifyService (s : State) (name : String) {f : ServiceState → ServiceState}
    (hf : name ≠ service → ∀ p, (f p).store = p.store) :
    Confined service s (s.modifyService name f) := by
  unfold State.modifyService
  split
  · exact confined_of_eq rfl
  · cases hp : s.services.get? name with
    | none => exact confined_of_eq rfl
    | some p => exact .replace (fun _ _ _ => rfl) hp fun other => hf other p

theorem confined_emit (s : State) (event : Event) : Confined service s (s.emit event) :=
  confined_of_eq (by cases hs : s.listener <;> simp [State.emit, hs, Journal.write])

/-- What is written for an activity of the service is written to no store of another. -/
theorem confined_write (s : State) (scope : StoreScope) (key : String) (value : Json) :
    Confined service s (s.modifyStore scope service fun store => store.write key value) := by
  have toProcess : Confined service s (s.modifyService processService fun state =>
      { state with store := state.store.write key value }) :=
    confined_of_eq (by simp [State.modifyService])
  unfold State.modifyStore
  cases scope with
  | activity => exact confined_of_eq rfl
  | process => exact toProcess
  | service =>
    simp only
    split
    · exact confined_modifyService s service fun other => absurd rfl other
    · exact toProcess

variable {flow : Flow}

theorem confined_step (hs : service ≠ processService) (step : Step flow (Own flow service) s t) :
    Confined service s t := by
  cases step with
  | @settle place a result own ha =>
    obtain ⟨b, hb, here | process⟩ := own
    · obtain rfl := Option.some.inj (ha.symm.trans hb)
      unfold State.settle State.storeResult
      rw [here]
      split
      · exact confined_of_eq rfl
      split
      · exact confined_of_eq rfl
      · exact confined_write s _ _ result
    · exact absurd process hs
  | insert ui _ _ _ => exact confined_modifyService s _ fun _ _ => rfl
  | @complete place a result _ _ =>
    unfold State.complete
    cases a.isGenerated with
    | true => exact confined_of_eq rfl
    | false =>
      have marked : Confined service s { s.mark place (.completed result) with
          executed := State.remember a.executed s.executed } := confined_of_eq rfl
      exact (confined_chained service).trans marked (confined_emit _ _)
  | _ => exact confined_of_eq rfl

/-- **What is done while a declared service is held leaves the stores of the others alone.** -/
theorem confined_held (hs : service ≠ processService) (h : Held flow service s t) :
    Confined service s t := by
  have chained := confined_chained service
  induction h with
  | refl => exact chained.refl s
  | tail _ step ih =>
    refine chained.trans ih ?_
    cases step with
    | run step => exact confined_step hs step
    | failed e => exact confined_emit _ _

/-! ## §3. Two runs. -/

theorem executeActivity_confined (ho : Orderly flow) (hs : service ≠ processService)
    (name : String) (shows : Bool) :
    (executeActivity flow service name shows).Within (Confined service) := by
  have chained := confined_chained service
  refine executeActivity_of_known (within_closed chained) service name ?_ ?_ ?_ ?_
  · exact start_within chained fun s => confined_modifyService s service fun _ _ => rfl
  · exact within_modify fun s => confined_modifyService s service fun _ _ => rfl
  · exact fun e => within_modify fun s => confined_emit s _
  · intro place a known s
    refine (execute_held ho (reached_of_knownActivity ho known) {} shows s).mono ?_
    exact fun _ _ held => confined_held hs held

/-- An activity of a declared service is blind to the stores of the others. -/
theorem executeActivity_blind (ho : Orderly flow) (hs : service ≠ processService) (name : String)
    (shows : Bool) : Blind (SameFor service) (executeActivity flow service name shows) := by
  have unseen := sameFor_unseen service
  refine executeActivity_of_known (blind_closed _) service name ?_ ?_ ?_ ?_
  · exact start_blind unseen service name
  · exact blind_modify fun _ _ h => unseen.release service h
  · exact fun e => blind_modify fun _ _ h => unseen.failed e h
  · intro place a known
    have hlt := (List.getElem?_eq_some_iff.mp (getElem?_of_knownActivity known).2).1
    have reached := reached_of_knownActivity ho known
    refine execute_blind ho unseen.toUnread (fun _ _ => reached_of_calls ho) ?_ hlt reached {} shows
    -- all activities that are reached belong to the service
    rintro k b ⟨b', hb', here | process⟩ hb scope _ _
    · obtain rfl := Option.some.inj (hb.symm.trans hb')
      exact here
    · exact absurd process hs

variable {m : Materials} {page : Document.Page} {process : Document.Process}

/-- **Services do not interfere through their stores.**  Let two states differ only in what the
stores of declared services other than this one hold.  From both, whatever the functions and the
other side of the wire answer, each activity of the service asks the same questions and comes to
the same outcome.  It leaves the stores of the other declared services as they are, and the states
at the end differ again only in what these hold: the same is shown, reported and logged. -/
theorem services_do_not_interfere (hb : IsBuilt m page process flow) {A : String}
    (hA : A ≠ processService) (same : SameFor A s t) (name : String) (shows : Bool) {ω : Type}
    (environment : Task.Environment ω) (world : ω) :
    ∃ outcome s' t' world',
      (executeActivity flow A name shows s).finish environment world
          = (some (outcome, s'), world')
        ∧ (executeActivity flow A name shows t).finish environment world
          = (some (outcome, t'), world')
        ∧ (executeActivity flow A name shows s).asked environment world
          = (executeActivity flow A name shows t).asked environment world
        ∧ SameFor A s' t' ∧ Confined A s s' ∧ Confined A t t' := by
  have ho := hb.orderly
  have confined := executeActivity_confined ho hA name shows
  have alike := executeActivity_blind ho hA name shows s t same
  obtain ⟨outcome, s', world', hs⟩ := (confined s).terminates.finish environment world
  obtain ⟨t', same', ht⟩ := alike.finish environment hs
  have chained := confined_chained A
  refine ⟨outcome, s', t', world', hs, ht, alike.asked environment world, same', ?_, ?_⟩
  · exact Task.ends_of_within chained (confined s) (Task.ends_of_finish environment hs)
  · exact Task.ends_of_within chained (confined t) (Task.ends_of_finish environment ht)

/-- The market when the shop has something in stock. -/
def stockedMarket : State :=
  (initial Traffic.marketFlow).modifyService "shop" fun state =>
    { state with store := state.store.write "stock" (.integer 5) }

theorem services_do_not_interfere_market :
    "bank" ≠ processService ∧ SameFor "bank" (initial Traffic.marketFlow) stockedMarket ∧
      ∃ outcome s' t' world',
        (executeActivity Traffic.marketFlow "bank" "report" true
            (initial Traffic.marketFlow)).finish Traffic.marketAnswers ()
            = (some (outcome, s'), world')
          ∧ (executeActivity Traffic.marketFlow "bank" "report" true stockedMarket).finish
            Traffic.marketAnswers () = (some (outcome, t'), world')
          ∧ (executeActivity Traffic.marketFlow "bank" "report" true
              (initial Traffic.marketFlow)).asked Traffic.marketAnswers ()
            = (executeActivity Traffic.marketFlow "bank" "report" true stockedMarket).asked
              Traffic.marketAnswers ()
          ∧ SameFor "bank" s' t' ∧ Confined "bank" (initial Traffic.marketFlow) s'
          ∧ Confined "bank" stockedMarket t' := by
  have elsewhere : "bank" ≠ processService := by decide
  have same : SameFor "bank" (initial Traffic.marketFlow) stockedMarket :=
    sameFor_restock _ (by decide) (by decide) fun _ => rfl
  exact ⟨elsewhere, same,
    services_do_not_interfere Traffic.marketFlow_isBuilt elsewhere same "report" true _ _⟩

end Run

end Pageflow
