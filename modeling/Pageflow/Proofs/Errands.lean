/-
  Pageflow.Proofs.Errands — operations that are addressed to one service.

  An errand has a service run an activity or a sequence, or only call a strategy.  It is refused at
  once if the service or what it names is unknown, or if the service runs already.  Else the
  service is occupied, the work is done, and the service is released.  The work reaches only
  activities of the service, except that the process may reach all activities; it starts and
  releases nothing.

  Main definitions: `Errand`, `Held` and `Finished`.
  Main statements: `Errand.run_of_busy`, `Errand.run_of_free` and `Errand.passes`, what an errand
  comes to; `runs_held` and `recorded_held`, what its work leaves alone and what it writes.
-/
import Pageflow.Proofs.Written

namespace Pageflow

namespace Run

open Pageflow.Flow (Activity Orderly)

/-! ## §1. Errands. -/

/-- An operation that is addressed to one service. -/
inductive Errand where
  | activity (service name : String) (shows : Bool)
  | sequence (service name : String)
  | call (c : ExternalCall)

/-- The activity of this name at the top of a service that is known. -/
def knownTop (flow : Flow) (service name : String) : Except HostError (Nat × Activity) :=
  match knownService flow service with
  | .ok _ => knownActivity flow service name
  | .error e => .error e

/-- The activities that a sequence of a service names. -/
def knownSteps (flow : Flow) (service name : String) : Except HostError (List String) :=
  match knownService flow service with
  | .ok s =>
    match s.sequences.get? name with
    | some listed => .ok listed.activities
    | none => .error (.unknownSequence service name)
  | .error e => .error e

namespace Errand

/-- The service that it is addressed to. -/
def service : Errand → String
  | activity service _ _ => service
  | sequence service _ => service
  | call c => c.service

/-- The run of an errand; a sequence gives its results. -/
def run (flow : Flow) : Errand → Run State HostError Json
  | activity service name shows => executeActivity flow service name shows
  | sequence service name => do return .array (← executeSequence flow service name)
  | call c => externalCall flow c

/-- It names an activity or a sequence that the service has. -/
def IsKnown (flow : Flow) : Errand → Prop
  | activity service name _ => (flow.find? service name).isSome = true
  | sequence service name =>
    ((flow.service? service).bind fun s => s.sequences.get? name).isSome = true
  | call c => (flow.find? c.service c.activity).isSome = true

instance (flow : Flow) : ∀ e : Errand, Decidable (e.IsKnown flow)
  | activity _ _ _ => inferInstanceAs (Decidable (_ = true))
  | sequence _ _ => inferInstanceAs (Decidable (_ = true))
  | call _ => inferInstanceAs (Decidable (_ = true))

/-- The name in the mark of the service, and what is done under the mark. -/
def work? (flow : Flow) : Errand → Except HostError (String × Run State HostError Json)
  | activity service name shows => (knownTop flow service name).map fun found =>
    (name, runTop flow service name found.1 found.2 shows)
  | sequence service name => (knownSteps flow service name).map fun names =>
    (name, do return .array (← runSteps flow service names))
  | call c => (knownTop flow c.service c.activity).map fun found =>
    (c.activity, callOnly flow c found.1 found.2)

/-- The failure as it is given back. -/
def failure : Errand → HostError → HostError
  | call c, e => callError c e
  | _, e => e

/-- The outcome of an errand to a service that runs. -/
def rejected : Errand → Except HostError Json
  | call c => .error (.externalCall c.service c.activity (.alreadyRunning c.service))
  | e => .error (.alreadyRunning e.service)

/-- The state after a failure; the user is told of that of an external call. -/
def told : Errand → HostError → State → State
  | call c, e, s => s.display (.alert (callError c e).message)
  | _, _, s => s

/-- The state after an outcome. -/
def afterwards (e : Errand) : Except HostError Json → State → State
  | .ok _, s => s
  | .error failure, s => e.told failure s

end Errand

variable {flow : Flow} {service name : String} {s : State}

theorem executeActivity_eq (shows : Bool) : executeActivity flow service name shows
    = ofExcept (knownTop flow service name) >>= fun found =>
      guarded service name (runTop flow service name found.1 found.2 shows) := by
  unfold executeActivity knownTop
  cases knownService flow service with
  | error _ => rfl
  | ok _ => rfl

theorem executeSequence_eq : executeSequence flow service name
    = ofExcept (knownSteps flow service name) >>= fun names =>
      guarded service name (runSteps flow service names) := by
  unfold executeSequence knownSteps
  cases knownService flow service with
  | error _ => rfl
  | ok known =>
    have opened (next : Flow.Service → Run State HostError (List Json)) :
        ofExcept (.ok known) >>= next = next known := rfl
    rw [opened]
    dsimp only
    cases known.sequences.get? name <;> rfl

theorem callGuarded_eq (c : ExternalCall) : callGuarded flow c
    = ofExcept (knownTop flow c.service c.activity) >>= fun found =>
      guarded c.service c.activity (callOnly flow c found.1 found.2) := by
  unfold callGuarded knownTop
  cases knownService flow c.service with
  | error _ => rfl
  | ok _ => rfl

/-- What is done to each result of a run may be done under the mark. -/
theorem guarded_map {α β : Type} (r : Run State HostError α) (f : α → β) :
    ((guarded service name r >>= fun a => pure (f a) : Run State HostError β))
      = guarded service name (r >>= fun a => pure (f a)) := by
  funext s
  cases hs : s.running? service with
  | some other =>
    rw [guarded_of_busy hs]
    exact bind_of_done_error (guarded_of_busy hs r)
  | none =>
    rw [guarded_of_free hs]
    show (guarded service name r s).bind _ = ((r _).bind _).bind _
    rw [guarded_of_free hs, Task.bind_assoc, Task.bind_assoc]
    congr 1
    funext outcome t
    cases outcome <;> rfl

namespace Errand

/-- **An errand is its work under the mark of its service**, or it is refused. -/
theorem run_eq (e : Errand) (s : State) : e.run flow s =
    match e.work? flow with
    | .ok (name, work) => (guarded e.service name work s).bind fun outcome t =>
        .done (outcome.mapError e.failure) (e.afterwards outcome t)
    | .error failure => .done (.error (e.failure failure)) (e.told failure s) := by
  -- only an external call puts its failure in other words, and tells of it
  have plain : ∀ t : Task State (Except HostError Json),
      t = t.bind fun outcome u => .done (outcome.mapError id) u := by
    intro t
    refine t.bind_done_right.symm.trans ?_
    congr 1
    funext outcome u
    cases outcome <;> rfl
  have silent : ∀ (e : Errand), (∀ failure t, e.told failure t = t) → ∀ outcome t,
      e.afterwards outcome t = t := by
    intro e he outcome t
    cases outcome with
    | ok _ => rfl
    | error failure => exact he failure t
  cases e with
  | activity service name shows =>
    simp only [run, work?, executeActivity_eq, silent (activity service name shows) fun _ _ => rfl]
    cases knownTop flow service name with
    | error _ => rfl
    | ok found => exact plain _
  | sequence service name =>
    simp only [run, work?, executeSequence_eq, silent (sequence service name) fun _ _ => rfl]
    cases knownSteps flow service name with
    | error _ => rfl
    | ok names =>
      refine Eq.trans ?_ (plain _)
      exact congrFun (guarded_map (runSteps flow service names) Json.array) s
  | call c =>
    simp only [run, work?, externalCall, callGuarded_eq]
    cases knownTop flow c.service c.activity with
    | error _ => rfl
    | ok found =>
      show ((guarded c.service c.activity (callOnly flow c found.1 found.2) s).bind _).bind _ = _
      rw [Task.bind_assoc]
      congr 1
      funext outcome t
      cases outcome <;> rfl

variable {e : Errand} {work : Run State HostError Json}

/-- **An errand to a service that runs is refused at once.** -/
theorem run_of_busy {other : String} (hw : e.work? flow = .ok (name, work))
    (busy : s.running? e.service = some other) :
    e.run flow s = .done e.rejected (e.told (.alreadyRunning e.service) s) := by
  rw [run_eq, hw]
  simp only [guarded_of_busy busy]
  cases e <;> rfl

theorem run_of_unknown {failure : HostError} (hw : e.work? flow = .error failure) :
    e.run flow s = .done (.error (e.failure failure)) (e.told failure s) := by
  rw [run_eq, hw]

/-- **A service that is free is occupied for the work of an errand, and released after it.** -/
theorem run_of_free (hw : e.work? flow = .ok (name, work)) (free : s.running? e.service = none) :
    e.run flow s = (work (s.occupy e.service name)).bind fun outcome t =>
      .done (outcome.mapError e.failure) (e.afterwards outcome (t.release e.service)) := by
  rw [run_eq, hw]
  simp only [guarded_of_free free, Task.bind_assoc]
  rfl

theorem work?_of_isKnown (ho : Orderly flow) (hk : e.IsKnown flow) :
    ∃ name work, e.work? flow = .ok (name, work) := by
  have service : ∀ {service known}, flow.service? service = some known →
      knownService flow service = .ok known := by
    intro service known h
    rw [knownService, h]
  have top : ∀ {service name}, (flow.find? service name).isSome = true →
      ∃ found, knownTop flow service name = .ok found := by
    intro service' name h
    obtain ⟨place, hp⟩ := Option.isSome_iff_exists.mp h
    obtain ⟨known, hs, _⟩ := Option.bind_eq_some_iff.mp hp
    obtain ⟨a, ha, _⟩ := ho.top service' name place hp
    refine ⟨(place, a), ?_⟩
    simp [knownTop, service hs, knownActivity, hp, ha]
  cases e with
  | activity service name shows =>
    obtain ⟨found, h⟩ := top hk
    exact ⟨_, _, by simp only [work?, h]; rfl⟩
  | sequence service' name =>
    obtain ⟨listed, h⟩ := Option.isSome_iff_exists.mp hk
    obtain ⟨known, hs, hl⟩ := Option.bind_eq_some_iff.mp h
    exact ⟨_, _, by simp only [work?, knownSteps, service hs, hl]; rfl⟩
  | call c =>
    obtain ⟨found, h⟩ := top hk
    exact ⟨_, _, by simp only [work?, h]; rfl⟩

/-- What an errand has work at is a service of the flow. -/
theorem isSome_service?_of_work? (hw : e.work? flow = .ok (name, work)) :
    (flow.service? e.service).isSome = true := by
  have known : ∀ {service known}, knownService flow service = .ok known →
      (flow.service? service).isSome = true := by
    intro service known h
    unfold knownService at h
    split at h
    next hs => rw [hs, Option.isSome_some]
    next => contradiction
  have top : ∀ {service name found}, knownTop flow service name = .ok found →
      (flow.service? service).isSome = true := by
    intro service name found h
    unfold knownTop at h
    split at h
    next hs => exact known hs
    next => contradiction
  cases e with
  | activity service name shows =>
    obtain ⟨_, h, _⟩ := exists_of_map_eq_ok hw
    exact top h
  | sequence service' name =>
    obtain ⟨_, h, _⟩ := exists_of_map_eq_ok hw
    unfold knownSteps at h
    split at h
    next hs => exact known hs
    next => contradiction
  | call c =>
    obtain ⟨_, h, _⟩ := exists_of_map_eq_ok hw
    exact top h

end Errand

/-! ## §2. What is done while a service is held. -/

/-- By this mark an activity of the service reaches a stage; the process reaches all
activities. -/
def Own (flow : Flow) (service : String) (m : Mark) : Prop :=
  ∃ a, flow.arena[m.place]? = some a ∧ (a.service = service ∨ service = Document.processService)

/-- A step of an activity that belongs there, or the report of a failure. -/
inductive HeldStep (flow : Flow) (service : String) : State → State → Prop
  | run {s t : State} (h : Step flow (Own flow service) s t) : HeldStep flow service s t
  | failed (e : Document.Executed) (s : State) : HeldStep flow service s (s.recordFailed e)

/-- Any number of steps while the service is held. -/
abbrev Held (flow : Flow) (service : String) : State → State → Prop :=
  Relation.ReflTransGen (HeldStep flow service)

/-- Steps while the service is held, and then its release; the user may be told of a failure. -/
def Finished (flow : Flow) (service : String) (s t : State) : Prop :=
  ∃ u, Held flow service s u ∧ (t = u.release service
    ∨ ∃ message, t = (u.release service).display (.alert message))

theorem held_noting (flow : Flow) (service : String) : Noting (Held flow service) where
  refl _ := .refl
  trans := Relation.ReflTransGen.trans
  note n s := .single (.run (.note n s))

theorem within_held {ε α : Type} {r : Run State ε α}
    (h : r.Within (Steps flow (Own flow service))) : r.Within (Held flow service) := by
  intro s
  refine (h s).mono ?_
  intro s t steps
  exact Relation.ReflTransGen.mono (fun _ _ step => HeldStep.run step) _ _ steps

/-- The activities that an errand to the service reaches. -/
def Reached (flow : Flow) (service : String) (place : Nat) : Prop :=
  ∃ a, flow.arena[place]? = some a ∧ (a.service = service ∨ service = Document.processService)

/-- Only a reference leads to another service, and references belong to the process. -/
theorem reached_of_calls (ho : Orderly flow) {h k : Nat} (hr : Reached flow service h)
    (hc : flow.Calls h k) : Reached flow service k := by
  obtain ⟨a, ha, own⟩ := hr
  obtain ⟨a', ha', hk⟩ := hc
  obtain rfl := Option.some.inj (ha.symm.trans ha')
  have placed := ho.placed h a ha
  have same : ∀ {b : Activity}, b.service = a.service →
      b.service = service ∨ service = Document.processService := by
    intro b hb
    rw [hb]
    exact own
  rcases Activity.mem_callees.mp hk with hk | hk | hk
  · obtain ⟨_, b, hb, _, hs⟩ := placed.maker k hk
    exact ⟨b, hb, same hs⟩
  · -- the target may belong to any service, but then the reference is the process's
    obtain ⟨_, b, hb, _⟩ := placed.target k hk
    have process := placed.reference (Activity.isReference_of_target?_eq_some hk)
    refine ⟨b, hb, .inr ?_⟩
    rcases own with own | own
    · exact own.symm.trans process
    · exact own
  · obtain ⟨_, b, hb, _, _, hs⟩ := placed.sub k hk
    exact ⟨b, hb, same hs⟩

theorem execute_held (ho : Orderly flow) {place : Nat} (hr : Reached flow service place)
    (before : Inherited) (shows : Bool) :
    (execute flow place before shows).Within (Held flow service) := by
  have hlt : place < flow.arena.length := by
    obtain ⟨a, ha, _⟩ := hr
    exact (List.getElem?_eq_some_iff.mp ha).1
  apply within_held
  exact execute_within ho (fun _ _ => reached_of_calls ho) (fun _ _ h => h) place hlt hr before
    shows

theorem reached_of_knownActivity (ho : Orderly flow) {place : Nat} {a : Activity}
    (h : knownActivity flow service name = .ok (place, a)) : Reached flow service place := by
  obtain ⟨hf, ha⟩ := getElem?_of_knownActivity h
  obtain ⟨b, hb, hs, _⟩ := ho.top service name place hf
  exact ⟨b, hb, .inl hs⟩

theorem callOnly_held (ho : Orderly flow) (c : ExternalCall) {place : Nat} {a : Activity}
    (ha : flow.arena[place]? = some a) (hr : Reached flow service place) :
    (callOnly flow c place a).Within (Held flow service) := by
  have callee : ∀ {k}, k ∈ a.callees → Reached flow service k := fun hk =>
    reached_of_calls ho hr ⟨a, ha, hk⟩
  refine callOnly_closed ((held_noting flow service).reading fun _ _ => True)
    (fun _ _ => trivial) c (within_modify fun s => .single (.run (.call hr s))) ?_ ?_
  · intro k hk
    exact execute_held ho (callee (Activity.mem_callees.mpr (.inl hk))) _ _
  · intro k before hk
    exact execute_held ho (callee (Activity.mem_callees.mpr (.inr (.inl hk)))) _ _

theorem knownActivity_of_knownTop {found : Nat × Activity}
    (h : knownTop flow service name = .ok found) : knownActivity flow service name = .ok found := by
  unfold knownTop at h
  split at h
  · exact h
  · contradiction

variable {e : Errand} {work : Run State HostError Json}

/-- **The work of an errand stays with its service.** -/
theorem Errand.work_held (ho : Orderly flow) (hw : e.work? flow = .ok (name, work)) :
    work.Within (Held flow e.service) := by
  have closed := within_closed (held_noting flow e.service).toChained
  have failed : ∀ failure, (modify (State.recordFailed failure) : Run State HostError Unit).Within
      (Held flow e.service) := fun failure => within_modify fun s => .single (.failed failure s)
  cases e with
  | activity service name shows =>
    obtain ⟨⟨place, a⟩, h, heq⟩ := exists_of_map_eq_ok hw
    obtain ⟨rfl, rfl⟩ := Prod.mk.inj heq
    have reached := reached_of_knownActivity ho (knownActivity_of_knownTop h)
    exact runTop_closed closed failed (execute_held ho reached _ _)
  | sequence service' name =>
    obtain ⟨names, _, heq⟩ := exists_of_map_eq_ok hw
    obtain ⟨rfl, rfl⟩ := Prod.mk.inj heq
    refine closed.bind (runSteps_closed closed failed ?_ names) fun results => closed.pure _
    intro name place a h
    exact execute_held ho (reached_of_knownActivity ho h) _ _
  | call c =>
    obtain ⟨⟨place, a⟩, h, heq⟩ := exists_of_map_eq_ok hw
    obtain ⟨rfl, rfl⟩ := Prod.mk.inj heq
    have known := knownActivity_of_knownTop h
    exact callOnly_held ho c (getElem?_of_knownActivity known).2 (reached_of_knownActivity ho known)

/-- **An errand that is let in occupies its service, does its work and releases the service**, and
comes to an end. -/
theorem Errand.passes (ho : Orderly flow) (hw : e.work? flow = .ok (name, work))
    (free : s.running? e.service = none) : (e.run flow s).Passes (Held flow e.service)
      (Finished flow e.service) (s.occupy e.service name) := by
  rw [Errand.run_of_free hw free]
  refine (Errand.work_held ho hw _).passes ?_
  intro outcome s u held
  refine ⟨u, held, ?_⟩
  cases outcome with
  | ok _ => exact .inl rfl
  | error failure =>
    cases e with
    | call c => exact .inr ⟨_, rfl⟩
    | _ => exact .inl rfl

/-! ## §3. What is left while a service is held. -/

variable {t : State}

/-- **Whatever is done while a service is held, no service starts or is released.** -/
theorem runs_held (h : Held flow service s t) : t.runs = s.runs := by
  induction h with
  | refl => rfl
  | tail _ step ih =>
    refine Eq.trans ?_ ih
    cases step with
    | run step => exact runs_step step
    | failed e => exact State.runs_emit _ _

/-- **What is written while a service is held is what the new marks say**, and these are marks of
activities that belong there. -/
theorem recorded_held (h : Held flow service s t) : Recorded flow (Own flow service) s t := by
  have chained := recorded_chained flow (Own flow service)
  induction h with
  | refl => exact chained.refl s
  | @tail u t _ step ih =>
    refine chained.trans ih ?_
    cases step with
    | run step => exact recorded_step step
    | failed e => exact recorded_of_same (State.trail_emit _ _) (State.sameEntries_emit _ u)

end Run

end Pageflow
