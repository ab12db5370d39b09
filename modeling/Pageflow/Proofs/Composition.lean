/-
  Pageflow.Proofs.Composition — what the runs of activities are put together from.

  Besides asking, looking and noting, the run of an activity puts marks, shows something, stores
  its result, adds inputs and records its end.  A closed property that these parts have, the run
  has too, if the runs of its callees have it.  By the order of calls it follows for the run of
  every activity whose callees are among those whose parts have it, and then for what a host does
  with activities.

  Main definitions: `Showing`, `Parts` and `HostParts`.
  Main statements: `resultFor_closed`, `handDown_closed`, `execute_closed`,
  `externalCall_closed` and `autostart_closed`.
-/
import Pageflow.Proofs.Closed
import Pageflow.Proofs.Nesting

namespace Pageflow.Run

open Pageflow.Flow (Activity Orderly Sight Strategy)

/-- A closed property that looks and notes have, and what is shown. -/
structure Showing (seen : Sight) (P : Property State) : Prop extends Reading seen P where
  display : ∀ {ε : Type} (d : Display), P (modify (State.display d) : Run State ε Unit)

/-- The other parts of a run of the activity at a place have the property. -/
structure Parts (flow : Flow) (P : Property State) (place : Nat) (a : Activity) : Prop where
  enter : ∀ before, P (mark place (.entered before) : Run State ActivityFailure Unit)
  gate : a.isActive = true → P (gate flow place a)
  call : a.skips = false → P (mark place .called : Run State ExecutionError Unit)
  settle : ∀ result, P (modify (State.settle place a result) : Run State ActivityFailure Unit)
  insert : a.presentation.resultAsDynamicUi = true → ∀ ui,
    P (modify (insertInputs a.service ui) : Run State String Unit)
  complete : ∀ result, P (modify (State.complete place a result) : Run State ActivityFailure Unit)
  fail : P (mark place .failed : Run State ActivityFailure Unit)

variable {flow : Flow} {seen : Sight} {P : Property State} {run : Executor} {place : Nat}
  {a : Activity} {shows : Bool} {result : Json} {ε : Type}

/-! ## §1. Up to the result. -/

theorem alert_closed (hP : Showing seen P) (message : String) :
    P (alert message : Run State ε Unit) := hP.display _

theorem dispatch_closed (hP : Reading seen P)
    (call : P (mark place .called : Run State ExecutionError Unit)) {strategy : Strategy}
    (arguments : Arguments)
    (h : ∀ k before, strategy.target? = some k → P (run k before false)) :
    P (dispatch run place a strategy arguments) := by
  refine hP.bind call fun _ => ?_
  refine hP.bind (hP.note _) fun _ => ?_
  exact callStrategy_closed hP arguments h

theorem resultOf_closed (hP : Showing seen P)
    (call : a.skips = false → P (mark place .called : Run State ExecutionError Unit))
    {strategy : Strategy} (arguments : Arguments)
    (h : ∀ k before, strategy.target? = some k → P (run k before false)) :
    P (resultOf flow run place a strategy arguments) := by
  unfold resultOf
  split
  · refine hP.bind (hP.note _) ?_
    intro _
    exact hP.pure _
  next own =>
    have called := call (eq_false_of_ne_true own)
    refine hP.bind (hP.attempt (dispatch_closed hP.toReading called arguments h)) ?_
    intro outcome
    split
    · exact hP.pure _
    · refine hP.bind (alert_closed hP _) ?_
      intro _
      exact hP.fail _

/-- **Up to its result an activity is let in, calls its makers, and is called.** -/
theorem resultFor_closed (hP : Showing seen P) (ha : a.Sees seen) {strategy : Strategy}
    (hs : a.strategy = some strategy) (gate : P (gate flow place a))
    (call : a.skips = false → P (mark place .called : Run State ExecutionError Unit))
    (makers : ∀ k ∈ a.makers, P (run k {} false))
    (target : ∀ k before, a.target? = some k → P (run k before false)) (before : Inherited) :
    P (resultFor flow run place a strategy before) := by
  refine hP.bind gate fun _ => ?_
  refine hP.bind (hP.mapError (argumentsOf_closed hP.toReading ha makers)) fun arguments => ?_
  refine hP.bind (preProcessed_closed hP.toLogging flow arguments) fun arguments => ?_
  apply resultOf_closed hP call
  intro k before hk
  refine target k before ?_
  rw [Activity.target?, hs]
  exact hk

/-! ## §2. From the result on. -/

theorem cascade_closed (hP : Closed P) {parent : Json} :
    ∀ (places : List Nat) (previous : Option Json),
      (∀ k ∈ places, ∀ before, P (run k before shows)) →
      P (cascade run parent shows places previous)
  | [], _, _ => hP.pure _
  | k :: rest, previous, h => by
      refine hP.bind (h k List.mem_cons_self _) ?_
      intro result
      exact cascade_closed hP rest _ fun k hk => h k (List.mem_cons_of_mem _ hk)

theorem present_closed (hP : Showing seen P)
    (insert : a.presentation.resultAsDynamicUi = true → ∀ ui,
      P (modify (insertInputs a.service ui) : Run State String Unit)) :
    P (present a result) := by
  unfold present
  split
  · exact hP.display _
  split
  next dynamic =>
    split
    · exact insert dynamic _
    · exact hP.fail _
  split
  · exact hP.display _
  · exact hP.pure _

theorem conclude_closed (hP : Showing seen P)
    (complete : P (modify (State.complete place a result) : Run State ε Unit)) :
    P (conclude place a result shows : Run State ε Unit) := by
  unfold conclude
  split
  · exact hP.bind (alert_closed hP _) fun _ => complete
  · exact complete

theorem handDown_closed (hP : Showing seen P)
    (insert : a.presentation.resultAsDynamicUi = true → ∀ ui,
      P (modify (insertInputs a.service ui) : Run State String Unit))
    (complete : P (modify (State.complete place a result) : Run State ActivityFailure Unit))
    (subs : ∀ k ∈ a.subActivities, ∀ before, P (run k before shows)) :
    P (handDown flow run place a result shows) := by
  refine hP.bind (hP.mapError (cascade_closed hP.toClosed _ _ subs)) fun _ => ?_
  refine hP.bind (hP.mapError (present_closed hP insert)) fun _ => ?_
  exact conclude_closed hP complete

/-! ## §3. Whole runs. -/

theorem runActivity_closed (hP : Showing seen P) (ha : a.Sees seen)
    (parts : Parts flow P place a)
    (callees : ∀ k ∈ a.callees, ∀ before shows, P (run k before shows)) (before : Inherited) :
    P (runActivity flow run place a before shows) := by
  unfold runActivity
  split
  · exact hP.fail _
  next strategy hs =>
    -- having a strategy is what it is to be active
    have active : a.isActive = true := by rw [Activity.isActive, hs, Option.isSome_some]
    have result : P (resultFor flow run place a strategy before) := by
      refine resultFor_closed hP ha hs (parts.gate active) parts.call ?_ ?_ before
      · intro k hk
        exact callees k (Activity.mem_callees.mpr (.inl hk)) _ _
      · intro k before hk
        exact callees k (Activity.mem_callees.mpr (.inr (.inl hk))) before _
    have handDown : ∀ result, P (handDown flow run place a result shows) := by
      intro result
      refine handDown_closed hP parts.insert (parts.complete result) ?_
      intro k hk before
      exact callees k (Activity.mem_callees.mpr (.inr (.inr hk))) before _
    refine hP.bind result fun result => ?_
    refine hP.bind (hP.bind (parts.settle result) fun _ => handDown result) fun _ => ?_
    exact hP.pure _

theorem traced_closed (hP : Closed P) (parts : Parts flow P place a) {before : Inherited}
    {r : Run State ActivityFailure Json} (hr : P r) : P (traced place before r) := by
  refine hP.bind (parts.enter before) fun _ => ?_
  refine hP.bind (hP.attempt hr) fun outcome => ?_
  split
  · exact hP.pure _
  · refine hP.bind parts.fail ?_
    intro _
    exact hP.fail _

/-- **The run of an activity has every closed property that its parts have, and those of the
activities that it calls.** -/
theorem execute_closed (ho : Orderly flow) (hP : Showing seen P) {among : Nat → Prop}
    (closed : ∀ h k, among h → flow.Calls h k → among k)
    (parts : ∀ place a, among place → flow.arena[place]? = some a →
      a.Sees seen ∧ Parts flow P place a) :
    ∀ place, place < flow.arena.length → among place → ∀ before shows,
      P (execute flow place before shows) := by
  intro place
  -- the callees of an activity come before it in the order of calls
  induction place using (Flow.calls_wellFounded ho).induction with
  | _ place ih =>
    intro hlt hp before shows
    have ha : flow.arena[place]? = some flow.arena[place] := List.getElem?_eq_getElem hlt
    obtain ⟨service, own⟩ := parts place _ hp ha
    rw [execute_eq ho ha]
    refine traced_closed hP.toClosed own (runActivity_closed hP service own ?_ before)
    intro k hk before shows
    have hc : flow.Calls place k := ⟨_, ha, hk⟩
    obtain ⟨b, hb⟩ := Flow.exists_of_calls ho hc
    exact ih k hc (List.getElem?_eq_some_iff.mp hb).1 (closed _ _ hp hc) before shows

/-! ## §4. What a host does with activities. -/

variable {service name : String}

theorem getElem?_of_knownActivity
    (h : knownActivity flow service name = .ok (place, a)) :
    flow.find? service name = some place ∧ flow.arena[place]? = some a := by
  unfold knownActivity at h
  cases hf : flow.find? service name with
  | none => simp [hf] at h
  | some k =>
    cases ha : flow.arena[k]? with
    | none => simp [hf, ha] at h
    | some b =>
      simp only [hf, ha, Option.bind_some, Option.map_some, Except.ok.injEq,
        Prod.mk.injEq] at h
      obtain ⟨rfl, rfl⟩ := h
      exact ⟨rfl, ha⟩

theorem runTop_closed (hP : Closed P)
    (failed : ∀ e, P (modify (State.recordFailed e) : Run State HostError Unit))
    (h : P (execute flow place {} shows)) : P (runTop flow service name place a shows) := by
  refine hP.bind (hP.attempt h) ?_
  intro outcome
  split
  · exact hP.pure _
  · -- a failure is recorded before it is passed on
    refine hP.bind (failed _) ?_
    intro _
    exact hP.fail _

theorem runSteps_closed (hP : Closed P)
    (failed : ∀ e, P (modify (State.recordFailed e) : Run State HostError Unit))
    (h : ∀ name place a, knownActivity flow service name = .ok (place, a) →
      P (execute flow place {} true)) : ∀ names, P (runSteps flow service names)
  | [] => hP.pure _
  | name :: rest => by
      refine ofExcept_bind_closed hP ?_
      rintro ⟨place, a⟩ known
      refine hP.bind (runTop_closed hP failed (h name place a known)) fun result => ?_
      refine hP.bind (runSteps_closed hP failed h rest) fun results => ?_
      exact hP.pure _

theorem callArguments_closed (hP : Reading seen P) (ha : a.Sees seen) (c : ExternalCall)
    (makers : ∀ k ∈ a.makers, P (execute flow k {} false)) : P (callArguments flow c a) := by
  have own : P (parameterValues (maker (execute flow)) a {}) :=
    parameterValues_closed hP ha makers
  have body : P (requestBody (maker (execute flow)) a {}) :=
    requestBody_closed hP ha fun _ k hk => makers k (Activity.mem_makers_of_body hk)
  have given : ∀ (own : Dict Json) (body : Option Json),
      P (pure ⟨own.insertAll c.parameters, body⟩ : Run State ExecutionError Arguments) :=
    fun _ _ => hP.pure _
  -- own values or none, and a body of the call or one of the activity
  obtain ⟨_, _, _, ownBody, ownValues⟩ := c
  cases ownValues with
  | true =>
    refine hP.bind own fun values => ?_
    cases ownBody with
    | some value => exact hP.bind (hP.pure _) (given values)
    | none => exact hP.bind body (given values)
  | false =>
    refine hP.bind (hP.pure []) fun values => ?_
    cases ownBody with
    | some value => exact hP.bind (hP.pure _) (given values)
    | none => exact hP.bind body (given values)

/-- **An external call finds out its arguments and calls the strategy**, and runs no other
activities than the makers and the target. -/
theorem callOnly_closed (hP : Reading seen P) (ha : a.Sees seen) (c : ExternalCall)
    (call : P (mark place .called : Run State ExecutionError Unit))
    (makers : ∀ k ∈ a.makers, P (execute flow k {} false))
    (target : ∀ k before, a.target? = some k → P (execute flow k before false)) :
    P (callOnly flow c place a) := by
  unfold callOnly
  split
  · exact hP.fail _
  next strategy hs =>
    refine hP.bind (hP.mapError (callArguments_closed hP ha c makers)) ?_
    intro arguments
    apply hP.mapError
    apply dispatch_closed hP call
    intro k before hk
    refine target k before ?_
    rw [Activity.target?, hs]
    exact hk

theorem guarded_closed {α : Type} (hP : Closed P) (start : P (start service name))
    (release : P (modify (State.release service) : Run State HostError Unit))
    {r : Run State HostError α} (hr : P r) : P (guarded service name r) := by
  refine hP.bind start fun _ => ?_
  refine hP.bind (hP.attempt hr) fun outcome => ?_
  exact hP.bind release fun _ => ofExcept_closed hP outcome

/-- What a host does besides has the property, and so has the run of every activity. -/
structure HostParts (flow : Flow) (P : Property State) : Prop where
  start : ∀ service name, P (start service name)
  release : ∀ service, P (modify (State.release service) : Run State HostError Unit)
  failed : ∀ e, P (modify (State.recordFailed e) : Run State HostError Unit)
  call : ∀ place, P (mark place .called : Run State ExecutionError Unit)
  execute : ∀ place a, flow.arena[place]? = some a → ∀ before shows,
    P (execute flow place before shows)

/-- **An activity of a service runs under the mark of the service**, if it is known. -/
theorem executeActivity_of_known (hP : Closed P) (service name : String)
    (start : P (start service name))
    (release : P (modify (State.release service) : Run State HostError Unit))
    (failed : ∀ e, P (modify (State.recordFailed e) : Run State HostError Unit))
    (run : ∀ place a, knownActivity flow service name = .ok (place, a) →
      P (execute flow place {} shows)) : P (executeActivity flow service name shows) := by
  refine hP.bind (ofExcept_closed hP _) fun _ => ?_
  refine ofExcept_bind_closed hP ?_
  rintro ⟨place, a⟩ known
  exact guarded_closed hP start release (runTop_closed hP failed (run place a known))

/-- **A sequence runs activities of its service**, under the mark of the service. -/
theorem executeSequence_of_known (hP : Closed P) (service name : String)
    (start : P (start service name))
    (release : P (modify (State.release service) : Run State HostError Unit))
    (failed : ∀ e, P (modify (State.recordFailed e) : Run State HostError Unit))
    (run : ∀ name place a, knownActivity flow service name = .ok (place, a) →
      P (execute flow place {} true)) : P (executeSequence flow service name) := by
  refine hP.bind (ofExcept_closed hP _) fun s => ?_
  split
  · exact hP.fail _
  · exact guarded_closed hP start release (runSteps_closed hP failed run _)

theorem executeActivity_closed (hP : Closed P) (parts : HostParts flow P) (service name : String)
    (shows : Bool) : P (executeActivity flow service name shows) := by
  refine executeActivity_of_known hP service name (parts.start _ _) (parts.release _)
    parts.failed ?_
  intro place a known
  exact parts.execute place a (getElem?_of_knownActivity known).2 {} shows

theorem executeSequence_closed (hP : Closed P) (parts : HostParts flow P)
    (service name : String) : P (executeSequence flow service name) := by
  refine executeSequence_of_known hP service name (parts.start _ _) (parts.release _)
    parts.failed ?_
  intro name place a known
  exact parts.execute place a (getElem?_of_knownActivity known).2 {} true

theorem callGuarded_of_callOnly (hP : Closed P) (c : ExternalCall)
    (start : P (start c.service c.activity))
    (release : P (modify (State.release c.service) : Run State HostError Unit))
    (call : ∀ place a, knownActivity flow c.service c.activity = .ok (place, a) →
      P (callOnly flow c place a)) : P (callGuarded flow c) := by
  refine hP.bind (ofExcept_closed hP _) fun _ => ?_
  refine ofExcept_bind_closed hP ?_
  rintro ⟨place, a⟩ known
  exact guarded_closed hP start release (call place a known)

/-- **An external call calls under the mark of its service**, and tells of its failure. -/
theorem externalCall_of_callOnly (hP : Showing (fun _ _ => True) P) (c : ExternalCall)
    (start : P (start c.service c.activity))
    (release : P (modify (State.release c.service) : Run State HostError Unit))
    (call : ∀ place a, knownActivity flow c.service c.activity = .ok (place, a) →
      P (callOnly flow c place a)) : P (externalCall flow c) := by
  have guarded := callGuarded_of_callOnly hP.toClosed c start release call
  refine hP.bind (hP.attempt guarded) fun outcome => ?_
  split
  · exact hP.pure _
  · refine hP.bind (alert_closed hP _) ?_
    intro _
    exact hP.fail _

theorem externalCall_closed (ho : Orderly flow) (hP : Showing (fun _ _ => True) P)
    (parts : HostParts flow P) (c : ExternalCall) : P (externalCall flow c) := by
  refine externalCall_of_callOnly hP c (parts.start _ _) (parts.release _) ?_
  intro place a known
  have placed := ho.placed place a (getElem?_of_knownActivity known).2
  refine callOnly_closed hP.toReading (fun _ _ => trivial) c (parts.call place) ?_ ?_
  · intro k hk
    obtain ⟨_, b, hb, _⟩ := placed.maker k hk
    exact parts.execute k b hb _ _
  · intro k before hk
    obtain ⟨_, b, hb, _⟩ := placed.target k hk
    exact parts.execute k b hb _ _

/-- **Starting up notes what it does and runs activities.** -/
theorem autostart_closed (hP : Logging P)
    (h : ∀ service name, P (executeActivity flow service name true)) : P (autostart flow) := by
  have steps : ∀ service names, P (autostartSteps flow service names) := by
    intro service names
    induction names with
    | nil => exact hP.pure _
    | cons name rest ih =>
      refine hP.bind (hP.note _) fun _ => ?_
      exact hP.bind (hP.mapError (h service name)) fun _ => ih
  have services : ∀ services, P (autostartServices flow services) := by
    intro services
    induction services with
    | nil => exact hP.pure _
    | cons s rest ih =>
      refine hP.bind ?_ fun _ => ih
      -- a service runs all that it is to run, or none if one of the names is unknown
      unfold autostartService
      simp only
      split
      · exact steps _ _
      · exact hP.note _
  exact services _

end Pageflow.Run
