/-
  Pageflow.Proofs.Forwarding — a reference does what its target does.

  The run of a reference runs its target under the mark of the process and with nothing but `{}`
  above it, and records its own end after that.  A run does not depend on what services run, nor on
  the notes and marks of its history; and if the target takes no value from the result above it, it
  is run as it is at the top.  Only its end is not announced.

  Main definitions: `State.now`, `Abreast` and `State.announce`.
  Main statements: `execute_announces`, `reference_is_its_target`, and
  `reference_hands_down_an_object` on what is left out.
-/
import Pageflow.Proofs.Backing
import Pageflow.Proofs.Entitled
import Pageflow.Proofs.Sequences

namespace Pageflow.Run

open Document (processService)
open Pageflow.Flow (Activity IsBuilt Materials Orderly Source Strategy)

/-! ## §1. States abreast. -/

namespace State

/-- The state without its history: what has been noted, and the trail. -/
def now (s : State) : State := { s with log := [], trail := [] }

theorem now_modifyService (s : State) (name : String) (f : ServiceState → ServiceState) :
    (s.modifyService name f).now = s.now.modifyService name f := by
  have same : s.now.services = s.services := rfl
  unfold modifyService
  rw [same]
  split
  · rfl
  split <;> rfl

theorem now_emit (event : Event) (s : State) : (emit event s).now = (emit event s.now).now := by
  have same : s.now.listener = s.listener := rfl
  unfold emit
  rw [same]
  cases s.listener <;> rfl

theorem now_settle (s : State) (place : Nat) (a : Activity) (result : Json) :
    (s.settle place a result).now = (s.now.settle place a result).now := by
  have stored : ∀ s : State, (s.storeResult a result).now = s.now.storeResult a result := by
    intro s
    unfold storeResult
    split
    · rfl
    split
    · rfl
    next target _ _ =>
      unfold modifyStore
      cases target.scope with
      | activity => rfl
      | process => exact now_modifyService ..
      | service => exact now_modifyService ..
  show (s.storeResult a result).now = (s.now.storeResult a result).now
  rw [stored, stored]
  rfl

theorem now_complete (s : State) (place : Nat) (a : Activity) (result : Json) :
    (s.complete place a result).now = (s.now.complete place a result).now := by
  unfold complete
  cases a.isGenerated with
  | true => rfl
  | false =>
    show (emit _ _).now = (emit _ _).now
    rw [now_emit, now_emit _ { s.now.mark place _ with executed := _ }]
    rfl

theorem scratch_modifyStore (s : State) (scope : Document.StoreScope) (service : String)
    (f : Store → Store) : (s.modifyStore scope service f).scratch
      = if scope = .activity then f s.scratch else s.scratch := by
  cases scope with
  | activity => rfl
  | process => exact scratch_modifyService ..
  | service => exact scratch_modifyService ..

end State

/-- The states differ at most in what services run and in their history. -/
structure Abreast (s t : State) : Prop where
  now : SameAtRest s.now t.now
  scratch : t.scratch = s.scratch

variable {s t u : State}

/-- A change keeps states abreast if it depends neither on what runs nor on the history. -/
theorem Abreast.map (h : Abreast s t) {f : State → State}
    (rest : ∀ {s t}, SameAtRest s t → SameAtRest (f s) (f t))
    (now : ∀ s, (f s).now = (f s.now).now) (scratch : (f t).scratch = (f s).scratch) :
    Abreast (f s) (f t) where
  now := by
    rw [now s, now t]
    exact (rest h.now).map State.now fun _ => rfl
  scratch := scratch

theorem abreast_mark (place : Nat) (stage : Stage) (s : State) : Abreast s (s.mark place stage) :=
  ⟨rfl, rfl⟩

theorem abreast_note (n : Note) (s : State) : Abreast s (Journal.write n s) := ⟨rfl, rfl⟩

theorem abreast_occupy (service name : String) (s : State) : Abreast s (s.occupy service name) where
  now := by
    have same : (s.occupy service name).now = s.now.occupy service name :=
      State.now_modifyService s service _
    rw [same]
    exact State.atRest_setRunning s.now service (some name)
  scratch := State.scratch_modifyService ..

theorem Abreast.symm (h : Abreast s t) : Abreast t s := ⟨Eq.symm h.now, h.scratch.symm⟩

theorem Abreast.trans (h : Abreast s t) (h' : Abreast t u) : Abreast s u :=
  ⟨Eq.trans h'.now h.now, h'.scratch.trans h.scratch⟩

theorem scratch_settle (h : t.scratch = s.scratch) (place : Nat) (a : Activity) (result : Json) :
    (t.settle place a result).scratch = (s.settle place a result).scratch := by
  show (t.storeResult a result).scratch = (s.storeResult a result).scratch
  unfold State.storeResult
  split
  · exact h
  split
  · exact h
  · rw [State.scratch_modifyStore, State.scratch_modifyStore, h]

theorem scratch_complete (place : Nat) (a : Activity) (result : Json) (s : State) :
    (s.complete place a result).scratch = s.scratch := by
  unfold State.complete
  cases a.isGenerated with
  | true => rfl
  | false => exact State.scratch_emit ..

/-- **What services run, and the history, are not seen.** -/
theorem abreast_unread : Unread (fun _ _ => True) Abreast where
  look {s t} h := by
    have look := atRest_unread.look h.now
    refine ⟨look.query, look.value, look.file, look.input, ?_⟩
    intro scope service _
    cases scope with
    | activity => exact h.scratch
    | process => exact look.store .process service (by simp)
    | service => exact look.store .service service (by simp)
  executed {s t} h := show t.now.executed = s.now.executed from atRest_unread.executed h.now
  note n s t h := ((abreast_note n s).symm.trans h).trans (abreast_note n t)
  display d _ _ h := h.map (fun h => h.map (State.display d) fun _ => rfl) (fun _ => rfl) h.scratch
  mark place stage s t h :=
    ((abreast_mark place stage s).symm.trans h).trans (abreast_mark place stage t)
  settle place a result _ _ h := h.map (fun h => sameAtRest_settle h place a result)
    (fun s => s.now_settle place a result) (scratch_settle h.scratch place a result)
  insert service ui s t h := by
    refine h.map (fun h => sameAtRest_insert h service ui) (fun s => ?_) ?_
    · show State.display _ (s.modifyService service _).now
        = State.display _ (s.now.modifyService service _).now
      rw [State.now_modifyService, State.now_modifyService]
      rfl
    · show (t.modifyService service _).scratch = (s.modifyService service _).scratch
      rw [State.scratch_modifyService, State.scratch_modifyService, h.scratch]
  complete place a result s t h := by
    refine h.map (fun h => sameAtRest_complete h place a result)
      (fun s => s.now_complete place a result) ?_
    rw [scratch_complete, scratch_complete, h.scratch]

/-! ## §2. What comes above an activity. -/

variable {flow : Flow} {run : Executor} {place : Nat} {a : Activity} {shows : Bool}

/-- An activity that takes nothing from the result above it does not depend on it. -/
theorem runActivity_of_unasked (unasked : Source.parentResult ∉ a.sources)
    {before before' : Inherited} (same : before'.previous = before.previous) :
    runActivity flow run place a before' shows = runActivity flow run place a before shows := by
  have arguments : argumentsOf run a before' = argumentsOf run a before := by
    refine argumentsOf_congr rfl ?_
    intro source hs
    cases source with
    | parentResult => exact absurd hs unasked
    | previousResult => simp only [sourceValue, same]
    | _ => rfl
  unfold runActivity
  simp only [resultFor, arguments]

/-! ## §3. The announcement of an end. -/

/-- The state after the end of an activity is announced, if it is. -/
def State.announce (a : Activity) (shows : Bool) (s : State) : State :=
  if announces a shows then s.display (.alert ("Activity executed: " ++ a.title)) else s

/-- A run of the activity whose end is announced only after it. -/
def announced (a : Activity) (shows : Bool) (run : Run State ActivityFailure Json) :
    Run State ActivityFailure Json := do
  let result ← run
  modify (State.announce a shows)
  return result

theorem announces_false (a : Activity) : announces a false = false := Bool.and_false _

/-- Nothing is recorded differently because it is announced. -/
theorem conclude_announces (result : Json) :
    (conclude place a result shows : Run State ActivityFailure Unit)
      = (conclude place a result false >>= fun _ => modify (State.announce a shows)) := by
  funext s
  unfold conclude State.announce
  rw [announces_false]
  cases announces a shows with
  | true =>
    exact congrArg (Task.done _) ((aloof_complete place a result).display _ s)
  | false => rfl

theorem cascade_silent (parent : Json) :
    ∀ (places : List Nat) (previous : Option Json),
      (∀ k ∈ places, ∀ before, run k before shows = run k before false) →
      cascade run parent shows places previous = cascade run parent false places previous
  | [], _, _ => rfl
  | k :: rest, previous, h => by
      have others := fun previous => cascade_silent parent rest previous
        fun k hk => h k (List.mem_cons_of_mem _ hk)
      simp only [cascade, h k List.mem_cons_self, others]

/-- An activity above silent ones announces its end after all that it does. -/
theorem runActivity_announces (before : Inherited)
    (subs : ∀ k ∈ a.subActivities, ∀ before, run k before shows = run k before false) :
    runActivity flow run place a before shows
      = announced a shows (runActivity flow run place a before false) := by
  unfold runActivity
  cases a.strategy with
  | none => rfl
  | some strategy =>
    have cascade := fun result => cascade_silent result a.subActivities none subs
    have concluded := fun result : Json =>
      (conclude_announces result : conclude place a result shows = _)
    simp only [announced, settle, handDown, cascade, concluded, bind_assoc, pure_bind]

theorem traced_announces (before : Inherited) (r : Run State ActivityFailure Json) :
    traced place before (announced a shows r) = announced a shows (traced place before r) := by
  funext s
  show ((((r _).bind _).bind _).bind _) = (((r _).bind _).bind _).bind _
  simp only [Task.bind_assoc]
  congr 1
  funext result t
  cases result <;> rfl

/-- **An activity announces its end after all that it does**, and nothing else is announced. -/
theorem execute_announces (ho : Orderly flow) : ∀ (place : Nat) (a : Activity),
    flow.arena[place]? = some a → ∀ before shows,
      execute flow place before shows
        = announced a shows (execute flow place before false) := by
  intro place
  -- the callees of an activity come before it in the order of calls
  induction place using (Flow.calls_wellFounded ho).induction with
  | _ place ih =>
    intro a ha before shows
    have subs : ∀ k ∈ a.subActivities, ∀ before,
        execute flow k before shows = execute flow k before false := by
      intro k hk before
      obtain ⟨_, b, hb, _, above, _⟩ := (ho.placed place a ha).sub k hk
      have silent : State.announce b shows = id := by
        funext s
        rw [State.announce, announces, above]
        rfl
      rw [ih k ⟨a, ha, Activity.mem_callees.mpr (.inr (.inr hk))⟩ b hb before shows, announced,
        silent]
      exact bind_pure _
    rw [execute_eq ho ha, execute_eq ho ha, runActivity_announces before subs,
      traced_announces]

/-! ## §4. The run of a reference. -/

/-- The failure of a reference whose target has failed. -/
def forwardedFailure (flow : Flow) (a : Activity) (e : ActivityFailure) : ActivityFailure :=
  failureOf flow a .execution (ExecutionError.reference e).message

/-- A reference with nothing of its own to do: its target is run, and the result passed on. -/
structure Forwards (a : Activity) (target : Nat) : Prop extends a.Bare where
  strategy : a.strategy = some (.reference target)
  required : a.required = []
  presentation : a.presentation = {}
  subActivities : a.subActivities = []
  skips : a.skips = false

/-- The state in which a reference calls its target. -/
def forwarded (place : Nat) (a : Activity) (before : Inherited) (s : State) : State :=
  Journal.write ⟨.debug, "executing activity",
      [("service", .text a.service), ("activity", .text a.name),
        ("strategy", .text (Strategy.reference place).label), ("parameters", .count 0)]⟩
    (((s.mark place (.entered before)).mark place .admitted).mark place .called)

theorem abreast_forwarded (place : Nat) (a : Activity) (before : Inherited) (s : State) :
    Abreast s (forwarded place a before s) :=
  (((abreast_mark place (.entered before) s).trans (abreast_mark place .admitted _)).trans
    (abreast_mark place .called _)).trans (abreast_note _ _)

/-- The state after the run of the target. -/
def afterwards (flow : Flow) (place : Nat) (a : Activity) :
    Except ActivityFailure Json → State → State
  | .ok result, s => (s.settle place a result).complete place a result
  | .error e, s => (s.display (.alert (forwardedFailure flow a e).alertText)).mark place .failed

/-- What a reference does when its call has come back: it passes the result on, or tells of the
failure. -/
def passOn (flow : Flow) (place : Nat) (a : Activity) :
    Except ExecutionError Json → Run State ActivityFailure Json
  | .ok result => modify (State.settle place a result) >>= fun _ =>
      modify (State.complete place a result) >>= fun _ => pure result
  | .error e => alert (failureOf flow a .execution e.message).alertText >>= fun _ =>
      fail (failureOf flow a .execution e.message)

/-- **The run of a reference is that of its target**, with nothing but `{}` above it. -/
theorem traced_of_forwards {target : Nat} (h : Forwards a target) (before : Inherited) (s : State) :
    traced place before (runActivity flow run place a before shows) s
      = (run target ⟨some (.object []), none⟩ false (forwarded place a before s)).bind
        fun outcome t => .done (outcome.mapError (forwardedFailure flow a))
          (afterwards flow place a outcome t) := by
  have reference : a.isReference = true := by
    rw [Activity.isReference, h.strategy]
    rfl
  have silent : announces a shows = false := by
    rw [announces, reference]
    simp
  -- it requires nothing and has no arguments, so that it comes straight to the call
  have result : resultFor flow run place a (.reference target) before
      = (mark place .admitted >>= fun _ =>
        resultOf flow run place a (.reference target) ⟨[], none⟩) := by
    unfold resultFor
    rw [gate_of_requiring_nothing h.required, argumentsOf_of_bare h.toBare]
    show (mark place .admitted >>= fun _ => (preProcessed flow a ⟨[], none⟩ >>= _)) = _
    rw [preProcessed, h.preProcess]
    rfl
  have body : runActivity flow run place a before shows
      = (mark place .admitted >>= fun _ =>
        attempt (dispatch run place a (.reference target) ⟨[], none⟩) >>= passOn flow place a) := by
    unfold runActivity
    rw [h.strategy]
    simp only [result, settle, handDown_of_bare h.subActivities h.presentation, conclude, silent,
      resultOf, h.skips, bind_assoc, Bool.false_eq_true, if_false]
    congr 1
    funext _
    congr 1
    funext outcome
    cases outcome <;> rfl
  rw [body]
  show (((((run target _ _ _).bind _).bind _).bind _).bind _).bind _ = _
  simp only [Task.bind_assoc]
  congr 1
  funext outcome t
  cases outcome <;> rfl

/-! ## §5. The operations. -/

/-- The state after the end of an activity at the top is announced, or its failure reported. -/
def atTop (service name : String) (a : Activity) (shows : Bool) :
    Except ActivityFailure Json → State → State
  | .ok _, s => s.announce a shows
  | .error _, s => s.recordFailed ⟨service, name, a.title⟩

/-- The state after the end of a reference is recorded, or its failure told and reported. -/
def asReference (flow : Flow) (name : String) (a : Activity) :
    Except ActivityFailure Json → State → State
  | .ok _, s => s.recordExecuted a.executed
  | .error e, s => (s.display (.alert (forwardedFailure flow a e).alertText)).recordFailed
      ⟨processService, name, a.title⟩

variable {service name : String}

theorem knownTop_of_knownActivity {found : Nat × Activity}
    (h : knownActivity flow service name = .ok found) : knownTop flow service name = .ok found := by
  obtain ⟨known, hs, _⟩ := Option.bind_eq_some_iff.mp (getElem?_of_knownActivity h).1
  rw [knownTop, knownService, hs]
  exact h

/-- **The run of an activity at the top**, between start and release. -/
theorem executeActivity_of_free (ho : Orderly flow)
    (known : knownActivity flow service name = .ok (place, a)) (free : s.running? service = none) :
    executeActivity flow service name shows s
      = (execute flow place {} false (s.occupy service name)).bind fun outcome t =>
        .done (outcome.mapError .activity)
          ((atTop service name a shows outcome t).release service) := by
  rw [executeActivity_eq, knownTop_of_knownActivity known]
  show guarded service name (runTop flow service name place a shows) s = _
  rw [guarded_of_free free, runTop,
    execute_announces ho place a (getElem?_of_knownActivity known).2 {} shows]
  show ((((execute flow place {} false _).bind _).bind _).bind _).bind _ = _
  simp only [Task.bind_assoc]
  congr 1
  funext outcome t
  cases outcome <;> rfl

/-- To release a service depends on the services alone, and changes them and the store of the
run. -/
theorem exists_release (service : String) (s : State) : ∃ services process, ∀ t : State,
    t.services = s.services → t.process = s.process →
      t.release service = { t with services, process, scratch := t.scratch.clear } := by
  by_cases hp : service = processService
  · refine ⟨s.services, { s.process with running := none }, ?_⟩
    intro t services process
    simp only [State.release, State.modifyService, if_pos hp, ← services, ← process]
  · cases hs : s.services.get? service with
    | none =>
      refine ⟨s.services, s.process, ?_⟩
      intro t services process
      simp only [State.release, State.modifyService, if_neg hp, services, hs, ← process]
    | some state =>
      refine ⟨s.services.insert service { state with running := none }, s.process, ?_⟩
      intro t services process
      simp only [State.release, State.modifyService, if_neg hp, services, hs, ← process]

theorem release_emit (event : Event) (s : State) :
    (State.emit event s).release service = State.emit event (s.release service) := by
  obtain ⟨services, process, h⟩ := exists_release service s
  have released := h s rfl rfl
  have listener : (s.release service).listener = s.listener := by rw [released]
  unfold State.emit
  rw [listener]
  split
  · rfl
  · rw [released]
    exact h { s with events := s.events ++ [event] } rfl rfl
  · rw [released]
    exact h (Journal.write _ s) rfl rfl

theorem release_recordExecuted (e : Document.Executed) (s : State) :
    (s.recordExecuted e).release service = (s.release service).recordExecuted e := by
  obtain ⟨services, process, h⟩ := exists_release service s
  refine (release_emit _ _).trans (congrArg (State.emit _) ?_)
  rw [h s rfl rfl]
  exact h { s with executed := State.remember e s.executed } rfl rfl

theorem release_atTop (outcome : Except ActivityFailure Json) (s : State) :
    (atTop service name a shows outcome s).release service
      = atTop service name a shows outcome (s.release service) := by
  cases outcome with
  | error e => exact release_emit _ s
  | ok result =>
    show (s.announce a shows).release service = (s.release service).announce a shows
    unfold State.announce
    split
    · exact (aloof_release service).display _ s
    · rfl

theorem release_asReference (outcome : Except ActivityFailure Json) (s : State) :
    (asReference flow name a outcome s).release service
      = asReference flow name a outcome (s.release service) := by
  cases outcome with
  | ok result => exact release_recordExecuted _ s
  | error e =>
    refine (release_emit _ _).trans ?_
    rw [(aloof_release service).display]
    rfl

/-- What is recorded or told of a reference does not depend on the history. -/
theorem now_asReference (outcome : Except ActivityFailure Json) (s : State) :
    (asReference flow name a outcome s).now = (asReference flow name a outcome s.now).now := by
  cases outcome with
  | ok result =>
    show (State.emit _ _).now = (State.emit _ _).now
    rw [State.now_emit, State.now_emit _ { s.now with executed := _ }]
    rfl
  | error e =>
    show (State.emit _ _).now = (State.emit _ _).now
    rw [State.now_emit, State.now_emit _ (State.display _ s.now)]
    rfl

theorem now_release (service : String) (s : State) :
    (s.release service).now = s.now.release service := by
  have same := s.now_modifyService service fun state => { state with running := none }
  unfold State.release
  rw [← same]
  rfl

/-- What a reference does after its target, but for its history. -/
theorem now_afterwards {target : Nat} (h : Forwards a target) (made : a.isGenerated = false)
    (outcome : Except ActivityFailure Json) (s : State) :
    (atTop processService name a shows (outcome.mapError (forwardedFailure flow a))
        (afterwards flow place a outcome s)).now
      = (asReference flow name a outcome s).now := by
  have reference : a.isReference = true := by
    rw [Activity.isReference, h.strategy]
    rfl
  cases outcome with
  | ok result =>
    have unstored : s.settle place a result = s.mark place (.settled result) := by
      unfold State.settle State.storeResult
      rw [reference]
      cases a.storeResult <;> rfl
    have silent : announces a shows = false := by
      rw [announces, reference]
      simp
    simp only [Except.mapError, atTop, afterwards, asReference, State.announce, silent, unstored,
      State.complete, made, Bool.false_eq_true, if_false]
    refine (State.now_emit _ _).trans (Eq.trans ?_ (State.now_emit _ _).symm)
    rfl
  | error e =>
    show (State.emit _ _).now = (State.emit _ _).now
    rw [State.now_emit, State.now_emit _ (State.display _ s)]
    rfl

/-- No service is started or released in a run of an activity. -/
theorem execute_runs (ho : Orderly flow) (ha : flow.arena[place]? = some a) {before : Inherited}
    {outcome : Except ActivityFailure Json}
    (h : (execute flow place before shows s).Ends outcome t) : t.runs = s.runs := by
  have steps : Steps flow (fun _ => True) s t :=
    Task.ends_of_within (steps_noting flow _).toChained
      (execute_within ho (fun _ _ _ _ => trivial) (fun _ _ _ => trivial) place
        (List.getElem?_eq_some_iff.mp ha).1 trivial before shows s) h
  clear h
  induction steps with
  | refl => rfl
  | tail _ step ih => exact (runs_step step).trans ih

/-- Two ways to run a target are alike: what services run and the history are not seen, nor is what
comes above it if it does not ask. -/
theorem target_alike (ho : Orderly flow) (ha : flow.arena[place]? = some a)
    (unasked : Source.parentResult ∉ a.sources) {before before' : Inherited}
    (same : before'.previous = before.previous) (h : Abreast s t) :
    (execute flow place before false s).Alike Abreast (execute flow place before' false t) := by
  have closed := blind_closed Abreast
  have body : Blind Abreast (runActivity flow (execute flow) place a before false) := by
    refine runActivity_closed abreast_unread.showing (fun _ _ => trivial)
      (parts_blind abreast_unread) ?_ before
    intro k hk before shows
    obtain ⟨b, hb⟩ := Flow.exists_of_calls ho ⟨a, ha, hk⟩
    exact execute_blind ho abreast_unread (fun _ _ _ _ => trivial) (fun _ _ _ _ _ _ => trivial)
      (List.getElem?_eq_some_iff.mp hb).1 trivial before shows
  have started : Abreast (s.mark place (.entered before)) (t.mark place (.entered before')) :=
    ((abreast_mark place _ s).symm.trans h).trans (abreast_mark place _ t)
  rw [execute_eq ho ha, execute_eq ho ha, runActivity_of_unasked unasked same]
  -- both go on in the same way once they are entered
  refine closed.bind (closed.attempt body) ?_ _ _ started
  intro outcome
  split
  · exact closed.pure _
  · exact closed.bind (blind_modify fun _ _ h => abreast_unread.mark _ _ h) fun _ => closed.fail _

/-- States abreast are the same but for their history once the services are released, if the same
services run then. -/
theorem Abreast.now_release (h : Abreast s t) {service other : String}
    (runs : (t.release other).runs = (s.release service).runs) :
    (t.release other).now = (s.release service).now := by
  have rest : SameAtRest (s.release service).now (t.release other).now := by
    rw [Run.now_release, Run.now_release]
    have released : SameAtRest s.now (s.now.release service) := sameAtRest_release rfl service
    exact Eq.trans (sameAtRest_release h.now other) released.symm
  -- at rest the store of the run is left out
  have scratch : (t.release other).now.scratch = (s.release service).now.scratch :=
    congrArg Store.clear h.scratch
  have same := rest.eq_of_runs runs
  rw [scratch] at same
  exact same

/-! ## §6. References and targets. -/

variable {m : Materials} {page : Document.Page} {process : Document.Process}

/-- **A reference of a built flow has nothing of its own to do** but what is inside it. -/
theorem forwards_of_target (hb : IsBuilt m page process flow) (ha : flow.arena[place]? = some a)
    {target : Nat} (h : a.target? = some target) (bare : a.subActivities = [])
    (called : a.skips = false) : Forwards a target := by
  have mem := List.mem_of_getElem? ha
  have reference := Flow.Activity.isReference_of_target?_eq_some h
  have plain : a.required = [] ∧ a.presentation = {} := by
    have stays : ∀ a b : Activity, Flow.Retains a b → a.required = [] ∧ a.presentation = {} →
        b.required = [] ∧ b.presentation = {} := by
      intro a b retains plain
      rw [retains]
      exact plain
    exact hb.reference (fun _ _ _ _ _ => ⟨rfl, rfl⟩) stays mem reference
  exact ⟨hb.bare mem reference, Flow.Activity.target?_eq_some.mp h, plain.1, plain.2, bare, called⟩

/-- **A reference does what its target does.**  In every built flow and from every state in which
nothing runs, let a reference have nothing inside it and let its call not be skipped, and let its
target take no value from the result above it.  Then to run the reference and to run the target,
whoever answers, ask the same questions and come to the same result, or both to a failure.  There
is a state `w` which both lead to: after the run of the target its end is announced or its failure
reported, and after that of the reference the end of the reference is recorded or its failure told
and reported.  Nothing else is different but notes and the trail. -/
theorem reference_is_its_target (hb : IsBuilt m page process flow) {r target : Nat}
    {a b : Activity} {name service activity : String}
    (reference : knownActivity flow processService name = .ok (r, a))
    (forwards : a.target? = some target) (bare : a.subActivities = []) (called : a.skips = false)
    (direct : knownActivity flow service activity = .ok (target, b))
    (unasked : Source.parentResult ∉ b.sources) (idle : ∀ service, s.running? service = none)
    (shows : Bool) {ω : Type} (environment : Task.Environment ω) (world : ω) :
    ∃ outcome w t u world',
      (executeActivity flow service activity shows s).finish environment world
          = (some (outcome.mapError .activity, t), world')
        ∧ (executeActivity flow processService name shows s).finish environment world
          = (some ((outcome.mapError (forwardedFailure flow a)).mapError .activity, u), world')
        ∧ (executeActivity flow processService name shows s).asked environment world
          = (executeActivity flow service activity shows s).asked environment world
        ∧ t.now = (atTop service activity b shows outcome w).now
        ∧ u.now = (asReference flow name a outcome w).now := by
  have ho := hb.orderly
  obtain ⟨hr, ha⟩ := getElem?_of_knownActivity reference
  have hb' := (getElem?_of_knownActivity direct).2
  have lone := forwards_of_target hb ha forwards bare called
  have made : a.isGenerated = false := by
    obtain ⟨c, hc, _, _, made⟩ := ho.top _ _ _ hr
    obtain rfl := Option.some.inj (ha.symm.trans hc)
    exact made
  -- both are the run of the target, from states abreast, and something after it
  have one : executeActivity flow service activity shows s = _ :=
    executeActivity_of_free ho direct (idle service)
  have other : executeActivity flow processService name shows s = _ :=
    executeActivity_of_free ho reference (idle processService)
  rw [execute_eq ho ha, traced_of_forwards lone, Task.bind_assoc] at other
  have start : Abreast (s.occupy service activity)
      (forwarded r a {} (s.occupy processService name)) :=
    ((abreast_occupy service activity s).symm.trans (abreast_occupy processService name s)).trans
      (abreast_forwarded r a {} _)
  have alike : (execute flow target {} false (s.occupy service activity)).Alike Abreast
      (execute flow target ⟨some (.object []), none⟩ false
        (forwarded r a {} (s.occupy processService name))) :=
    target_alike ho hb' unasked rfl start
  obtain ⟨outcome, v, world', hv⟩ :=
    (execute_terminates ho (List.getElem?_eq_some_iff.mp hb').1 {} false
      (s.occupy service activity)).finish environment world
  obtain ⟨v', abreast, hv'⟩ := alike.finish environment hv
  -- in the end the same services run as before
  have runs : (v.release service).runs = s.runs :=
    State.runs_release (idle service) (execute_runs ho hb' (Task.ends_of_finish environment hv))
  have kept : v'.runs = (forwarded r a {} (s.occupy processService name)).runs :=
    execute_runs ho hb' (Task.ends_of_finish environment hv')
  have runs' : (v'.release processService).runs = s.runs :=
    State.runs_release (idle processService) kept
  have same := abreast.now_release (runs'.trans runs.symm)
  have direct' : (executeActivity flow service activity shows s).finish environment world
      = (some (outcome.mapError .activity,
        (atTop service activity b shows outcome v).release service), world') := by
    rw [one, Task.finish_bind, hv]
    rfl
  have forwarded' : (executeActivity flow processService name shows s).finish environment world
      = (some ((outcome.mapError (forwardedFailure flow a)).mapError .activity,
        (atTop processService name a shows (outcome.mapError (forwardedFailure flow a))
          (afterwards flow r a outcome v')).release processService), world') := by
    rw [other, Task.finish_bind, hv']
    rfl
  refine ⟨outcome, v.release service, _, _, world', direct', forwarded', ?_, ?_, ?_⟩
  · rw [one, other, Task.asked_bind_done, alike.asked environment world]
    exact Task.asked_bind_done ..
  · rw [release_atTop]
  · calc ((atTop processService name a shows (outcome.mapError (forwardedFailure flow a))
          (afterwards flow r a outcome v')).release processService).now
        = ((asReference flow name a outcome v').release processService).now := by
          rw [now_release, now_afterwards lone made, ← now_release]
      _ = (asReference flow name a outcome (v'.release processService)).now := by
          rw [release_asReference]
      _ = (asReference flow name a outcome (v.release service)).now := by
          rw [now_asReference, same, ← now_asReference]

/-! ## §7. A window. -/

/-- A shop that counts its stock and shows what is above it, and a process that has it do both. -/
def windowProcess : Document.Process where
  services := [("shop",
    { activities := [
        ("count",
          { moduleFunction := some "count"
            storeResult := some { key := "stock" }
            subActivities := [("review", { moduleFunction := some "wait" })] }),
        ("show",
          { moduleFunction := some "echo", parameters := [("value", { parent := true })] })] })]
  common :=
    { activities := [
        ("recount", .reference { serviceName := "shop", activityName := "count" }),
        ("mirror", .reference { serviceName := "shop", activityName := "show" })] }

/-- The flow of the window: to count, to review and to show; to count again, and to mirror. -/
def windowFlow : Flow :=
  (Flow.assemble? Traffic.marketMaterials {} windowProcess).value.getD default

theorem windowFlow_isBuilt : IsBuilt Traffic.marketMaterials {} windowProcess windowFlow :=
  Flow.isBuilt_getD (by decide +kernel)

/-- What is known of a reference and of its target. -/
def windowKnown (name activity : String) :
    Option ((Nat × Option Nat × List Nat × Bool) × Nat × List Source) :=
  match knownActivity windowFlow processService name, knownActivity windowFlow "shop" activity with
  | .ok (r, a), .ok (target, b) =>
    some ((r, a.target?, a.subActivities, a.skips), target, b.sources)
  | _, _ => none

theorem exists_of_windowKnown {name activity : String} {r target : Nat} {forwards : Option Nat}
    {subs : List Nat} {skips : Bool} {sources : List Source}
    (h : windowKnown name activity = some ((r, forwards, subs, skips), target, sources)) :
    ∃ a b, knownActivity windowFlow processService name = .ok (r, a) ∧ a.target? = forwards
      ∧ a.subActivities = subs ∧ a.skips = skips
      ∧ knownActivity windowFlow "shop" activity = .ok (target, b) ∧ b.sources = sources := by
  unfold windowKnown at h
  split at h
  next ha hb =>
    simp only [Option.some.injEq, Prod.mk.injEq] at h
    obtain ⟨⟨rfl, rfl, rfl, rfl⟩, rfl, rfl⟩ := h
    exact ⟨_, _, ha, rfl, rfl, rfl, hb, rfl⟩
  next => contradiction

/-- To count again is to count: both give 7 where counting does. -/
theorem reference_is_its_target_window :
    IsBuilt Traffic.marketMaterials {} windowProcess windowFlow
    ∧ ∃ a b, knownActivity windowFlow processService "recount" = .ok (3, a)
      ∧ a.target? = some 0 ∧ a.subActivities = [] ∧ a.skips = false
      ∧ knownActivity windowFlow "shop" "count" = .ok (0, b) ∧ Source.parentResult ∉ b.sources
      ∧ ∃ w t u : State,
        (executeActivity windowFlow "shop" "count" true (initial windowFlow)).Ends
            (.ok (.integer 7)) t
          ∧ (executeActivity windowFlow processService "recount" true (initial windowFlow)).Ends
            (.ok (.integer 7)) u
          ∧ t.now = (w.announce b true).now ∧ u.now = (w.recordExecuted a.executed).now := by
  obtain ⟨a, b, reference, forwards, bare, called, direct, sources⟩ :=
    exists_of_windowKnown (show windowKnown "recount" "count" = some ((3, some 0, [], false), 0, [])
      by decide +kernel)
  have unasked : Source.parentResult ∉ b.sources := by
    rw [sources]
    exact List.not_mem_nil
  have counted : ((executeActivity windowFlow "shop" "count" true (initial windowFlow)).finish
      Traffic.marketAnswers ()).1.map Prod.fst = some (.ok (.integer 7)) := by
    decide +kernel
  obtain ⟨outcome, w, t, u, _, ht, hu, _, same, same'⟩ :=
    reference_is_its_target windowFlow_isBuilt reference forwards bare called direct unasked
      (running?_initial windowFlow) true Traffic.marketAnswers ()
  rw [ht] at counted
  cases outcome with
  | error e => exact absurd (Option.some.inj counted) (by simp [Except.mapError])
  | ok value =>
    obtain rfl := Except.ok.inj (Option.some.inj counted)
    exact ⟨windowFlow_isBuilt, a, b, reference, forwards, bare, called, direct, unasked, w, t, u,
      Task.ends_of_finish _ ht, Task.ends_of_finish _ hu, same, same'⟩

/-- To mirror what is above is not to show it: at the top there is nothing above, but a reference
hands down an object. -/
theorem reference_hands_down_an_object :
    IsBuilt Traffic.marketMaterials {} windowProcess windowFlow
    ∧ (∃ a b, knownActivity windowFlow processService "mirror" = .ok (4, a)
      ∧ a.target? = some 2 ∧ a.subActivities = [] ∧ a.skips = false
      ∧ knownActivity windowFlow "shop" "show" = .ok (2, b))
    ∧ (∀ service, (initial windowFlow).running? service = none)
    ∧ ((executeActivity windowFlow "shop" "show" true (initial windowFlow)).finish
        Traffic.marketAnswers ()).1.map Prod.fst = some (.ok .null)
    ∧ ((executeActivity windowFlow processService "mirror" true (initial windowFlow)).finish
        Traffic.marketAnswers ()).1.map Prod.fst = some (.ok (.object [])) := by
  obtain ⟨a, b, reference, forwards, bare, called, direct, _⟩ :=
    exists_of_windowKnown (show windowKnown "mirror" "show"
      = some ((4, some 2, [], false), 2, [.parentResult]) by decide +kernel)
  exact ⟨windowFlow_isBuilt, ⟨a, b, reference, forwards, bare, called, direct⟩,
    running?_initial windowFlow, by decide +kernel, by decide +kernel⟩

end Pageflow.Run
