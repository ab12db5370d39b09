/-
  Pageflow.Proofs.Agreement — the log and the events agree.

  In a session to which somebody listens each step either reports ends of activities, or these and
  then the failure of an activity that an operation has run at the top and by which that operation
  ends.  Operations that are given up report nothing.  So, whatever a host does and however
  operations overlap, the log is the stream of completed events without repetitions.

  Main definitions: `Remains`, `Explained` and `Heard`.
  Main statements: `next_explained` and `log_and_events_agree`.
-/
import Pageflow.Proofs.Conclusions
import Pageflow.Proofs.Quiescence

namespace Pageflow.Run

open Pageflow.Flow (Activity IsBuilt Materials Orderly)

variable {flow : Flow} {s t u : State}

/-! ## §1. Sessions that are listened to. -/

open Session (Next after)

/-- What remains of an operation, and the state in which it goes on: all of it where it begins, and
what comes after an answer, in whatever state it is given. -/
inductive Remains (flow : Flow) (op : Operation) : Task State (Except HostError Unit) → State → Prop
  | begun (s : State) : Remains flow op (op.run flow s) s
  | resumed {query : Query} {s t : State}
      {resume : query.Answer → State → Task State (Except HostError Unit)}
      (h : Remains flow op (.ask query t resume) s) (answer : query.Answer) (u : State) :
      Remains flow op (resume answer u) u

/-- Why the stream and the log are as they are after a step of a session: ends of activities are
reported, or these and then the failure of an activity that an operation has run at the top.  The
operation ends here, by that failure. -/
inductive Explained (flow : Flow) (v w : Session) : Prop
  | ends (h : Reports flow v.state w.state)
  | failure {op : Operation} {e : HostError} {service name : String} {place : Nat} {a : Activity}
      {new : List Mark} (ended : Remains flow op (.done (.error e) w.state) v.state)
      (he : e.isOfRun = true) (ht : op.RunsAtTop flow service name)
      (known : knownActivity flow service name = .ok (place, a))
      (h : Reported flow (new ++ [⟨place, .failed⟩]) [⟨service, name, a.title⟩] v.state w.state)

/-- A session of a new process to which somebody listens all the time. -/
inductive Heard (flow : Flow) : Session → Prop
  | new : Heard flow ⟨{ initial flow with listener := .listening }, []⟩
  | next {v w : Session} (h : Heard flow v) (step : Next flow v w)
      (listening : w.state.listener = .listening) : Heard flow w

/-- What waits is what remains of operations. -/
def Underway (flow : Flow) (v : Session) : Prop :=
  ∀ o ∈ v.waiting, ∃ op s t, Remains flow op (.ask o.query t o.resume) s

variable {op : Operation} {task : Task State (Except HostError Unit)} {v w : Session}

theorem Remains.concludes (ho : Orderly flow) (h : Remains flow op task s) :
    task.Concludes (Reports flow) (Concluded flow (op.RunsAtTop flow)) s := by
  induction h with
  | begun s => exact op.concludes ho s
  | resumed h answer u ih => exact ih.2 answer u

/-- What is reported until what remains of an operation ends or waits is explained. -/
theorem Remains.explained (ho : Orderly flow) {others : List Waiting}
    (h : Remains flow op task v.state) (hw : after others task = some w) : Explained flow v w := by
  have concludes := h.concludes ho
  cases task with
  | done x t =>
    obtain rfl := Option.some.inj hw
    cases concludes with
    | well reports => exact .ends reports
    | apart _ reports => exact .ends reports
    | failed he ht known reported => exact .failure h he ht known reported
  | endless => contradiction
  | ask query t resume =>
    obtain rfl := Option.some.inj hw
    exact .ends concludes.1

theorem Remains.underway {others : List Waiting} (h : Remains flow op task s)
    (hothers : ∀ o ∈ others, ∃ op s t, Remains flow op (.ask o.query t o.resume) s)
    (hw : after others task = some w) : Underway flow w := by
  cases task with
  | done x t =>
    obtain rfl := Option.some.inj hw
    exact hothers
  | endless => contradiction
  | ask query t resume =>
    obtain rfl := Option.some.inj hw
    exact List.forall_mem_cons.mpr ⟨⟨op, s, t, h⟩, hothers⟩

/-- **Every step of a session is explained**, unless somebody starts or ceases to listen. -/
theorem next_explained (ho : Orderly flow) (hv : Underway flow v) (step : Next flow v w)
    (same : w.state.listener = v.state.listener) : Explained flow v w ∧ Underway flow w := by
  have rest : ∀ {before behind : List Waiting} {o : Waiting}, v.waiting = before ++ o :: behind →
      ∀ o ∈ before ++ behind, ∃ op s t, Remains flow op (.ask o.query t o.resume) s :=
    fun hw o ho => hv o (Session.waiting_subset hw ho)
  cases step with
  | begin op h =>
    have begun : Remains flow op (op.run flow v.state) v.state := .begun v.state
    exact ⟨begun.explained ho h, begun.underway hv h⟩
  | @answer _ _ before behind o hw answer h =>
    have waits : o ∈ v.waiting := by
      rw [hw]
      exact List.mem_append_right _ List.mem_cons_self
    obtain ⟨op, s, t, remains⟩ := hv o waits
    have resumed := remains.resumed answer v.state
    exact ⟨resumed.explained ho h, resumed.underway (rest hw) h⟩
  | abandon hw service => exact ⟨.ends ⟨_, reported_release _ _⟩, rest hw⟩
  | lend query values files listener =>
    exact ⟨.ends ⟨_, reported_silent same rfl rfl rfl⟩, hv⟩

theorem Explained.reported (h : Explained flow v w) :
    ∃ new failures, Reported flow new failures v.state w.state := by
  cases h with
  | ends h =>
    obtain ⟨new, h⟩ := h
    exact ⟨new, [], h⟩
  | failure _ _ _ _ h => exact ⟨_, _, h⟩

/-- **Somebody who listens hears what the log says.** -/
theorem Heard.inStep (ho : Orderly flow) (h : Heard flow v) :
    v.state.listener = .listening ∧ Underway flow v ∧ InStep flow v.state := by
  induction h with
  | new => exact ⟨rfl, fun _ ho => absurd ho List.not_mem_nil, rfl, rfl⟩
  | next _ step listening ih =>
    obtain ⟨heard, underway, inStep⟩ := ih
    obtain ⟨explained, underway'⟩ := next_explained ho underway step (listening.trans heard.symm)
    obtain ⟨new, failures, reported⟩ := explained.reported
    exact ⟨listening, underway', reported.inStep heard inStep⟩

/-- A task that can end is not endless. -/
theorem exists_after {result : Except HostError Unit} (others : List Waiting)
    (h : task.Ends result t) : ∃ w, after others task = some w := by
  cases task with
  | done _ u => exact ⟨_, rfl⟩
  | endless => contradiction
  | ask _ _ _ => exact ⟨_, rfl⟩

/-- A session is still heard when an operation has ended, nothing else happening. -/
theorem Remains.heard (ho : Orderly flow) {others : List Waiting}
    {result : Except HostError Unit} : ∀ {task : Task State (Except HostError Unit)} {s : State}
      {w : Session}, Remains flow op task s → task.Ends result t → after others task = some w →
      Heard flow w → Heard flow ⟨t, others⟩
  | .done _ _, _, _, _, ⟨_, rfl⟩, hw, heard => by
      obtain rfl := Option.some.inj hw
      exact heard
  | .ask query u resume, _, _, remains, ⟨answer, ends⟩, hw, heard => by
      obtain rfl := Option.some.inj hw
      have resumed := remains.resumed answer u
      obtain ⟨next, hnext⟩ := exists_after others ends
      have step : Next flow ⟨u, ⟨query, resume⟩ :: others⟩ next :=
        .answer (List.nil_append _).symm answer hnext
      have resumed' : Remains flow op (resume answer u)
          (Session.mk u (⟨query, resume⟩ :: others)).state := resumed
      obtain ⟨_, _, reported⟩ := (resumed'.explained ho hnext).reported
      have listening := reported.listener.trans (heard.inStep ho).1
      exact resumed.heard ho ends hnext (heard.next step listening)

theorem Heard.operation (ho : Orderly flow) (hv : Heard flow v) (op : Operation)
    {result : Except HostError Unit} (h : (op.run flow v.state).Ends result t) :
    Heard flow ⟨t, v.waiting⟩ := by
  have begun : Remains flow op (op.run flow v.state) v.state := .begun v.state
  obtain ⟨next, hnext⟩ := exists_after v.waiting h
  obtain ⟨_, _, reported⟩ := (begun.explained ho hnext).reported
  have listening := reported.listener.trans (hv.inStep ho).1
  exact begun.heard ho h hnext (hv.next (.begin op hnext) listening)

/-! ## §2. The log and the events. -/

variable {m : Materials} {page : Document.Page} {process : Document.Process}

/-- **The log and the events agree.**  In every session of a new process to which somebody listens,
whatever the host does and however operations overlap, the log is the stream of completed events
without those about an activity that an earlier one is about; no activity is logged twice; the
completed events are the ends on the trail; the log grows at its end; and a failure is only
reported by an operation that ends by it, of an activity that it has run at the top.

What a run of an activity tells of ends is told by events, one for each, unless the activity is made
for a value.  It tells its own end once if it ends well, after those of its sub-activities, and
not at all if it fails.  An operation that ends by the failure of a run reports it. -/
theorem log_and_events_agree (hb : IsBuilt m page process flow) :
    (∀ v, Heard flow v →
      v.state.executed = firsts (eventsOf .completed v.state.events)
      ∧ (v.state.executed.map identity).Nodup
      ∧ eventsOf .completed v.state.events = ended flow v.state.trail
      ∧ ∀ w, Next flow v w → w.state.listener = .listening →
        v.state.executed <+: w.state.executed ∧ Explained flow v w)
    ∧ (∀ place a, flow.arena[place]? = some a → ∀ before shows s,
      (execute flow place before shows s).Within (Reports flow) s
      ∧ (execute flow place before shows s).Tells (fun told x _ => TellsEnd place a told x) s)
    ∧ ∀ (op : Operation) (s : State),
      (op.run flow s).Concludes (Reports flow) (Concluded flow (op.RunsAtTop flow)) s := by
  have ho := hb.orderly
  refine ⟨?_, ?_, fun op => op.concludes ho⟩
  · intro v hv
    obtain ⟨heard, underway, inStep⟩ := hv.inStep ho
    refine ⟨inStep.log, inStep.nodup, inStep.ends, ?_⟩
    intro w step listening
    have explained := (next_explained ho underway step (listening.trans heard.symm)).1
    obtain ⟨new, failures, reported⟩ := explained.reported
    refine ⟨?_, explained⟩
    rw [reported.executed]
    exact prefix_rememberAll _ _
  · intro place a ha before shows s
    exact ⟨execute_reports ho ha before shows s, execute_tellsEnd ho ha before shows s⟩

/-- The shop after it was to sell before it is loaded, and then loads twice. -/
def loadedTwice : State :=
  [Operation.activity "shop" "sell" true, .activity "shop" "load" true,
    .activity "shop" "load" true].foldl (fun s op => shopAfter op s)
      { initial shopFlow with listener := .listening }

theorem heard_shopAfter (hv : Heard shopFlow ⟨s, []⟩) (op : Operation)
    (h : (((op.run shopFlow s).finish nullAnswers ()).1).isSome = true) :
    Heard shopFlow ⟨shopAfter op s, []⟩ := by
  obtain ⟨⟨result, t⟩, ht⟩ := Option.isSome_iff_exists.mp h
  have after : shopAfter op s = t := by rw [shopAfter, ht, Option.map_some, Option.getD_some]
  rw [after]
  exact hv.operation shopFlow_isBuilt.orderly op (Task.ends_of_finish nullAnswers (Prod.ext ht rfl))

/-- What the shop has loaded and checked twice is logged once, the check before the load. -/
theorem log_and_events_agree_shop :
    Heard shopFlow ⟨loadedTwice, []⟩
    ∧ loadedTwice.events.map Event.kind
      = [.failed, .completed, .completed, .completed, .completed]
    ∧ loadedTwice.executed.map identity = [("shop", "check"), ("shop", "load")]
    ∧ loadedTwice.executed = firsts (eventsOf .completed loadedTwice.events) := by
  have refused : Heard shopFlow ⟨_, []⟩ :=
    heard_shopAfter .new (.activity "shop" "sell" true) (by decide +kernel)
  have loaded : Heard shopFlow ⟨_, []⟩ :=
    heard_shopAfter refused (.activity "shop" "load" true) (by decide +kernel)
  have again : Heard shopFlow ⟨loadedTwice, []⟩ :=
    heard_shopAfter loaded (.activity "shop" "load" true) (by decide +kernel)
  have agree := (log_and_events_agree shopFlow_isBuilt).1 ⟨loadedTwice, []⟩ again
  exact ⟨again, by decide +kernel, by decide +kernel, agree.1⟩

end Pageflow.Run
