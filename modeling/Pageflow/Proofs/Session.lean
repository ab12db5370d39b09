/-
  Pageflow.Proofs.Session — what a host and a process do together.

  A host has a process do something; the operation goes on until it waits, and while it waits
  the host may start others, answer any of those that wait, give one up, or change what it lends
  to the process.  Operations one after the other are a session too.

  Whatever happens in a session is done in steps: those of runs, and those of the host.

  Main definitions: `Operation`, `HostStep`, `Session` and `Session.Next`.
  Main statements: `Operation.within`, `reaches_hostSteps` and `reaches_of_ends`.
-/
import Pageflow.Proofs.Guarded

namespace Pageflow.Run

open Pageflow.Flow (Activity Orderly)
open Pageflow.Task (Chained)

/-! ## §1. Operations. -/

/-- What a host can have a process do. -/
inductive Operation where
  | activity (service name : String) (shows : Bool)
  | sequence (service name : String)
  | autostart
  | call (c : ExternalCall)

/-- The run of an operation. -/
def Operation.run (flow : Flow) : Operation → Run State HostError Unit
  | activity service name shows => do let _ ← executeActivity flow service name shows
  | sequence service name => do let _ ← executeSequence flow service name
  | autostart => Run.autostart flow
  | call c => do let _ ← externalCall flow c

/-- A step of a run, of the operation around it, or of the host itself. -/
inductive HostStep (flow : Flow) : State → State → Prop
  | run {s t : State} (h : Step flow (fun _ => True) s t) : HostStep flow s t
  /-- A service starts to run. -/
  | start (service name : String) (s : State) : HostStep flow s
      (s.modifyService service fun state => { state with running := some name })
  /-- A service is free again. -/
  | release (service : String) (s : State) : HostStep flow s (s.release service)
  /-- The failure of an activity is reported. -/
  | failed (e : Document.Executed) (s : State) : HostStep flow s (s.recordFailed e)
  /-- The host lends something else. -/
  | lend (query : Dict String) (values : Dict (Dict Json)) (files : Dict (Dict String))
      (listener : Listener) (s : State) : HostStep flow s { s with query, values, files, listener }

/-- Any number of steps. -/
abbrev HostSteps (flow : Flow) : State → State → Prop := Relation.ReflTransGen (HostStep flow)

variable {flow : Flow} {ε α : Type}

theorem hostSteps_noting (flow : Flow) : Noting (HostSteps flow) where
  refl _ := .refl
  trans := Relation.ReflTransGen.trans
  note n s := .single (.run (.note n s))

theorem hostSteps_of_steps {s t : State} (h : Steps flow (fun _ => True) s t) :
    HostSteps flow s t := by
  induction h with
  | refl => exact .refl
  | tail _ step ih => exact ih.tail (.run step)

theorem within_hostSteps {r : Run State ε α} (h : r.Within (Steps flow fun _ => True)) :
    r.Within (HostSteps flow) := by
  intro s
  refine (h s).mono ?_
  intro s t
  exact hostSteps_of_steps

/-! ## §2. Operations take steps. -/

theorem hostSteps_showing (flow : Flow) :
    Showing (fun _ _ => True) (fun r => r.Within (HostSteps flow) : Property State) where
  toReading := (hostSteps_noting flow).reading _
  display := fun d => within_modify fun s => .single (.run (.display d s))

theorem hostParts_within (ho : Orderly flow) :
    HostParts flow (fun r => r.Within (HostSteps flow) : Property State) where
  start service name :=
    start_within (hostSteps_noting flow).toChained fun s => .single (.start service name s)
  release service := within_modify fun s => .single (.release service s)
  failed e := within_modify fun s => .single (.failed e s)
  call _ := within_modify fun s => .single (.run (.call trivial s))
  execute place a ha before shows := by
    apply within_hostSteps
    refine execute_within ho (fun _ _ _ _ => trivial) (fun _ _ _ => trivial) place ?_ trivial _ _
    exact (List.getElem?_eq_some_iff.mp ha).1

/-- **Operations take steps**, and come to an end. -/
theorem Operation.within (ho : Orderly flow) (op : Operation) :
    (op.run flow).Within (HostSteps flow) := by
  have showing := hostSteps_showing flow
  have closed := showing.toClosed
  have parts := hostParts_within ho
  cases op with
  | activity service name shows =>
    exact closed.bind (executeActivity_closed closed parts service name shows)
      fun _ => closed.pure _
  | sequence service name =>
    exact closed.bind (executeSequence_closed closed parts service name) fun _ => closed.pure _
  | autostart =>
    exact autostart_closed showing.toLogging
      fun service name => executeActivity_closed closed parts service name true
  | call c => exact closed.bind (externalCall_closed ho showing parts c) fun _ => closed.pure _

/-! ## §3. Sessions. -/

/-- An operation that waits for an answer. -/
structure Waiting where
  query : Query
  resume : query.Answer → State → Task State (Except HostError Unit)

/-- A process and the operations that wait. -/
structure Session where
  state : State
  waiting : List Waiting := []

namespace Session

/-- The session after a stretch of an operation, with those that wait besides. -/
def after (others : List Waiting) : Task State (Except HostError Unit) → Option Session
  | .done _ s => some ⟨s, others⟩
  | .endless => none
  | .ask query s resume => some ⟨s, ⟨query, resume⟩ :: others⟩

/-- What may happen next in a session. -/
inductive Next (flow : Flow) : Session → Session → Prop
  /-- An operation starts. -/
  | begin {v w : Session} (op : Operation)
      (h : after v.waiting (op.run flow v.state) = some w) : Next flow v w
  /-- One that waits gets its answer. -/
  | answer {v w : Session} {before behind : List Waiting} {o : Waiting}
      (ho : v.waiting = before ++ o :: behind) (answer : o.query.Answer)
      (h : after (before ++ behind) (o.resume answer v.state) = some w) : Next flow v w
  /-- One that waits is given up, and a service is free again. -/
  | abandon {v : Session} {before behind : List Waiting} {o : Waiting}
      (ho : v.waiting = before ++ o :: behind) (service : String) :
      Next flow v ⟨v.state.release service, before ++ behind⟩
  /-- The host lends something else. -/
  | lend (query : Dict String) (values : Dict (Dict Json)) (files : Dict (Dict String))
      (listener : Listener) (v : Session) :
      Next flow v ⟨{ v.state with query, values, files, listener }, v.waiting⟩

/-- Anything that may happen, time after time. -/
abbrev Reaches (flow : Flow) : Session → Session → Prop := Relation.ReflTransGen (Next flow)

/-- The operations that wait will go on in steps. -/
def Proceeds (flow : Flow) (v : Session) : Prop :=
  ∀ o ∈ v.waiting, ∀ answer s, (o.resume answer s).Within (HostSteps flow) s

theorem proceeds_after {others : List Waiting} {task : Task State (Except HostError Unit)}
    {s : State} {w : Session} (ht : task.Within (HostSteps flow) s)
    (hothers : ∀ o ∈ others, ∀ answer s, (o.resume answer s).Within (HostSteps flow) s)
    (h : after others task = some w) : HostSteps flow s w.state ∧ w.Proceeds flow := by
  cases task with
  | done result t =>
    obtain rfl := Option.some.inj h
    exact ⟨ht, hothers⟩
  | endless => contradiction
  | ask query t resume =>
    obtain rfl := Option.some.inj h
    refine ⟨ht.1, ?_⟩
    intro o ho
    rcases List.mem_cons.mp ho with rfl | ho
    · exact ht.2
    · exact hothers o ho

/-- Those that wait besides one of them. -/
theorem waiting_subset {v : Session} {before behind : List Waiting} {o : Waiting}
    (h : v.waiting = before ++ o :: behind) : before ++ behind ⊆ v.waiting := by
  rw [h]
  exact ((List.sublist_cons_self o behind).append_left before).subset

theorem next_hostSteps (ho : Orderly flow) {v w : Session} (hv : v.Proceeds flow)
    (h : Next flow v w) : HostSteps flow v.state w.state ∧ w.Proceeds flow := by
  have rest : ∀ {before behind : List Waiting} {o : Waiting}, v.waiting = before ++ o :: behind →
      ∀ o ∈ before ++ behind, ∀ answer s, (o.resume answer s).Within (HostSteps flow) s :=
    fun hw o' ho' => hv o' (waiting_subset hw ho')
  -- the others that wait will go on whatever the state is by then
  cases h with
  | begin op h => exact proceeds_after (op.within ho v.state) hv h
  | @answer _ _ before behind o hw answer h =>
    refine proceeds_after (hv o ?_ answer v.state) (rest hw) h
    rw [hw]
    exact List.mem_append_right _ List.mem_cons_self
  | abandon hw service => exact ⟨.single (.release service _), rest hw⟩
  | lend query values files listener => exact ⟨.single (.lend query values files listener _), hv⟩

/-- **Whatever happens in a session is done in steps.** -/
theorem reaches_hostSteps (ho : Orderly flow) {v w : Session} (hv : v.Proceeds flow)
    (h : Reaches flow v w) : HostSteps flow v.state w.state ∧ w.Proceeds flow := by
  induction h with
  | refl => exact ⟨.refl, hv⟩
  | tail _ next ih =>
    obtain ⟨steps, proceeds⟩ := ih
    obtain ⟨more, proceeds'⟩ := next_hostSteps ho proceeds next
    exact ⟨steps.trans more, proceeds'⟩

/-! ## §4. One operation after the other. -/

theorem reaches_of_task (others : List Waiting) {result : Except HostError Unit} {t : State} :
    ∀ {task : Task State (Except HostError Unit)} {w : Session}, task.Ends result t →
      after others task = some w → Reaches flow w ⟨t, others⟩
  | .done _ _, _, ⟨_, rfl⟩, h => by
      obtain rfl := Option.some.inj h
      exact .refl
  | .ask query s resume, _, ⟨answer, ends⟩, h => by
      obtain rfl := Option.some.inj h
      -- nothing else happens before the answer
      cases hw : after others (resume answer s) with
      | none =>
        cases ht : resume answer s <;> simp_all [after]
      | some w =>
        have next : Next flow ⟨s, ⟨query, resume⟩ :: others⟩ w :=
          .answer (List.nil_append _).symm answer hw
        exact .head next (reaches_of_task others ends hw)

/-- An operation that runs to its end while nothing else happens is part of a session. -/
theorem reaches_of_ends (op : Operation) (others : List Waiting) {s t : State}
    {result : Except HostError Unit} (h : (op.run flow s).Ends result t) :
    Reaches flow ⟨s, others⟩ ⟨t, others⟩ := by
  cases hw : after others (op.run flow s) with
  | none => cases ht : op.run flow s <;> simp_all [after]
  | some w => exact .head (.begin op hw) (reaches_of_task others h hw)

end Session

end Pageflow.Run
