/-
  Pageflow.Proofs.Telling — what a task puts on the trail.

  While a task waits, others may put marks on the trail.  What a task tells are the marks of its
  own stretches, one after the other.  `Tells spec` says that the task ends, whatever the answers
  are and whatever happens while it waits, and that what it has told by then, its value and the
  state at its end meet `spec`.

  To tell only what can be joined from parts of a kind is a closed property of runs.

  Main definitions: `Task.Tells`, `Task.ComesTo`, `Joins` and `TellsOnly`.
  Main statements: `Tells.bind`, `Tells.ends`, `Tells.told_wait` and `Joins.showing`.
-/
import Pageflow.Proofs.Composition
import Pageflow.Proofs.Task

namespace Pageflow

namespace Task

open Run (Mark State)

variable {α β : Type}

/-! ## §1. Tasks. -/

/-- The task ends, and what it tells, its value and the state at its end meet `spec`. -/
def Tells : Task State α → (List Mark → α → State → Prop) → State → Prop
  | .done a t, spec, s => ∃ told, t.trail = s.trail ++ told ∧ spec told a t
  | .endless, _, _ => False
  | .ask _ t resume, spec, s => ∃ told, t.trail = s.trail ++ told
      ∧ ∀ answer u, (resume answer u).Tells (fun more a v => spec (told ++ more) a v) u

/-- The task can come to this value and this state: somebody's answers lead there, and what others
do while it waits. -/
def ComesTo : Task State α → α → State → Prop
  | .done b t, a, s => b = a ∧ t = s
  | .endless, _, _ => False
  | .ask _ _ resume, a, s => ∃ answer u, (resume answer u).ComesTo a s

theorem Tells.mono : ∀ {task : Task State α} {s : State}
    {spec spec' : List Mark → α → State → Prop},
    (∀ told a t, spec told a t → spec' told a t) → task.Tells spec s → task.Tells spec' s
  | .done _ _, _, _, _, h, ⟨told, htrail, meets⟩ => ⟨told, htrail, h _ _ _ meets⟩
  | .ask _ _ _, _, _, _, h, ⟨told, htrail, goesOn⟩ =>
      ⟨told, htrail, fun answer u => (goesOn answer u).mono fun _ _ _ => h _ _ _⟩

/-- A task that is done tells nothing more. -/
theorem Tells.of_done {spec : List Mark → α → State → Prop} {told : List Mark} {a : α} {t : State}
    (h : spec told a t) : (Task.done a t).Tells (fun more b v => spec (told ++ more) b v) t := by
  refine ⟨[], (List.append_nil _).symm, ?_⟩
  show spec (told ++ []) a t
  rw [List.append_nil]
  exact h

/-- What was told before belongs to what is told. -/
theorem Tells.after {spec : List Mark → α → State → Prop} {s s' : State} {first : List Mark}
    (h : s'.trail = s.trail ++ first) : ∀ {task : Task State α},
      task.Tells (fun more a t => spec (first ++ more) a t) s' → task.Tells spec s
  | .done _ _, ⟨told, htrail, meets⟩ => ⟨first ++ told, by rw [htrail, h, List.append_assoc], meets⟩
  | .ask _ _ _, ⟨told, htrail, goesOn⟩ => by
      refine ⟨first ++ told, by rw [htrail, h, List.append_assoc], ?_⟩
      intro answer u
      refine (goesOn answer u).mono ?_
      intro more a t meets
      rw [List.append_assoc]
      exact meets

/-- **A task in two parts tells what its parts tell**, one after the other. -/
theorem Tells.bind {next : α → State → Task State β} {spec' : List Mark → β → State → Prop} :
    ∀ {task : Task State α} {s : State} {spec : List Mark → α → State → Prop},
      task.Tells spec s →
      (∀ told a u, spec told a u →
        (next a u).Tells (fun more b v => spec' (told ++ more) b v) u) →
      (task.bind next).Tells spec' s
  | .done _ _, _, _, ⟨_, htrail, meets⟩, hn => (hn _ _ _ meets).after htrail
  | .ask _ _ _, s, _, ⟨told, htrail, goesOn⟩, hn => by
      refine ⟨told, htrail, fun answer u => (goesOn answer u).bind ?_⟩
      intro more a v meets
      refine (hn _ a v meets).mono ?_
      intro last b w meets
      rw [← List.append_assoc]
      exact meets

/-- A task that nothing disturbs puts on the trail what it tells. -/
theorem Tells.ends {a : α} {t : State} : ∀ {task : Task State α} {s : State}
    {spec : List Mark → α → State → Prop}, task.Tells spec s → task.Ends a t →
      ∃ told, t.trail = s.trail ++ told ∧ spec told a t
  | .done _ _, _, _, tells, ⟨rfl, rfl⟩ => tells
  | .ask _ _ _, _, _, ⟨told, htrail, goesOn⟩, ⟨answer, ends⟩ => by
      obtain ⟨more, hmore, meets⟩ := (goesOn answer _).ends ends
      exact ⟨told ++ more, by rw [hmore, htrail, List.append_assoc], meets⟩

/-- What is told at the end is about what the task comes to. -/
theorem Tells.comesTo : ∀ {task : Task State α} {s : State}
    {spec : List Mark → α → State → Prop}, task.Tells spec s →
      task.Tells (fun told a t => spec told a t ∧ task.ComesTo a t) s
  | .done _ _, _, _, ⟨told, htrail, meets⟩ => ⟨told, htrail, meets, rfl, rfl⟩
  | .ask _ _ _, _, _, ⟨told, htrail, goesOn⟩ => by
      refine ⟨told, htrail, fun answer u => (goesOn answer u).comesTo.mono ?_⟩
      rintro more a v ⟨meets, comes⟩
      exact ⟨meets, answer, u, comes⟩

/-- Whatever the answers are, there comes an end. -/
theorem Tells.exists_end : ∀ {task : Task State α} {s : State}
    {spec : List Mark → α → State → Prop}, task.Tells spec s → ∃ told a t, spec told a t
  | .done a t, _, _, ⟨told, _, meets⟩ => ⟨told, a, t, meets⟩
  | .ask query t _, _, _, ⟨_, _, goesOn⟩ => by
      obtain ⟨answer⟩ := prompted.answerable query
      obtain ⟨more, a, v, meets⟩ := (goesOn answer t).exists_end
      exact ⟨_, a, v, meets⟩

/-- What holds of all that is told in the end, and of every beginning of what it holds of, holds
of what is told by the time the task waits. -/
theorem Tells.told_wait {Q : List Mark → Prop} (hQ : ∀ first last, Q (first ++ last) → Q first)
    {query : Query} {s t : State} {resume : query.Answer → State → Task State α}
    (h : (Task.ask query t resume).Tells (fun told _ _ => Q told) s) :
    ∃ told, t.trail = s.trail ++ told ∧ Q told
      ∧ ∀ answer u, (resume answer u).Tells (fun more _ _ => Q (told ++ more)) u := by
  obtain ⟨told, htrail, goesOn⟩ := h
  obtain ⟨answer⟩ := prompted.answerable query
  obtain ⟨more, _, _, meets⟩ := (goesOn answer t).exists_end
  exact ⟨told, htrail, hQ told more meets, goesOn⟩

end Task

namespace Run

variable {ε δ α β : Type} {s : State}

/-! ## §2. Runs. -/

theorem tells_pure {spec : List Mark → Except ε α → State → Prop} {a : α}
    (h : spec [] (.ok a) s) : ((pure a : Run State ε α) s).Tells spec s :=
  ⟨[], (List.append_nil _).symm, h⟩

theorem tells_fail {spec : List Mark → Except ε α → State → Prop} {e : ε}
    (h : spec [] (.error e) s) : ((fail e : Run State ε α) s).Tells spec s :=
  ⟨[], (List.append_nil _).symm, h⟩

theorem tells_modify {spec : List Mark → Except ε Unit → State → Prop} {f : State → State}
    {told : List Mark} (htrail : (f s).trail = s.trail ++ told) (h : spec told (.ok ()) (f s)) :
    ((modify f : Run State ε Unit) s).Tells spec s :=
  ⟨told, htrail, h⟩

/-- A change of the state tells what it puts on the trail; then comes what follows. -/
theorem tells_modify_bind {f : State → State} {next : Unit → Run State ε β} {told : List Mark}
    {spec : List Mark → Except ε β → State → Prop} (htrail : (f s).trail = s.trail ++ told)
    (h : (next () (f s)).Tells (fun more x t => spec (told ++ more) x t) (f s)) :
    ((modify f >>= next) s).Tells spec s :=
  h.after htrail

theorem tells_bind {r : Run State ε α} {next : α → Run State ε β}
    {spec : List Mark → Except ε α → State → Prop}
    {spec' : List Mark → Except ε β → State → Prop} (hr : (r s).Tells spec s)
    (hok : ∀ told a u, spec told (.ok a) u →
      (next a u).Tells (fun more x v => spec' (told ++ more) x v) u)
    (herror : ∀ told e u, spec told (.error e) u → spec' told (.error e) u) :
    ((r >>= next) s).Tells spec' s := by
  refine hr.bind ?_
  intro told x u meets
  cases x with
  | ok a => exact hok told a u meets
  | error e => exact .of_done (herror told e u meets)

theorem tells_attempt {r : Run State ε α} {spec : List Mark → Except δ (Except ε α) → State → Prop}
    (h : (r s).Tells (fun told x t => spec told (.ok x) t) s) :
    ((attempt r : Run State δ (Except ε α)) s).Tells spec s := by
  refine h.bind ?_
  intro told x u meets
  exact .of_done meets

theorem tells_mapError {r : Run State ε α} {f : ε → δ}
    {spec : List Mark → Except δ α → State → Prop}
    (h : (r s).Tells (fun told x t => spec told (x.mapError f) t) s) :
    ((r.mapError f) s).Tells spec s := by
  refine h.bind ?_
  intro told x u meets
  exact .of_done meets

/-! ## §3. What is joined from parts. -/

/-- Marks of a kind can be joined. -/
structure Joins (Q : List Mark → Prop) : Prop where
  nil : Q []
  append : ∀ {first last}, Q first → Q last → Q (first ++ last)

/-- The run tells only marks of a kind. -/
def TellsOnly (Q : List Mark → Prop) (r : Run State ε α) : Prop :=
  ∀ s, (r s).Tells (fun told _ _ => Q told) s

section Joins

variable {Q : List Mark → Prop}

theorem tellsOnly_modify {f : State → State} {told : List Mark}
    (htrail : ∀ s, (f s).trail = s.trail ++ told) (h : Q told) :
    TellsOnly Q (modify f : Run State ε Unit) :=
  fun s => tells_modify (htrail s) h

/-- What leaves the trail as it is tells nothing. -/
theorem tellsOnly_silent (hQ : Joins Q) {f : State → State} (htrail : ∀ s, (f s).trail = s.trail) :
    TellsOnly Q (modify f : Run State ε Unit) := by
  have nothing : ∀ s, (f s).trail = s.trail ++ [] := by
    intro s
    rw [htrail, List.append_nil]
  exact tellsOnly_modify nothing hQ.nil

theorem tellsOnly_bind (hQ : Joins Q) {r : Run State ε α} {next : α → Run State ε β}
    (hr : TellsOnly Q r) (hn : ∀ a, TellsOnly Q (next a)) : TellsOnly Q (r >>= next) := by
  intro s
  refine tells_bind (hr s) ?_ fun _ _ _ => id
  intro told a u h
  refine (hn a u).mono ?_
  intro more _ _ h'
  exact hQ.append h h'

/-- **To tell only what can be joined is a closed property**, and what is shown tells nothing. -/
theorem Joins.showing (hQ : Joins Q) (seen : Flow.Sight) :
    Showing seen (TellsOnly Q : Property State) where
  pure _ _ := tells_pure hQ.nil
  fail _ _ := tells_fail hQ.nil
  ask _ _ := ⟨[], (List.append_nil _).symm, fun _ _ => tells_pure hQ.nil⟩
  bind := tellsOnly_bind hQ
  attempt h s := tells_attempt (h s)
  mapError h s := tells_mapError (h s)
  note _ := tellsOnly_silent hQ fun _ => rfl
  get h _ s := h s s
  display _ := tellsOnly_silent hQ fun _ => rfl

end Joins

end Run

end Pageflow
