/-
  Pageflow.Proofs.Chronicle — what a task does and what it is told.

  A task puts marks on the trail, asks questions and gets replies; others may do what they like
  while it waits.  Its chronicle is what it does and is told, in order.  `Chronicles spec` says that
  the task ends, whatever the replies are and whatever happens while it waits, and that its
  chronicle, its value and the state at its end meet `spec`.  `Goes` looks at the replies alone: the
  task can come to this value by these replies.

  Main definitions: `Move`, `Task.Chronicles`, `Task.record`, `Task.Goes` and `Composed`.
  Main statements: `Chronicles.bind`, `Chronicles.of_record`, `Chronicles.goes`, `goes_bind` and
  `Composed.showing`.
-/
import Pageflow.Proofs.Composition
import Pageflow.Proofs.Task

namespace Pageflow

open Run (Mark State)

deriving instance DecidableEq for Query

instance (q : Query) : DecidableEq q.Answer :=
  match q with
  | .call _ _ => inferInstanceAs (DecidableEq (Except Fault Output))
  | .send _ => inferInstanceAs (DecidableEq (Except Http.TransportError Http.Response))
  | .fileBytes _ => inferInstanceAs (DecidableEq (Except FileError Bytes))
  | .fileSize _ => inferInstanceAs (DecidableEq (Except FileError Nat))
  | .fetch _ => inferInstanceAs (DecidableEq (Except String String))

/-- A question and the answer to it. -/
abbrev Reply := Sigma Query.Answer

instance : DecidableEq Reply := instDecidableEqSigma

/-- What happens in a run: it puts a mark on the trail, or it gets a reply. -/
inductive Move where
  | mark (m : Mark)
  | reply (r : Reply)
deriving DecidableEq

/-- The reply that a move is. -/
def Move.reply? : Move → Option Reply
  | mark _ => none
  | reply r => some r

/-- The replies of a chronicle. -/
def repliesOf (moves : List Move) : List Reply := moves.filterMap Move.reply?

theorem repliesOf_marks (marks : List Mark) : repliesOf (marks.map .mark) = [] :=
  List.filterMap_eq_nil_iff.mpr fun _ h => by
    obtain ⟨m, _, rfl⟩ := List.mem_map.mp h
    rfl

theorem repliesOf_append (first last : List Move) :
    repliesOf (first ++ last) = repliesOf first ++ repliesOf last := List.filterMap_append

theorem repliesOf_replies (replies : List Reply) : repliesOf (replies.map .reply) = replies := by
  rw [repliesOf, List.filterMap_map]
  exact List.filterMap_some

namespace Task

variable {α β : Type}

/-! ## §1. Chronicles. -/

/-- The task ends, and its chronicle, its value and the state at its end meet `spec`. -/
def Chronicles : Task State α → (List Move → α → State → Prop) → State → Prop
  | .done a t, spec, s => ∃ told, t.trail = s.trail ++ told ∧ spec (told.map .mark) a t
  | .endless, _, _ => False
  | .ask q t resume, spec, s => ∃ told, t.trail = s.trail ++ told ∧ ∀ answer u,
      (resume answer u).Chronicles
        (fun more a v => spec (told.map .mark ++ .reply ⟨q, answer⟩ :: more) a v) u

theorem Chronicles.mono : ∀ {task : Task State α} {s : State}
    {spec spec' : List Move → α → State → Prop},
    (∀ moves a t, spec moves a t → spec' moves a t) → task.Chronicles spec s →
      task.Chronicles spec' s
  | .done _ _, _, _, _, h, ⟨told, htrail, meets⟩ => ⟨told, htrail, h _ _ _ meets⟩
  | .ask _ _ _, _, _, _, h, ⟨told, htrail, goesOn⟩ =>
      ⟨told, htrail, fun answer u => (goesOn answer u).mono fun _ _ _ => h _ _ _⟩

/-- To a task that is done nothing more happens. -/
theorem Chronicles.of_done {spec : List Move → α → State → Prop} {moves : List Move} {a : α}
    {t : State} (h : spec moves a t) :
    (Task.done a t).Chronicles (fun more b v => spec (moves ++ more) b v) t := by
  refine ⟨[], (List.append_nil _).symm, ?_⟩
  show spec (moves ++ []) a t
  rw [List.append_nil]
  exact h

/-- Marks that were put before belong to the chronicle. -/
theorem Chronicles.after {spec : List Move → α → State → Prop} {s s' : State} {first : List Mark}
    (h : s'.trail = s.trail ++ first) : ∀ {task : Task State α},
      task.Chronicles (fun more a t => spec (first.map .mark ++ more) a t) s' →
        task.Chronicles spec s
  | .done _ _, ⟨told, htrail, meets⟩ => by
      refine ⟨first ++ told, by rw [htrail, h, List.append_assoc], ?_⟩
      rw [List.map_append]
      exact meets
  | .ask _ _ _, ⟨told, htrail, goesOn⟩ => by
      refine ⟨first ++ told, by rw [htrail, h, List.append_assoc], ?_⟩
      intro answer u
      refine (goesOn answer u).mono ?_
      intro more a t meets
      rw [List.map_append, List.append_assoc]
      exact meets

/-- **The chronicle of a task in two parts is that of its parts**, one after the other. -/
theorem Chronicles.bind {next : α → State → Task State β} {spec' : List Move → β → State → Prop} :
    ∀ {task : Task State α} {s : State} {spec : List Move → α → State → Prop},
      task.Chronicles spec s →
      (∀ moves a u, spec moves a u →
        (next a u).Chronicles (fun more b v => spec' (moves ++ more) b v) u) →
      (task.bind next).Chronicles spec' s
  | .done _ _, _, _, ⟨_, htrail, meets⟩, hn => (hn _ _ _ meets).after htrail
  | .ask _ _ _, s, _, ⟨told, htrail, goesOn⟩, hn => by
      refine ⟨told, htrail, fun answer u => (goesOn answer u).bind ?_⟩
      intro more a v meets
      refine (hn _ a v meets).mono ?_
      intro last b w meets
      rw [List.append_assoc] at meets
      exact meets

/-- The chronicle that somebody's answers lead to, nothing else happening while the task waits, and
the value and the state at its end. -/
def record {ω : Type} (environment : Environment ω) :
    Task State α → State → ω → Option (List Move × α × State)
  | .done a t, s, _ => some ((t.trail.drop s.trail.length).map .mark, a, t)
  | .endless, _, _ => none
  | .ask q t resume, s, world =>
    let (answer, world) := environment q world
    ((resume answer t).record environment t world).map fun (moves, a, u) =>
      ((t.trail.drop s.trail.length).map .mark ++ .reply ⟨q, answer⟩ :: moves, a, u)

/-- What is true of all chronicles is true of the one that is recorded. -/
theorem Chronicles.of_record {ω : Type} {environment : Environment ω} {a : α} {t : State} :
    ∀ {task : Task State α} {s : State} {spec : List Move → α → State → Prop}
      {moves : List Move} {world : ω}, task.Chronicles spec s →
      task.record environment s world = some (moves, a, t) → spec moves a t
  | .done b u, s, _, _, _, ⟨told, htrail, meets⟩, h => by
      obtain ⟨rfl, rfl, rfl⟩ := by simpa only [record, Option.some.injEq, Prod.mk.injEq] using h
      rwa [htrail, List.drop_left]
  | .ask q u resume, s, _, _, world, ⟨told, htrail, goesOn⟩, h => by
      obtain ⟨⟨more, b, v⟩, hmore, heq⟩ := Option.map_eq_some_iff.mp h
      obtain ⟨rfl, rfl, rfl⟩ := by simpa only [Prod.mk.injEq] using heq
      have meets := (goesOn (environment q world).1 u).of_record hmore
      rwa [htrail, List.drop_left]

/-! ## §2. Replies. -/

/-- The task can come to this value and this state by these replies, whatever others do to the
state while it waits. -/
def Goes {σ : Type} : Task σ α → List Reply → α → σ → Prop
  | .done b t, replies, a, s => replies = [] ∧ b = a ∧ t = s
  | .endless, _, _, _ => False
  | .ask q _ resume, replies, a, s => ∃ answer u rest, replies = ⟨q, answer⟩ :: rest
      ∧ (resume answer u).Goes rest a s

/-- **A task in two parts goes by the replies to its first part and then by those to the
second.** -/
theorem goes_bind {σ : Type} {next : α → σ → Task σ β} {b : β} {t : σ} :
    ∀ {task : Task σ α} {replies : List Reply}, (task.bind next).Goes replies b t ↔
      ∃ first last a s, replies = first ++ last ∧ task.Goes first a s ∧ (next a s).Goes last b t
  | .done a s, replies => by
      constructor
      · intro h
        exact ⟨[], replies, a, s, rfl, ⟨rfl, rfl, rfl⟩, h⟩
      · rintro ⟨first, last, a, s, rfl, ⟨rfl, rfl, rfl⟩, h⟩
        exact h
  | .endless, replies => by
      constructor
      · intro h
        exact absurd h id
      · rintro ⟨_, _, _, _, _, h, _⟩
        exact absurd h id
  | .ask q s resume, replies => by
      constructor
      · rintro ⟨answer, u, rest, rfl, h⟩
        obtain ⟨first, last, a, v, rfl, hfirst, hlast⟩ := goes_bind.mp h
        exact ⟨⟨q, answer⟩ :: first, last, a, v, rfl, ⟨answer, u, first, rfl, hfirst⟩, hlast⟩
      · rintro ⟨_, last, a, v, rfl, ⟨answer, u, first, rfl, hfirst⟩, hlast⟩
        exact ⟨answer, u, first ++ last, rfl,
          goes_bind.mpr ⟨first, last, a, v, rfl, hfirst, hlast⟩⟩

/-- A task goes by the replies of its chronicle. -/
theorem Chronicles.goes : ∀ {task : Task State α} {s : State}
    {spec : List Move → α → State → Prop}, task.Chronicles spec s →
      task.Chronicles (fun moves a t => spec moves a t ∧ task.Goes (repliesOf moves) a t) s
  | .done _ _, _, _, ⟨told, htrail, meets⟩ =>
      ⟨told, htrail, meets, repliesOf_marks told, rfl, rfl⟩
  | .ask q _ _, _, _, ⟨told, htrail, goesOn⟩ => by
      refine ⟨told, htrail, fun answer u => (goesOn answer u).goes.mono ?_⟩
      rintro more a v ⟨meets, goes⟩
      refine ⟨meets, answer, u, repliesOf more, ?_, goes⟩
      rw [repliesOf_append, repliesOf_marks]
      rfl

end Task

namespace Run

variable {ε δ α β : Type} {s : State}

/-! ## §3. Runs. -/

theorem chronicles_pure {spec : List Move → Except ε α → State → Prop} {a : α}
    (h : spec [] (.ok a) s) : ((pure a : Run State ε α) s).Chronicles spec s :=
  ⟨[], (List.append_nil _).symm, h⟩

theorem chronicles_fail {spec : List Move → Except ε α → State → Prop} {e : ε}
    (h : spec [] (.error e) s) : ((fail e : Run State ε α) s).Chronicles spec s :=
  ⟨[], (List.append_nil _).symm, h⟩

theorem chronicles_modify {spec : List Move → Except ε Unit → State → Prop} {f : State → State}
    {told : List Mark} (htrail : (f s).trail = s.trail ++ told)
    (h : spec (told.map .mark) (.ok ()) (f s)) :
    ((modify f : Run State ε Unit) s).Chronicles spec s :=
  ⟨told, htrail, h⟩

/-- A change of the state puts its marks on the trail; then comes what follows. -/
theorem chronicles_modify_bind {f : State → State} {next : Unit → Run State ε β}
    {told : List Mark} {spec : List Move → Except ε β → State → Prop}
    (htrail : (f s).trail = s.trail ++ told)
    (h : (next () (f s)).Chronicles (fun more x t => spec (told.map .mark ++ more) x t) (f s)) :
    ((modify f >>= next) s).Chronicles spec s :=
  h.after htrail

theorem chronicles_bind {r : Run State ε α} {next : α → Run State ε β}
    {spec : List Move → Except ε α → State → Prop}
    {spec' : List Move → Except ε β → State → Prop} (hr : (r s).Chronicles spec s)
    (hok : ∀ moves a u, spec moves (.ok a) u →
      (next a u).Chronicles (fun more x v => spec' (moves ++ more) x v) u)
    (herror : ∀ moves e u, spec moves (.error e) u → spec' moves (.error e) u) :
    ((r >>= next) s).Chronicles spec' s := by
  refine hr.bind ?_
  intro moves x u meets
  cases x with
  | ok a => exact hok moves a u meets
  | error e => exact .of_done (herror moves e u meets)

theorem chronicles_attempt {r : Run State ε α}
    {spec : List Move → Except δ (Except ε α) → State → Prop}
    (h : (r s).Chronicles (fun moves x t => spec moves (.ok x) t) s) :
    ((attempt r : Run State δ (Except ε α)) s).Chronicles spec s := by
  refine h.bind ?_
  intro moves x u meets
  exact .of_done meets

theorem chronicles_mapError {r : Run State ε α} {f : ε → δ}
    {spec : List Move → Except δ α → State → Prop}
    (h : (r s).Chronicles (fun moves x t => spec moves (x.mapError f) t) s) :
    ((r.mapError f) s).Chronicles spec s := by
  refine h.bind ?_
  intro moves x u meets
  exact .of_done meets

/-! ## §4. What is composed of parts. -/

/-- Chronicles of a kind are composed: replies are of the kind, and of two that are, one after the
other is. -/
structure Composed (Q : List Move → Prop) : Prop where
  nil : Q []
  reply : ∀ r, Q [.reply r]
  append : ∀ {first last}, Q first → Q last → Q (first ++ last)

/-- The chronicle of the run is of a kind. -/
def ChroniclesOnly (Q : List Move → Prop) (r : Run State ε α) : Prop :=
  ∀ s, (r s).Chronicles (fun moves _ _ => Q moves) s

section Composed

variable {Q : List Move → Prop}

theorem chroniclesOnly_modify {f : State → State} {told : List Mark}
    (htrail : ∀ s, (f s).trail = s.trail ++ told) (h : Q (told.map .mark)) :
    ChroniclesOnly Q (modify f : Run State ε Unit) :=
  fun s => chronicles_modify (htrail s) h

theorem chroniclesOnly_silent (hQ : Composed Q) {f : State → State}
    (htrail : ∀ s, (f s).trail = s.trail) : ChroniclesOnly Q (modify f : Run State ε Unit) := by
  have nothing : ∀ s, (f s).trail = s.trail ++ [] := by
    intro s
    rw [htrail, List.append_nil]
  exact chroniclesOnly_modify nothing hQ.nil

theorem chroniclesOnly_bind (hQ : Composed Q) {r : Run State ε α} {next : α → Run State ε β}
    (hr : ChroniclesOnly Q r) (hn : ∀ a, ChroniclesOnly Q (next a)) :
    ChroniclesOnly Q (r >>= next) := by
  intro s
  refine chronicles_bind (hr s) ?_ fun _ _ _ => id
  intro moves a u h
  refine (hn a u).mono ?_
  intro more _ _ h'
  exact hQ.append h h'

/-- **To have a chronicle of a composed kind is a closed property**; what is shown does not
count. -/
theorem Composed.showing (hQ : Composed Q) (seen : Flow.Sight) :
    Showing seen (ChroniclesOnly Q : Property State) where
  pure _ _ := chronicles_pure hQ.nil
  fail _ _ := chronicles_fail hQ.nil
  ask _ _ := ⟨[], (List.append_nil _).symm, fun _ _ => chronicles_pure (hQ.reply _)⟩
  bind := chroniclesOnly_bind hQ
  attempt h s := chronicles_attempt (h s)
  mapError h s := chronicles_mapError (h s)
  note _ := chroniclesOnly_silent hQ fun _ => rfl
  get h _ s := h s s
  display _ := chroniclesOnly_silent hQ fun _ => rfl

/-- A run that puts no mark on the trail gets replies only. -/
theorem replies_composed :
    Composed fun moves => ∃ replies : List Reply, moves = replies.map .reply where
  nil := ⟨[], rfl⟩
  reply r := ⟨[r], rfl⟩
  append := by
    rintro _ _ ⟨first, rfl⟩ ⟨last, rfl⟩
    exact ⟨first ++ last, List.map_append.symm⟩

end Composed

end Run

end Pageflow
