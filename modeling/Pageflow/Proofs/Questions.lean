/-
  Pageflow.Proofs.Questions — the questions that runs ask.

  If every question has one answer, a task asks a list of questions.  A task in two parts asks what
  its first part asks and then what its second part asks from there; a run whose parts are known to
  come to a value, or to ask a question, so does or asks it too.

  Main definitions: `Task.questions`, `Delivers` and `Asks`.
  Main statements: `Task.questions_bind`, `Keeps.of_mem_questions`, `Delivers.bind` and
  `Delivers.asks`.
-/
import Pageflow.Proofs.Answers
import Pageflow.Proofs.Keeping

namespace Pageflow

/-! ## §1. Tasks. -/

namespace Task

variable {σ τ α β : Type} {answers : Answers}

/-- The questions that a task asks of whoever always gives these answers, in order. -/
def questions (answers : Answers) (task : Task σ α) : List Query :=
  task.asked (fun q world => (answers q, world)) ()

/-- **A task in two parts asks what its parts ask**, the second one from what the first one comes
to. -/
theorem questions_bind (next : α → σ → Task σ β) :
    ∀ task : Task σ α, (task.bind next).questions answers = task.questions answers
      ++ ((task.outcome answers).elim [] fun r => (next r.1 r.2).questions answers)
  | .done _ _ => rfl
  | .endless => rfl
  | .ask q s resume => congrArg (q :: ·) (questions_bind next (resume (answers q) s))

theorem questions_isolate {s : σ} : ∀ t : Task τ α,
    (t.isolate s).questions answers = t.questions answers
  | .done _ _ => rfl
  | .endless => rfl
  | .ask q u resume => congrArg (q :: ·) (questions_isolate (resume (answers q) u))

theorem outcome_isolate {s : σ} : ∀ t : Task τ α,
    (t.isolate s).outcome answers = (t.outcome answers).map fun r => (r, s)
  | .done _ _ => rfl
  | .endless => rfl
  | .ask q u resume => outcome_isolate (resume (answers q) u)

/-- A task that keeps to terms asks only what they allow. -/
theorem Keeps.of_mem_questions {T : Terms σ} {E : α → Prop} (state : ∀ s, T.state s)
    (answer : ∀ q, T.answer q (answers q)) :
    ∀ {task : Task σ α}, task.Keeps T E → ∀ q ∈ task.questions answers, T.question q
  | .done _ _, _, _, h => absurd h List.not_mem_nil
  | .endless, _, _, h => absurd h List.not_mem_nil
  | .ask q s _, ⟨own, _, goesOn⟩, q', h => by
      rcases List.mem_cons.mp h with rfl | h
      · exact own
      · exact of_mem_questions state answer (goesOn _ s (answer q) (state s)) q' h

end Task

/-! ## §2. Runs in two parts. -/

namespace Run

variable {σ τ ε δ α β : Type} {answers : Answers} {s t : σ}

theorem outcome_bind_of_ok {r : Run σ ε α} {next : α → Run σ ε β} {a : α}
    (h : (r s).outcome answers = some (.ok a, t)) :
    ((r >>= next) s).outcome answers = (next a t).outcome answers := by
  refine (Task.outcome_bind _ _).trans ?_
  rw [h]
  rfl

theorem outcome_bind_of_error {r : Run σ ε α} {next : α → Run σ ε β} {e : ε}
    (h : (r s).outcome answers = some (.error e, t)) :
    ((r >>= next) s).outcome answers = some (.error e, t) := by
  refine (Task.outcome_bind _ _).trans ?_
  rw [h]
  rfl

theorem outcome_bind_of_none {r : Run σ ε α} {next : α → Run σ ε β}
    (h : (r s).outcome answers = none) : ((r >>= next) s).outcome answers = none := by
  refine (Task.outcome_bind _ _).trans ?_
  rw [h]
  rfl

/-- A run that ends well does so because its parts do. -/
theorem outcome_bind_ok {r : Run σ ε α} {next : α → Run σ ε β} {b : β} {u : σ}
    (h : ((r >>= next) s).outcome answers = some (.ok b, u)) :
    ∃ a t, (r s).outcome answers = some (.ok a, t)
      ∧ (next a t).outcome answers = some (.ok b, u) := by
  have h : ((r s).bind _).outcome answers = _ := h
  rw [Task.outcome_bind] at h
  obtain ⟨⟨x, t⟩, hr, hn⟩ := Option.bind_eq_some_iff.mp h
  cases x with
  | ok a => exact ⟨a, t, hr, hn⟩
  | error e => simp [Task.outcome] at hn

/-- **A run asks what its first part asks, and then what its second part asks from there.** -/
theorem questions_bind {r : Run σ ε α} {next : α → Run σ ε β} :
    ((r >>= next) s).questions answers = (r s).questions answers
      ++ ((r s).outcome answers).elim [] fun x => match x.1 with
        | .ok a => (next a x.2).questions answers
        | .error _ => [] := by
  refine (Task.questions_bind _ _).trans ?_
  congr 2
  funext x
  cases x.1 <;> rfl

/-- What the first part of a run asks the whole run asks. -/
theorem mem_questions_bind {r : Run σ ε α} {next : α → Run σ ε β} {q : Query}
    (h : q ∈ (r s).questions answers) : q ∈ ((r >>= next) s).questions answers := by
  rw [questions_bind]
  exact List.mem_append_left _ h

/-- What the second part asks it asks as well, if the first one ends well. -/
theorem mem_questions_bind_ok {r : Run σ ε α} {next : α → Run σ ε β} {q : Query} {a : α}
    (hr : (r s).outcome answers = some (.ok a, t)) (h : q ∈ (next a t).questions answers) :
    q ∈ ((r >>= next) s).questions answers := by
  rw [questions_bind, hr]
  exact List.mem_append_right _ h

/-- A run with a state of its own comes to what it comes to without, as a value. -/
theorem outcome_isolated {u : τ} {r : Run τ ε α} :
    (isolated u r s : Task σ (Except δ _)).outcome answers
      = ((r u).outcome answers).map fun x => (.ok x, s) := by
  refine (Task.outcome_bind _ _).trans ?_
  rw [Task.outcome_isolate]
  cases (r u).outcome answers <;> rfl

theorem questions_isolated {u : τ} {r : Run τ ε α} :
    (isolated u r s : Task σ (Except δ _)).questions answers = (r u).questions answers := by
  refine (Task.questions_bind _ _).trans ?_
  rw [Task.questions_isolate]
  cases ((r u).isolate s).outcome answers <;> exact List.append_nil _

/-! ## §3. Runs from any state. -/

/-- From every state the run comes to this value. -/
def Delivers (answers : Answers) (r : Run σ ε α) (a : α) : Prop :=
  ∀ s, ∃ t, (r s).outcome answers = some (.ok a, t)

/-- From every state the run asks this question. -/
def Asks (answers : Answers) (r : Run σ ε α) (q : Query) : Prop :=
  ∀ s, q ∈ (r s).questions answers

theorem Asks.bind {r : Run σ ε α} {next : α → Run σ ε β} {q : Query} (h : r.Asks answers q) :
    (r >>= next).Asks answers q :=
  fun s => mem_questions_bind (h s)

theorem Delivers.asks {r : Run σ ε α} {next : α → Run σ ε β} {q : Query} {a : α}
    (h : r.Delivers answers a) (hn : (next a).Asks answers q) : (r >>= next).Asks answers q := by
  intro s
  obtain ⟨t, hr⟩ := h s
  exact mem_questions_bind_ok hr (hn t)

theorem Delivers.bind {r : Run σ ε α} {next : α → Run σ ε β} {a : α} {b : β}
    (h : r.Delivers answers a) (hn : (next a).Delivers answers b) :
    (r >>= next).Delivers answers b := by
  intro s
  obtain ⟨t, hr⟩ := h s
  rw [outcome_bind_of_ok hr]
  exact hn t

theorem Delivers.eq_of_outcome {r : Run σ ε α} {a b : α} (h : r.Delivers answers a)
    (hr : (r s).outcome answers = some (.ok b, t)) : b = a := by
  obtain ⟨u, own⟩ := h s
  exact Except.ok.inj (Prod.mk.inj (Option.some.inj (hr.symm.trans own))).1

theorem delivers_pure (a : α) : (Pure.pure a : Run σ ε α).Delivers answers a := fun s => ⟨s, rfl⟩

theorem delivers_modify (f : σ → σ) : (modify f : Run σ ε Unit).Delivers answers () :=
  fun s => ⟨f s, rfl⟩

theorem delivers_ask (q : Query) : (ask q : Run σ ε q.Answer).Delivers answers (answers q) :=
  fun s => ⟨s, rfl⟩

theorem asks_ask (q : Query) : (ask q : Run σ ε q.Answer).Asks answers q :=
  fun _ => List.mem_cons_self

theorem delivers_ofExcept_mapError {x : Except ε α} {f : ε → δ} {a : α} (h : x = .ok a) :
    (ofExcept (x.mapError f) : Run σ δ α).Delivers answers a := by
  rw [h]
  exact delivers_pure a

theorem Delivers.mapError {r : Run σ ε α} {f : ε → δ} {a : α} (h : r.Delivers answers a) :
    (r.mapError f).Delivers answers a := by
  intro s
  obtain ⟨t, hr⟩ := h s
  refine ⟨t, (Task.outcome_bind _ _).trans ?_⟩
  rw [hr]
  rfl

theorem Asks.mapError {r : Run σ ε α} {f : ε → δ} {q : Query} (h : r.Asks answers q) :
    (r.mapError f).Asks answers q := by
  intro s
  refine (congrArg (q ∈ ·) (Task.questions_bind _ _)).mpr ?_
  exact List.mem_append_left _ (h s)

/-! ## §4. Terms of someone who always gives the same answers. -/

/-- What is relied on is that these are the answers. -/
abbrev answeredTerms (σ : Type) (answers : Answers) (P : Query → Prop) : Terms σ where
  state _ := True
  answer q a := a = answers q
  question := P

theorem keeps_ofExcept_mapError {T : Terms σ} {E : α → Prop} {x : Except ε α} {f : ε → δ}
    (h : ∀ a, x = .ok a → E a) : (ofExcept (x.mapError f) : Run σ δ α).Keeps T E := by
  cases x with
  | ok a => exact keeps_pure (h a rfl)
  | error e => exact keeps_fail (f e)

/-- A run with a state of its own asks what it would ask without. -/
theorem keeps_isolated {P : Query → Prop} {E : α → Prop} {u : τ} {r : Run τ ε α}
    (h : r.Keeps (answeredTerms τ answers P) E) :
    (isolated u r : Run σ δ (Except ε α × τ)).Keeps (answeredTerms σ answers P) fun _ => True := by
  have inner : ∀ {task : Task τ (Except ε α)} {F : Except ε α → Prop} {s : σ},
      task.Keeps (answeredTerms τ answers P) F →
        (task.isolate s).Keeps (answeredTerms σ answers P) fun _ => True := by
    intro task
    induction task with
    | done x t => exact fun _ => ⟨trivial, trivial⟩
    | endless => exact fun _ => trivial
    | ask q t resume ih =>
      rintro F s ⟨own, _, goesOn⟩
      exact ⟨own, trivial, fun answer s' ha _ => ih answer t (goesOn answer t ha trivial)⟩
  intro s _
  refine (inner (h u trivial)).bind ?_
  intro _ _ _ _
  exact ⟨trivial, fun _ _ => trivial⟩

end Run

end Pageflow
