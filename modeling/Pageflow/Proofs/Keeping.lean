/-
  Pageflow.Proofs.Keeping — what a task keeps to as long as others do.

  A task waits for answers, and while it waits others change the state.  Terms say what it may
  rely on, the answers it gets and the states it is resumed in, and what it keeps to in turn: the
  questions it asks, the states it leaves behind when it waits or ends, and the value it gives.
  A run in two parts keeps to terms if its parts do, the second one from any value that the first
  one may give.

  Main definitions: `Terms`, `Task.Keeps` and `Keeps`.
  Main statements: `keeps_bind`, `keeps_ask` and `Keeps.mono`.
-/
import Pageflow.Proofs.Task

namespace Pageflow

/-- What a task relies on and what it keeps to. -/
structure Terms (σ : Type) where
  /-- Holds of the state whenever the task is resumed, waits, or has ended. -/
  state : σ → Prop
  /-- Holds of the answers that the task gets. -/
  answer : (q : Query) → q.Answer → Prop
  /-- Holds of the questions that it asks. -/
  question : Query → Prop

/-! ## §1. Tasks. -/

namespace Task

variable {σ α β : Type} {T : Terms σ} {E F : α → Prop}

/-- The task keeps to terms as long as others do; if it ends, then with such a value. -/
def Keeps (T : Terms σ) (E : α → Prop) : Task σ α → Prop
  | .done a s => T.state s ∧ E a
  | .endless => True
  | .ask q s resume => T.question q ∧ T.state s
      ∧ ∀ answer t, T.answer q answer → T.state t → (resume answer t).Keeps T E

/-- Who asks less and gives less keeps to wider terms. -/
theorem Keeps.mono {Q : Query → Prop} (hQ : ∀ q, T.question q → Q q)
    (hE : ∀ a, E a → F a) : ∀ {t : Task σ α}, t.Keeps T E → t.Keeps { T with question := Q } F
  | .done _ _, h => ⟨h.1, hE _ h.2⟩
  | .endless, _ => trivial
  | .ask _ _ _, h => ⟨hQ _ h.1, h.2.1, fun answer t ha ht => (h.2.2 answer t ha ht).mono hQ hE⟩

theorem Keeps.bind {F : β → Prop} {next : α → σ → Task σ β}
    (hn : ∀ a s, E a → T.state s → (next a s).Keeps T F) :
    ∀ {t : Task σ α}, t.Keeps T E → (t.bind next).Keeps T F
  | .done a s, h => hn a s h.2 h.1
  | .endless, _ => trivial
  | .ask _ _ _, h => ⟨h.1, h.2.1, fun answer t ha ht => (h.2.2 answer t ha ht).bind hn⟩

end Task

/-! ## §2. Runs. -/

namespace Run

variable {σ ε δ α β : Type} {T : Terms σ} {E : α → Prop}

/-- From every state that fits, the run keeps to the terms; if it ends well, then with such a
value. -/
def Keeps (T : Terms σ) (E : α → Prop) (r : Run σ ε α) : Prop :=
  ∀ s, T.state s → (r s).Keeps T fun x => ∀ a, x = .ok a → E a

theorem Keeps.mono {F : α → Prop} {Q : Query → Prop} {r : Run σ ε α} (h : r.Keeps T E)
    (hQ : ∀ q, T.question q → Q q) (hE : ∀ a, E a → F a) :
    r.Keeps { T with question := Q } F :=
  fun s hs => (h s hs).mono hQ fun _ hx a ha => hE a (hx a ha)

/-- What a run gives may be forgotten. -/
theorem Keeps.imp {F : α → Prop} {r : Run σ ε α} (h : r.Keeps T E) (hE : ∀ a, E a → F a) :
    r.Keeps T F :=
  h.mono (fun _ => id) hE

theorem keeps_pure {a : α} (h : E a) : (Pure.pure a : Run σ ε α).Keeps T E := by
  intro s hs
  refine ⟨hs, ?_⟩
  rintro _ ⟨⟩
  exact h

theorem keeps_fail (e : ε) : (fail e : Run σ ε α).Keeps T E :=
  fun _ hs => ⟨hs, fun _ h => by contradiction⟩

/-- **A run in two parts keeps to what both parts keep to.** -/
theorem keeps_bind {F : β → Prop} {r : Run σ ε α} {next : α → Run σ ε β} (hr : r.Keeps T E)
    (hn : ∀ a, E a → (next a).Keeps T F) : (r >>= next).Keeps T F := by
  intro s hs
  refine (hr s hs).bind ?_
  intro x t hx ht
  cases x with
  | ok a => exact hn a (hx a rfl) t ht
  -- a failure ends the run before the second part, so there is no value to speak of
  | error e => exact ⟨ht, fun _ h => by contradiction⟩

theorem keeps_attempt {r : Run σ ε α} (h : r.Keeps T E) :
    (attempt r : Run σ δ (Except ε α)).Keeps T fun x => ∀ a, x = .ok a → E a := by
  intro s hs
  refine (h s hs).bind ?_
  intro x t hx ht
  refine ⟨ht, ?_⟩
  rintro _ ⟨⟩
  exact hx

theorem keeps_mapError {f : ε → δ} {r : Run σ ε α} (h : r.Keeps T E) :
    (r.mapError f).Keeps T E := by
  intro s hs
  refine (h s hs).bind ?_
  intro x t hx ht
  refine ⟨ht, ?_⟩
  intro a ha
  cases x with
  | ok b =>
    obtain rfl := Except.ok.inj ha
    exact hx b rfl
  | error e => contradiction

theorem keeps_ofExcept {x : Except ε α} (h : ∀ a, x = .ok a → E a) :
    (ofExcept x : Run σ ε α).Keeps T E := by
  cases x with
  | ok a => exact keeps_pure (h a rfl)
  | error e => exact keeps_fail e

/-- **A question that fits gets an answer that fits.** -/
theorem keeps_ask {q : Query} (h : T.question q) :
    (ask q : Run σ ε q.Answer).Keeps T (T.answer q) := by
  intro s hs
  refine ⟨h, hs, ?_⟩
  intro answer t ha ht
  refine ⟨ht, ?_⟩
  rintro _ ⟨⟩
  exact ha

theorem keeps_get_bind {next : σ → Run σ ε α} (h : ∀ s, T.state s → (next s).Keeps T E) :
    ((get : Run σ ε σ) >>= next).Keeps T E :=
  fun s hs => h s hs s hs

theorem keeps_modify {f : σ → σ} (h : ∀ s, T.state s → T.state (f s)) :
    (modify f : Run σ ε Unit).Keeps T fun _ => True :=
  fun s hs => ⟨h s hs, fun _ _ => trivial⟩

section Journal

variable [Journal σ] (log : ∀ n s, T.state s → T.state (Journal.write n s))

include log

theorem keeps_note (n : Note) : (note n : Run σ ε Unit).Keeps T fun _ => True :=
  keeps_modify (log n)

theorem keeps_notes (ns : List Note) : (notes ns : Run σ ε Unit).Keeps T fun _ => True := by
  refine keeps_modify ?_
  induction ns with
  | nil => exact fun s hs => hs
  | cons n rest ih => exact fun s hs => ih _ (log n s hs)

end Journal

end Run

end Pageflow
