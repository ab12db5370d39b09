/-
  Pageflow.Proofs.Worlds — runs in a world that answers.

  What the outside world answers may change whenever it is asked, so that a run is started in a
  world and comes to an end in another.  A run that leaves alone what lasts comes to something that
  depends on that world, and on what lasts where it is started; a rule for each way to put runs
  together says to what.  If no answer makes a file readable or unreadable, no run does.

  Main definitions: `answersIn`, `KeepsFiles`, `Settles`, `ComesTo` and `CanGive`.
  Main statements: `KeepsFiles.finish`, `ComesTo.bind` and `comesTo_of_within`.
-/
import Pageflow.Proofs.Drawing
import Pageflow.Proofs.Rejection

namespace Pageflow.Run

/-! ## §1. Files in the world outside. -/

section Worlds

variable {σ α ω : Type} {environment : Task.Environment ω} {world world' world'' : ω}

/-- The answers that are given in a world. -/
def answersIn (environment : Task.Environment ω) (world : ω) : Answers :=
  fun q => (environment q world).1

/-- The same files can be read, each in the same ways. -/
def SameFiles (environment : Task.Environment ω) (world world' : ω) : Prop :=
  ∀ f path, CanRead (answersIn environment world') f path
    ↔ CanRead (answersIn environment world) f path

/-- No answer makes a file readable or unreadable. -/
def KeepsFiles (environment : Task.Environment ω) : Prop :=
  ∀ q world, SameFiles environment world (environment q world).2

theorem SameFiles.trans (h : SameFiles environment world world')
    (h' : SameFiles environment world' world'') : SameFiles environment world world'' :=
  fun f path => (h' f path).trans (h f path)

/-- **A whole task makes no file readable or unreadable** if no answer does. -/
theorem KeepsFiles.finish (h : KeepsFiles environment) :
    ∀ (task : Task σ α) (world : ω),
      SameFiles environment world (task.finish environment world).2
  | .done _ _, _ => fun _ _ => Iff.rfl
  | .endless, _ => fun _ _ => Iff.rfl
  | .ask q s resume, world =>
    (h q world).trans (h.finish (resume (environment q world).1 s) (environment q world).2)

end Worlds

/-! ## §2. Failures and values. -/

/-- The outcome is a failure if and only if `fails`; what it gives is `good`. -/
structure Settles {ε α : Type} (fails : Prop) (good : α → Prop) (x : Except ε α) : Prop where
  fails_iff : (∃ e, x = .error e) ↔ fails
  good : ∀ a, x = .ok a → good a

namespace Settles

variable {ε α : Type} {fails fails' : Prop} {good good' : α → Prop}

theorem ok {a : α} (h : ¬ fails) (hg : good a) : Settles fails good (.ok a : Except ε α) where
  fails_iff := ⟨fun ⟨_, he⟩ => by contradiction, fun hf => absurd hf h⟩
  good _ ha := Except.ok.inj ha ▸ hg

theorem error {e : ε} (h : fails) : Settles fails good (.error e) where
  fails_iff := ⟨fun _ => h, fun _ => ⟨e, rfl⟩⟩
  good _ ha := by contradiction

theorem of_ok {a : α} (h : Settles fails good (.ok a : Except ε α)) : ¬ fails ∧ good a :=
  ⟨fun hf => by obtain ⟨_, he⟩ := h.fails_iff.mpr hf; contradiction, h.good a rfl⟩

theorem of_error {e : ε} (h : Settles fails good (.error e)) : fails := h.fails_iff.mp ⟨e, rfl⟩

theorem imp {x : Except ε α} (h : Settles fails good x) (hf : fails ↔ fails')
    (hg : ∀ a, good a → good' a) : Settles fails' good' x where
  fails_iff := h.fails_iff.trans hf
  good a ha := hg a (h.good a ha)

end Settles

/-! ## §3. What runs come to that leave alone what lasts. -/

section ComesTo

variable {ω ε δ α β : Type} {environment : Task.Environment ω} {world : ω} {c : State}

/-- Started in this world, wherever there lasts what lasts in `c`, the run comes to an outcome with
`P`, and that still lasts. -/
def ComesTo (environment : Task.Environment ω) (c : State) (world : ω) (r : Run State ε α)
    (P : Except ε α → Prop) : Prop :=
  ∀ s, s.lasting = c.lasting → ∃ x t world',
    (r s).finish environment world = (some (x, t), world') ∧ t.lasting = c.lasting ∧ P x

variable {r : Run State ε α} {P Q : Except ε α → Prop}

theorem ComesTo.mono (h : ComesTo environment c world r P) (hPQ : ∀ x, P x → Q x) :
    ComesTo environment c world r Q := by
  intro s hs
  obtain ⟨x, t, world', ends, same, hx⟩ := h s hs
  exact ⟨x, t, world', ends, same, hPQ x hx⟩

theorem comesTo_pure {a : α} (h : P (.ok a)) :
    ComesTo environment c world (Pure.pure a : Run State ε α) P :=
  fun s hs => ⟨.ok a, s, world, rfl, hs, h⟩

theorem comesTo_fail {e : ε} (h : P (.error e)) :
    ComesTo environment c world (fail e : Run State ε α) P :=
  fun s hs => ⟨.error e, s, world, rfl, hs, h⟩

/-- A question is answered as it is answered in this world. -/
theorem comesTo_ask (q : Query) :
    ComesTo environment c world (ask q : Run State ε q.Answer)
      (fun x => x = .ok (answersIn environment world q)) :=
  fun s hs => ⟨_, s, (environment q world).2, rfl, hs, rfl⟩

/-- **A run goes on, from whatever its first part comes to**; failures are passed on. -/
theorem ComesTo.bind {next : α → Run State ε β} {Q : Except ε β → Prop}
    (h : ComesTo environment c world r P)
    (ok : ∀ a world', P (.ok a) → ComesTo environment c world' (next a) Q)
    (error : ∀ e, P (.error e) → Q (.error e)) :
    ComesTo environment c world (r >>= next) Q := by
  intro s hs
  obtain ⟨x, t, world', ends, same, hx⟩ := h s hs
  show ∃ y u world'', ((r s).bind _).finish environment world = _ ∧ _
  rw [Task.finish_bind, ends]
  cases x with
  | ok a => exact ok a world' hx t same
  | error e => exact ⟨.error e, t, world', rfl, same, error e hx⟩

theorem ComesTo.attempt (h : ComesTo environment c world r P) :
    ComesTo environment c world (attempt r : Run State δ (Except ε α))
      (fun y => ∃ x, y = .ok x ∧ P x) := by
  intro s hs
  obtain ⟨x, t, world', ends, same, hx⟩ := h s hs
  refine ⟨.ok x, t, world', ?_, same, x, rfl, hx⟩
  show ((r s).bind _).finish environment world = _
  rw [Task.finish_bind, ends]
  rfl

/-- To look gives what lasts, if what follows depends on that only. -/
theorem comesTo_get {next : State → Run State ε α}
    (agree : ∀ s, s.lasting = c.lasting → next s = next c)
    (h : ComesTo environment c world (next c) P) :
    ComesTo environment c world (get >>= next) P := by
  intro s hs
  rw [get_bind_apply, agree s hs]
  exact h s hs

/-- What is noted first makes no difference. -/
theorem ComesTo.after_note (n : Note) (h : ComesTo environment c world r P) :
    ComesTo environment c world (note n >>= fun _ => r) P :=
  fun s hs => h (Journal.write n s) hs

theorem ComesTo.after_notes (ns : List Note)
    (h : ComesTo environment c world r P) :
    ComesTo environment c world (notes ns >>= fun _ => r) P := by
  have noted : ∀ (ns : List Note) (s : State), s.lasting = c.lasting →
      (ns.foldl (fun s n => Journal.write n s) s).lasting = c.lasting := by
    intro ns
    induction ns with
    | nil => exact fun _ hs => hs
    | cons n ns ih => exact fun s hs => ih (Journal.write n s) hs
  exact fun s hs => h _ (noted ns s hs)

/-- The run can come to this where there lasts what lasts in `c`, in this world. -/
def CanGive (environment : Task.Environment ω) (c : State) (world : ω) (r : Run State ε α)
    (x : Except ε α) : Prop :=
  ∃ s t world', s.lasting = c.lasting
    ∧ (r s).finish environment world = (some (x, t), world')

/-- A run that leaves alone what lasts comes to something that it can come to. -/
theorem comesTo_of_within (h : r.Within SameLasting) :
    ComesTo environment c world r (CanGive environment c world r) := by
  intro s hs
  obtain ⟨x, t, world', ends⟩ := (h s).terminates.finish environment world
  have same : t.lasting = s.lasting := Task.ends_of_within sameLasting_noting.toChained (h s)
    (Task.ends_of_finish environment ends)
  exact ⟨x, t, world', ends, same.trans hs, s, t, world', hs, ends⟩

end ComesTo

end Pageflow.Run
