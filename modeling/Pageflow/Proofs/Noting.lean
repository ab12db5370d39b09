/-
  Pageflow.Proofs.Noting — what is done without changing anything but the log.

  To stay within a relation over stretches is a closed property of runs.  To read an input or a
  store, to find out a server and its credentials, to call a function or to send a request changes
  nothing of the state: only notes are written.  So every stretch of it is within any relation
  that allows for notes, and if nothing disturbs it, so is the whole.

  Main definitions: `Noting` and `Leads`.
  Main statements: `Noting.reading` and `Noting.leads`.
-/
import Pageflow.Proofs.Closed
import Pageflow.Proofs.Task

namespace Pageflow.Run

open Pageflow.Task (Chained)

/-- A relation over stretches that allows for notes. -/
structure Noting {σ : Type} [Journal σ] (R : σ → σ → Prop) : Prop extends Chained R where
  note : ∀ n s, R s (Journal.write n s)

theorem within_closed {σ : Type} {R : σ → σ → Prop} (hR : Chained R) :
    Closed (fun r => r.Within R : Property σ) where
  pure := within_pure hR
  fail := within_fail hR
  ask := within_ask hR
  bind := within_bind hR
  attempt := within_attempt hR
  mapError := within_mapError hR

theorem within_note {σ ε : Type} [Journal σ] {R : σ → σ → Prop} (hR : Noting R) (n : Note) :
    (note n : Run σ ε Unit).Within R :=
  within_modify (hR.note n)

/-- **To look and to note stays within a relation that allows for notes**, whatever is seen. -/
theorem Noting.reading {R : State → State → Prop} (hR : Noting R) (seen : Flow.Sight) :
    Reading seen (fun r => r.Within R : Property State) where
  toClosed := within_closed hR.toChained
  note := within_note hR
  get := fun h _ => within_get_bind fun s => h s s

/-- However the run ends, if nothing disturbs it, `R` relates its start and its end. -/
def Leads {σ ε α : Type} (R : σ → σ → Prop) (r : Run σ ε α) : Prop :=
  ∀ s x t, (r s).Ends x t → R s t

theorem leads_modify {σ ε : Type} {R : σ → σ → Prop} {f : σ → σ} (h : ∀ s, R s (f s)) :
    Leads R (modify f : Run σ ε Unit) := by
  rintro s x t ⟨_, rfl⟩
  exact h s

theorem leads_closed {σ : Type} {R : σ → σ → Prop} (hR : Chained R) :
    Closed (Leads R : Property σ) where
  pure a := by
    rintro s x t ⟨_, rfl⟩
    exact hR.refl s
  fail e := by
    rintro s x t ⟨_, rfl⟩
    exact hR.refl s
  ask q := by
    rintro s x t ⟨_, _, rfl⟩
    exact hR.refl s
  bind hr hn := by
    intro s x t h
    obtain ⟨result, u, hu, h⟩ := (Task.ends_bind _ _ _ _).mp h
    cases result with
    | ok a => exact hR.trans (hr s _ u hu) (hn a u x t h)
    | error e =>
      obtain ⟨_, rfl⟩ := h
      exact hr s _ _ hu
  attempt hr := by
    intro s x t h
    obtain ⟨result, u, hu, _, rfl⟩ := (Task.ends_bind _ _ _ _).mp h
    exact hr s result _ hu
  mapError hr := by
    intro s x t h
    obtain ⟨result, u, hu, _, rfl⟩ := (Task.ends_bind _ _ _ _).mp h
    exact hr s result _ hu

/-- **To look and to note leads no further than notes do**, whatever is seen. -/
theorem Noting.leads {R : State → State → Prop} (hR : Noting R) (seen : Flow.Sight) :
    Reading seen (Leads R : Property State) where
  toClosed := leads_closed hR.toChained
  note n := leads_modify (hR.note n)
  get h _ := fun s => h s s

end Pageflow.Run
