/-
  Pageflow.Proofs.Task — two ways to look at a task.

  Seen from inside, a task goes on in stretches: from where it is resumed to where it next waits
  or ends.  `Within R` says that it ends and that every stretch relates the states by `R`,
  whatever the answers are and whatever others do to the state while it waits.  Seen from
  outside, nothing else happening, a task leads from a state to a value and a state: `Ends`.

  Main statements:
    • `within_bind`, `ends_bind` — both views of a run in two parts,
    • `ends_of_within` — the stretches of an undisturbed task add up,
    • `ends_iff_finish` — a task can end so iff somebody's answers end it so.
-/
import Pageflow.Run.Task

namespace Pageflow

namespace Task

variable {σ α β ω : Type}

/-! ## §1. Stretches. -/

/-- The task ends, and each of its stretches, the first one from `s` on, relates the states by
`R`. -/
def Within (R : σ → σ → Prop) : Task σ α → σ → Prop
  | .done _ s', s => R s s'
  | .endless, _ => False
  | .ask _ s' resume, s => R s s' ∧ ∀ answer t, (resume answer t).Within R t

/-- The task ends, whatever the answers are and whatever happens while it waits. -/
def Terminates : Task σ α → Prop
  | .done _ _ => True
  | .endless => False
  | .ask _ _ resume => ∀ answer t, (resume answer t).Terminates

/-- A relation that holds over a stretch in two parts if it holds over both. -/
structure Chained (R : σ → σ → Prop) : Prop where
  refl : ∀ s, R s s
  trans : ∀ {s t u}, R s t → R t u → R s u

variable {R S : σ → σ → Prop}

theorem Within.mono (h : ∀ s t, R s t → S s t) :
    ∀ {t : Task σ α} {s : σ}, t.Within R s → t.Within S s
  | .done _ _, _, ht => h _ _ ht
  | .endless, _, ht => ht
  | .ask _ _ _, _, ht => ⟨h _ _ ht.1, fun answer t => (ht.2 answer t).mono h⟩

theorem Within.terminates : ∀ {t : Task σ α} {s : σ}, t.Within R s → t.Terminates
  | .done _ _, _, _ => trivial
  | .endless, _, ht => ht
  | .ask _ _ _, _, ht => fun answer t => (ht.2 answer t).terminates

/-- A stretch may be prolonged at its start. -/
theorem Within.after (hR : Chained R) {s s' : σ} (h : R s s') :
    ∀ {t : Task σ α}, t.Within R s' → t.Within R s
  | .done _ _, ht => hR.trans h ht
  | .endless, ht => ht
  | .ask _ _ _, ht => ⟨hR.trans h ht.1, ht.2⟩

theorem Within.bind (hR : Chained R) {next : α → σ → Task σ β}
    (hn : ∀ a s, (next a s).Within R s) :
    ∀ {t : Task σ α} {s : σ}, t.Within R s → (t.bind next).Within R s
  | .done a s', _, ht => (hn a s').after hR ht
  | .endless, _, ht => ht
  | .ask _ _ _, _, ht => ⟨ht.1, fun answer t => (ht.2 answer t).bind hR hn⟩

/-- The task ends; each of its stretches but the last relates the states by `R`, and the last one
by `E`. -/
def Passes (R E : σ → σ → Prop) : Task σ α → σ → Prop
  | .done _ s', s => E s s'
  | .endless, _ => False
  | .ask _ s' resume, s => R s s' ∧ ∀ answer t, (resume answer t).Passes R E t

/-- What is done last belongs to the last stretch. -/
theorem Within.passes {E : σ → σ → Prop} {f : α → β} {g : α → σ → σ}
    (hE : ∀ a s t, R s t → E s (g a t)) :
    ∀ {t : Task σ α} {s : σ}, t.Within R s →
      (t.bind fun a u => .done (f a) (g a u)).Passes R E s
  | .done a _, _, ht => hE a _ _ ht
  | .endless, _, ht => ht
  | .ask _ _ _, _, ht => ⟨ht.1, fun answer t => (ht.2 answer t).passes hE⟩

/-! ## §2. Ends. -/

/-- The task can end with this value in this state, nothing else happening while it waits. -/
def Ends : Task σ α → α → σ → Prop
  | .done b t, a, s => b = a ∧ t = s
  | .endless, _, _ => False
  | .ask _ t resume, a, s => ∃ answer, (resume answer t).Ends a s

@[simp] theorem ends_done (b : α) (t : σ) (a : α) (s : σ) :
    (Task.done b t).Ends a s ↔ b = a ∧ t = s := Iff.rfl

@[simp] theorem ends_endless (a : α) (s : σ) : ¬ (Task.endless : Task σ α).Ends a s := id

theorem ends_bind (next : α → σ → Task σ β) (b : β) (s' : σ) :
    ∀ t : Task σ α, (t.bind next).Ends b s' ↔ ∃ a s, t.Ends a s ∧ (next a s).Ends b s'
  | .done a s => by
      constructor
      · intro h
        exact ⟨a, s, ⟨rfl, rfl⟩, h⟩
      · rintro ⟨_, _, ⟨rfl, rfl⟩, h⟩
        exact h
  | .endless => by simp [Task.bind]
  | .ask _ t resume => by
      constructor
      · rintro ⟨answer, h⟩
        obtain ⟨a, s, ha, hb⟩ := (ends_bind next b s' (resume answer t)).mp h
        exact ⟨a, s, ⟨answer, ha⟩, hb⟩
      · rintro ⟨a, s, ⟨answer, ha⟩, hb⟩
        exact ⟨answer, (ends_bind next b s' (resume answer t)).mpr ⟨a, s, ha, hb⟩⟩

/-- **The stretches of an undisturbed task add up.** -/
theorem ends_of_within (hR : Chained R) {a : α} {s' : σ} :
    ∀ {t : Task σ α} {s : σ}, t.Within R s → t.Ends a s' → R s s'
  | .done _ _, _, hw, ⟨_, rfl⟩ => hw
  | .ask _ _ _, _, hw, ⟨answer, he⟩ => hR.trans hw.1 (ends_of_within hR (hw.2 answer _) he)

/-- **The stretches of an undisturbed task add up**, the last one included. -/
theorem ends_of_passes {E : σ → σ → Prop} (hE : ∀ s t u, R s t → E t u → E s u) {a : α}
    {s' : σ} : ∀ {t : Task σ α} {s : σ}, t.Passes R E s → t.Ends a s' → E s s'
  | .done _ _, _, hp, ⟨_, rfl⟩ => hp
  | .ask _ _ _, _, hp, ⟨answer, he⟩ => hE _ _ _ hp.1 (ends_of_passes hE (hp.2 answer _) he)

/-! ## §3. Ends, and whoever answers. -/

theorem ends_of_finish (environment : Environment ω) {a : α} {s : σ} {w' : ω} :
    ∀ {t : Task σ α} {w : ω}, t.finish environment w = (some (a, s), w') → t.Ends a s
  | .done _ _, _, h => by
      simp only [finish, Prod.mk.injEq, Option.some.injEq] at h
      exact h.1
  | .endless, _, h => by simp [finish] at h
  | .ask _ _ _, _, h => ⟨_, ends_of_finish environment h⟩

/-- A task that somebody's answers end well can end well. -/
theorem exists_ends_ok {ε : Type} (environment : Environment ω) (w : ω)
    {t : Task σ (Except ε Unit)}
    (h : (t.finish environment w).1.map (fun r => r.1.toBool) = some true) :
    ∃ s, t.Ends (.ok ()) s := by
  obtain ⟨⟨outcome, s⟩, hr, ok⟩ := Option.map_eq_some_iff.mp h
  cases outcome with
  | ok value => exact ⟨s, ends_of_finish environment (Prod.ext hr rfl)⟩
  | error e => contradiction

open Classical in
/-- Answers by what it was told to answer, in order. -/
noncomputable def prompted : Environment (List (Sigma Query.Answer)) := fun q script =>
  match script with
  | [] => (Classical.choice (answerable q), [])
  | ⟨q', answer⟩ :: rest =>
    if h : q' = q then (h ▸ answer, rest) else (Classical.choice (answerable q), rest)
where
  answerable (q : Query) : Nonempty q.Answer := by
    cases q with
    | call => exact ⟨.error .cancelled⟩
    | send => exact ⟨.error (.network "")⟩
    | fileBytes => exact ⟨.error .notFound⟩
    | fileSize => exact ⟨.error .notFound⟩
    | fetch => exact ⟨.error ""⟩

theorem finish_prompted_of_ends {a : α} {s : σ} :
    ∀ {t : Task σ α}, t.Ends a s → ∃ script, (t.finish prompted script).1 = some (a, s)
  | .done _ _, ⟨rfl, rfl⟩ => ⟨[], rfl⟩
  | .ask q t resume, ⟨answer, h⟩ => by
      obtain ⟨script, hs⟩ := finish_prompted_of_ends h
      refine ⟨⟨q, answer⟩ :: script, ?_⟩
      simpa [finish, prompted] using hs

/-- A task can end so if and only if somebody's answers end it so. -/
theorem ends_iff_finish (t : Task σ α) (a : α) (s : σ) :
    t.Ends a s ↔ ∃ (ω : Type) (environment : Environment ω) (w : ω),
      (t.finish environment w).1 = some (a, s) := by
  constructor
  · intro h
    obtain ⟨script, hs⟩ := finish_prompted_of_ends h
    exact ⟨_, prompted, script, hs⟩
  · rintro ⟨ω, environment, w, h⟩
    have hf : t.finish environment w = (some (a, s), (t.finish environment w).2) := Prod.ext h rfl
    exact ends_of_finish environment hf

/-- To do nothing more changes nothing. -/
theorem bind_done_right (t : Task σ α) : (t.bind fun a s => .done a s) = t := by
  induction t with
  | done a s => rfl
  | endless => rfl
  | ask q s resume ih =>
    simp only [Task.bind]
    congr 1
    funext answer s
    exact ih answer s

end Task

/-! ## §4. Runs. -/

namespace Run

variable {σ ε δ α β : Type} {R : σ → σ → Prop}

/-- The run stays within `R` from every state. -/
def Within (R : σ → σ → Prop) (r : Run σ ε α) : Prop := ∀ s, (r s).Within R s

section Within

open Pageflow.Task (Chained)

theorem within_pure (hR : Chained R) (a : α) : (Pure.pure a : Run σ ε α).Within R :=
  fun s => hR.refl s

theorem within_fail (hR : Chained R) (e : ε) : (fail e : Run σ ε α).Within R :=
  fun s => hR.refl s

theorem within_get (hR : Chained R) : (get : Run σ ε σ).Within R :=
  fun s => hR.refl s

theorem within_get_bind {next : σ → Run σ ε α} (h : ∀ s, (next s s).Within R s) :
    ((get : Run σ ε σ) >>= next).Within R :=
  h

theorem within_ask (hR : Chained R) (q : Query) : (ask q : Run σ ε q.Answer).Within R :=
  fun s => ⟨hR.refl s, fun _ t => hR.refl t⟩

theorem within_modify {f : σ → σ} (h : ∀ s, R s (f s)) : (modify f : Run σ ε Unit).Within R :=
  h

/-- **A run in two parts stays within what both parts stay within.** -/
theorem within_bind (hR : Chained R) {r : Run σ ε α} {next : α → Run σ ε β}
    (hr : r.Within R) (hn : ∀ a, (next a).Within R) : (r >>= next).Within R := by
  intro s
  refine (hr s).bind hR ?_
  intro result s'
  cases result with
  | ok a => exact hn a s'
  | error e => exact hR.refl s'

theorem within_attempt (hR : Chained R) {r : Run σ ε α} (hr : r.Within R) :
    (attempt r : Run σ δ (Except ε α)).Within R := by
  intro s
  refine (hr s).bind hR ?_
  intro _ s'
  exact hR.refl s'

theorem within_mapError (hR : Chained R) {f : ε → δ} {r : Run σ ε α} (hr : r.Within R) :
    (r.mapError f).Within R := by
  intro s
  refine (hr s).bind hR ?_
  intro _ s'
  exact hR.refl s'

end Within

instance : LawfulMonad (Run σ ε) := by
  refine LawfulMonad.mk' (Run σ ε) (fun r => ?_) (fun _ _ => rfl) (fun r next last => ?_)
  · funext s
    refine Eq.trans ?_ (r s).bind_done_right
    show (r s).bind _ = _
    congr 1
    funext result t
    cases result <;> rfl
  · funext s
    show ((r s).bind _).bind _ = (r s).bind _
    rw [Task.bind_assoc]
    congr 1
    funext result t
    cases result <;> rfl

theorem get_bind_apply (next : σ → Run σ ε α) (s : σ) :
    ((get : Run σ ε σ) >>= next) s = next s s := rfl

/-- What fails at once makes all that should come after it fail at once. -/
theorem bind_of_done_error {r : Run σ ε α} {next : α → Run σ ε β} {e : ε} {s t : σ}
    (h : r s = .done (.error e) t) : (r >>= next) s = .done (.error e) t := by
  show (r s).bind _ = _
  rw [h]
  rfl

section Ends

variable {s s' : σ}

@[simp] theorem ends_pure (a : α) (x : Except ε α) :
    ((Pure.pure a : Run σ ε α) s).Ends x s' ↔ .ok a = x ∧ s = s' := Iff.rfl

@[simp] theorem ends_fail (e : ε) (x : Except ε α) :
    ((fail e : Run σ ε α) s).Ends x s' ↔ .error e = x ∧ s = s' := Iff.rfl

@[simp] theorem ends_get (x : Except ε σ) :
    ((get : Run σ ε σ) s).Ends x s' ↔ .ok s = x ∧ s = s' := Iff.rfl

@[simp] theorem ends_modify (f : σ → σ) (x : Except ε Unit) :
    ((modify f : Run σ ε Unit) s).Ends x s' ↔ .ok () = x ∧ f s = s' := Iff.rfl

@[simp] theorem ends_ofExcept (y x : Except ε α) :
    ((ofExcept y : Run σ ε α) s).Ends x s' ↔ y = x ∧ s = s' := by
  cases y <;> exact Iff.rfl

/-- A run in two parts ends well iff both parts do. -/
theorem ends_bind_ok {r : Run σ ε α} {next : α → Run σ ε β} {b : β} :
    ((r >>= next) s).Ends (.ok b) s' ↔
      ∃ a t, (r s).Ends (.ok a) t ∧ (next a t).Ends (.ok b) s' := by
  refine (Task.ends_bind _ _ _ _).trans ?_
  constructor
  · rintro ⟨result, t, hr, hn⟩
    cases result with
    | ok a => exact ⟨a, t, hr, hn⟩
    | error e => exact absurd hn.1 (by simp)
  · rintro ⟨a, t, hr, hn⟩
    exact ⟨.ok a, t, hr, hn⟩

/-- A run in two parts fails iff its first part does, or the second after it. -/
theorem ends_bind_error {r : Run σ ε α} {next : α → Run σ ε β} {e : ε} :
    ((r >>= next) s).Ends (.error e) s' ↔
      (r s).Ends (.error e) s' ∨
        ∃ a t, (r s).Ends (.ok a) t ∧ (next a t).Ends (.error e) s' := by
  refine (Task.ends_bind _ _ _ _).trans ?_
  constructor
  · rintro ⟨result, t, hr, hn⟩
    cases result with
    | ok a => exact .inr ⟨a, t, hr, hn⟩
    | error f =>
      obtain ⟨hf, rfl⟩ := hn
      obtain rfl := Except.error.inj hf
      exact .inl hr
  · rintro (hr | ⟨a, t, hr, hn⟩)
    · exact ⟨.error e, s', hr, rfl, rfl⟩
    · exact ⟨.ok a, t, hr, hn⟩

@[simp] theorem ends_attempt_ok {r : Run σ ε α} {y : Except ε α} :
    ((attempt r : Run σ δ (Except ε α)) s).Ends (.ok y) s' ↔ (r s).Ends y s' := by
  refine (Task.ends_bind _ _ _ _).trans ?_
  constructor
  · rintro ⟨x, t, hr, hx, rfl⟩
    obtain rfl := Except.ok.inj hx
    exact hr
  · intro hr
    exact ⟨y, s', hr, rfl, rfl⟩

@[simp] theorem not_ends_attempt_error {r : Run σ ε α} {e : δ} :
    ¬ ((attempt r : Run σ δ (Except ε α)) s).Ends (.error e) s' := by
  intro h
  obtain ⟨_, _, _, hx, _⟩ := (Task.ends_bind _ _ _ _).mp h
  contradiction

@[simp] theorem ends_mapError {f : ε → δ} {r : Run σ ε α} {x : Except δ α} :
    ((r.mapError f) s).Ends x s' ↔ ∃ y, y.mapError f = x ∧ (r s).Ends y s' := by
  refine (Task.ends_bind _ _ _ _).trans ?_
  constructor
  · rintro ⟨y, t, hr, hx, rfl⟩
    exact ⟨y, hx, hr⟩
  · rintro ⟨y, hx, hr⟩
    exact ⟨y, s', hr, hx, rfl⟩

end Ends

end Run

end Pageflow
