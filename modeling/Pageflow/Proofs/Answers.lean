/-
  Pageflow.Proofs.Answers — runs whose answers depend on the questions only.

  If every question has one answer, whatever has been asked before, a run is a function of the
  state: it comes to an outcome in a state, or does not end.  Two runs correspond if from states
  that differ in nothing that lasts they come to related values, in such states again; what does
  not last is what is shown, the notes and the trail.  Runs that correspond may be put together.
  One that also leaves alone what lasts amounts to the same wherever it is done, so that such runs
  may change places.

  Main definitions: `Answers`, `Task.outcome`, `State.lasting`, `Corresponds` and `AmountsTo`.
  Main statements: `finish_eq_outcome`, `Corresponds.bind`, `corresponds_showing` and
  `Corresponds.amountsTo`.
-/
import Pageflow.Proofs.Alike

namespace Pageflow

/-! ## §1. One answer to every question. -/

/-- An answer to every question. -/
abbrev Answers := (q : Query) → q.Answer

/-- Whoever answers gives these answers, whatever has been asked before. -/
def Consistent {ω : Type} (environment : Task.Environment ω) (answers : Answers) : Prop :=
  ∀ q world, (environment q world).1 = answers q

namespace Task

variable {σ α β ω : Type} {answers : Answers}

/-- What the task comes to with these answers, nothing else happening while it waits. -/
def outcome (answers : Answers) : Task σ α → Option (α × σ)
  | .done a s => some (a, s)
  | .endless => none
  | .ask q s resume => (resume (answers q) s).outcome answers

/-- **A task comes to the outcome of its answers**, whoever gives them. -/
theorem finish_eq_outcome {environment : Environment ω} (h : Consistent environment answers) :
    ∀ (task : Task σ α) (world : ω), (task.finish environment world).1 = task.outcome answers
  | .done _ _, _ => rfl
  | .endless, _ => rfl
  | .ask q s resume, world => by
    rw [finish, outcome, ← h q world]
    exact finish_eq_outcome h (resume (environment q world).1 s) (environment q world).2

/-- The outcome of a run in two parts is that of the second part from the outcome of the first. -/
theorem outcome_bind (next : α → σ → Task σ β) :
    ∀ task : Task σ α, (task.bind next).outcome answers
      = (task.outcome answers).bind fun r => (next r.1 r.2).outcome answers
  | .done _ _ => rfl
  | .endless => rfl
  | .ask q s resume => outcome_bind next (resume (answers q) s)

theorem ends_of_outcome {a : α} {s : σ} :
    ∀ {task : Task σ α}, task.outcome answers = some (a, s) → task.Ends a s
  | .done _ _, h => Prod.mk.inj (Option.some.inj h)
  | .endless, h => by contradiction
  | .ask q s resume, h => ⟨answers q, ends_of_outcome h⟩

end Task

namespace Run

/-! ## §2. What lasts. -/

namespace State

/-- The state without what is shown, what has been noted, and the trail. -/
def lasting (s : State) : State := { s with displays := [], log := [], trail := [] }

theorem lasting_modifyService (s : State) (name : String) (f : ServiceState → ServiceState) :
    (s.modifyService name f).lasting = s.lasting.modifyService name f := by
  have same : s.lasting.services = s.services := rfl
  unfold modifyService
  rw [same]
  split
  · rfl
  split <;> rfl

end State

/-- What the change does to what lasts depends on nothing else. -/
def Lasting (f : State → State) : Prop := ∀ s, (f s).lasting = (f s.lasting).lasting

variable {f g : State → State} {s t : State}

theorem Lasting.congr (h : Lasting f) (same : t.lasting = s.lasting) :
    (f t).lasting = (f s).lasting := by
  rw [h s, h t, same]

theorem Lasting.comp (hg : Lasting g) (hf : Lasting f) : Lasting fun s => g (f s) := by
  intro s
  rw [hg.congr (hf s)]

theorem lasting_write (n : Note) (s : State) : (Journal.write n s).lasting = s.lasting := rfl

theorem lasting_display (d : Display) (s : State) : (s.display d).lasting = s.lasting := rfl

theorem lasting_mark (place : Nat) (stage : Stage) (s : State) :
    (s.mark place stage).lasting = s.lasting := rfl

theorem lasting_of_modifyService (name : String) (f : ServiceState → ServiceState) :
    Lasting fun s => s.modifyService name f := by
  intro s
  rw [State.lasting_modifyService, State.lasting_modifyService]
  rfl

theorem lasting_of_emit (event : Event) : Lasting (State.emit event) := by
  intro s
  have same : s.lasting.listener = s.listener := rfl
  unfold State.emit
  rw [same]
  cases s.listener <;> rfl

open Pageflow.Flow (Activity Orderly Sight)

theorem lasting_of_settle (place : Nat) (a : Activity) (result : Json) :
    Lasting (State.settle place a result) := by
  have stored : Lasting (State.storeResult a result) := by
    intro s
    unfold State.storeResult
    split
    · rfl
    split
    · rfl
    next target _ _ =>
      unfold State.modifyStore
      cases target.scope with
      | activity => rfl
      | process => exact lasting_of_modifyService _ _ s
      | service => exact lasting_of_modifyService _ _ s
  exact stored

theorem lasting_of_insertInputs (service : String) (ui : Document.Ui) :
    Lasting (insertInputs service ui) :=
  lasting_of_modifyService service fun state => state.register service ui

theorem lasting_of_complete (place : Nat) (a : Activity) (result : Json) :
    Lasting (State.complete place a result) := by
  have recorded : Lasting (State.recordExecuted a.executed) :=
    Lasting.comp (lasting_of_emit ⟨.completed, a.executed⟩)
      (f := fun s => { s with executed := State.remember a.executed s.executed }) fun _ => rfl
  unfold State.complete
  cases a.isGenerated with
  | true => exact fun _ => rfl
  | false => exact recorded.comp (f := State.mark place (.completed result)) fun _ => rfl

theorem lasting_of_release (service : String) : Lasting (State.release service) := by
  have freed : Lasting fun s => s.setRunning service none := lasting_of_modifyService _ _
  have cleared : Lasting fun s => { s with scratch := s.scratch.clear } := fun _ => rfl
  intro s
  rw [State.release_eq, State.release_eq]
  exact cleared.comp freed s

/-! ## §3. Runs that correspond. -/

section Corresponds

variable {answers : Answers} {good : State → Prop} {ε δ α β γ : Type}

/-- The outcomes are related, or the same failure, in good states that differ in nothing that
lasts. -/
inductive SameOutcome (good : State → Prop) (ρ : α → β → Prop) :
    Option (Except ε α × State) → Option (Except ε β × State) → Prop
  | ok {a : α} {b : β} {s t : State} (h : ρ a b) (same : t.lasting = s.lasting)
      (hs : good s.lasting) : SameOutcome good ρ (some (.ok a, s)) (some (.ok b, t))
  | error {e : ε} {s t : State} (same : t.lasting = s.lasting) (hs : good s.lasting) :
      SameOutcome good ρ (some (.error e, s)) (some (.error e, t))

/-- From good states that differ in nothing that lasts both runs come to an end, and to related
outcomes. -/
def Corresponds (answers : Answers) (good : State → Prop) (ρ : α → β → Prop) (r : Run State ε α)
    (r' : Run State ε β) : Prop :=
  ∀ s t, t.lasting = s.lasting → good s.lasting →
    SameOutcome good ρ ((r s).outcome answers) ((r' t).outcome answers)

/-- The runs correspond and come to the same. -/
abbrev Interchangeable (answers : Answers) (good : State → Prop) (r r' : Run State ε α) : Prop :=
  Corresponds answers good Eq r r'

variable {ρ : α → β → Prop}

theorem corresponds_pure {a : α} {b : β} (h : ρ a b) :
    Corresponds answers good ρ (Pure.pure a : Run State ε α) (Pure.pure b) :=
  fun _ _ same hs => .ok h same hs

theorem corresponds_fail (e : ε) :
    Corresponds answers good ρ (fail e : Run State ε α) (fail e : Run State ε β) :=
  fun _ _ same hs => .error same hs

/-- **Runs that correspond may go on with runs that do.** -/
theorem Corresponds.bind {α' β' : Type} {ρ' : α' → β' → Prop} {r : Run State ε α}
    {r' : Run State ε β} {next : α → Run State ε α'} {next' : β → Run State ε β'}
    (h : Corresponds answers good ρ r r')
    (hn : ∀ a b, ρ a b → Corresponds answers good ρ' (next a) (next' b)) :
    Corresponds answers good ρ' (r >>= next) (r' >>= next') := by
  intro s t same hs
  have first := h s t same hs
  show SameOutcome good ρ' (((r s).bind _).outcome answers) (((r' t).bind _).outcome answers)
  rw [Task.outcome_bind, Task.outcome_bind]
  generalize (r s).outcome answers = x at first ⊢
  generalize (r' t).outcome answers = y at first ⊢
  cases first with
  | ok h same hs => exact hn _ _ h _ _ same hs
  | error same hs => exact .error same hs

theorem Corresponds.attempt {r r' : Run State ε α} (h : Interchangeable answers good r r') :
    Interchangeable answers good (attempt r : Run State δ (Except ε α)) (attempt r') := by
  intro s t same hs
  have inner := h s t same hs
  show SameOutcome good Eq (((r s).bind _).outcome answers) (((r' t).bind _).outcome answers)
  rw [Task.outcome_bind, Task.outcome_bind]
  generalize (r s).outcome answers = x at inner ⊢
  generalize (r' t).outcome answers = y at inner ⊢
  cases inner with
  | ok h same hs => exact .ok (by rw [h]) same hs
  | error same hs => exact .ok rfl same hs

theorem Corresponds.mapError {r : Run State ε α} {r' : Run State ε β}
    (h : Corresponds answers good ρ r r') (f : ε → δ) :
    Corresponds answers good ρ (r.mapError f) (r'.mapError f) := by
  intro s t same hs
  have inner := h s t same hs
  show SameOutcome good ρ (((r s).bind _).outcome answers) (((r' t).bind _).outcome answers)
  rw [Task.outcome_bind, Task.outcome_bind]
  generalize (r s).outcome answers = x at inner ⊢
  generalize (r' t).outcome answers = y at inner ⊢
  cases inner with
  | ok h same hs => exact .ok h same hs
  | error same hs => exact .error same hs

/-- Changes that come to the same as far as it lasts correspond. -/
theorem corresponds_modify
    (h : ∀ s t, t.lasting = s.lasting → good s.lasting →
      (g t).lasting = (f s).lasting ∧ good (f s).lasting) :
    Interchangeable answers good (modify f : Run State ε Unit) (modify g) :=
  fun s t same hs => .ok rfl (h s t same hs).1 (h s t same hs).2

/-- What changes nothing that lasts corresponds to whatever else does so. -/
theorem corresponds_modify_of_lasting (hf : ∀ s, (f s).lasting = s.lasting)
    (hg : ∀ s, (g s).lasting = s.lasting) :
    Interchangeable answers good (modify f : Run State ε Unit) (modify g) := by
  refine corresponds_modify fun s t same hs => ?_
  rw [hf, hg]
  exact ⟨same, hs⟩

theorem corresponds_mark (place place' : Nat) (stage stage' : Stage) :
    Interchangeable answers good (mark place stage : Run State ε Unit) (mark place' stage') :=
  corresponds_modify_of_lasting (lasting_mark place stage) (lasting_mark place' stage')

theorem corresponds_note (n n' : Note) :
    Interchangeable answers good (note n : Run State ε Unit) (note n') :=
  corresponds_modify_of_lasting (lasting_write n) (lasting_write n')

theorem corresponds_alert (message : String) :
    Interchangeable answers good (alert message : Run State ε Unit) (alert message) :=
  corresponds_modify_of_lasting (lasting_display _) (lasting_display _)

/-- What lasts is all that is seen. -/
theorem sameLook_of_lasting (seen : Sight) (same : t.lasting = s.lasting) : SameLook seen s t where
  query := (congrArg State.query same :)
  value := (congrArg State.value? same :)
  file := (congrArg State.file? same :)
  input := (congrArg State.input? same :)
  store scope service _ := (congrArg (fun s => s.storeFor scope service) same :)

/-- **A run is a function of what lasts if its parts are.** -/
theorem corresponds_showing (answers : Answers) (good : State → Prop) (seen : Sight) :
    Showing seen (fun r => Interchangeable answers good r r : Property State) where
  pure _ := corresponds_pure rfl
  fail := corresponds_fail
  ask q := fun _ _ same hs => .ok rfl same hs
  bind hr hn := hr.bind fun a b h => by
    rw [← h]
    exact hn a
  attempt hr := hr.attempt
  mapError hr := hr.mapError _
  note n := corresponds_note n n
  get {ε α next} hn agree := by
    intro s t same hs
    have inner := hn s s t same hs
    rw [agree s t (sameLook_of_lasting seen same)] at inner
    show SameOutcome good Eq _ _
    rw [get_bind_apply, get_bind_apply, agree s t (sameLook_of_lasting seen same)]
    exact inner
  display d := corresponds_modify_of_lasting (lasting_display d) (lasting_display d)

/-- Runs that correspond come to the same outcome when they are finished. -/
theorem Corresponds.finish {ω : Type} {r r' : Run State ε α}
    (h : Interchangeable answers good r r') {environment : Task.Environment ω}
    (consistent : Consistent environment answers) (hs : good s.lasting) (world world' : ω) :
    ∃ outcome t t', ((r s).finish environment world).1 = some (outcome, t)
      ∧ ((r' s).finish environment world').1 = some (outcome, t') ∧ t'.lasting = t.lasting := by
  rw [Task.finish_eq_outcome consistent, Task.finish_eq_outcome consistent]
  have both := h s s rfl hs
  generalize (r s).outcome answers = x at both ⊢
  generalize (r' s).outcome answers = y at both ⊢
  cases both with
  | ok h same => exact ⟨_, _, _, rfl, by rw [h], same⟩
  | error same => exact ⟨_, _, _, rfl, rfl, same⟩

end Corresponds

/-! ## §4. Runs that change nothing that lasts. -/

section AmountsTo

variable {answers : Answers} {good : State → Prop} {c : State} {ε δ α β : Type}

/-- From wherever there lasts what lasts in `c`, the run comes to `x`, and that still lasts. -/
def AmountsTo (answers : Answers) (c : State) (r : Run State ε α) (x : Except ε α) : Prop :=
  ∀ s, s.lasting = c.lasting →
    ∃ t, (r s).outcome answers = some (x, t) ∧ t.lasting = c.lasting

/-- All that lasts is as it was. -/
def SameLasting (s t : State) : Prop := t.lasting = s.lasting

theorem sameLasting_noting : Noting SameLasting where
  refl _ := rfl
  trans h h' := Eq.trans h' h
  note n s := lasting_write n s

theorem AmountsTo.unique {r : Run State ε α} {x y : Except ε α} (h : AmountsTo answers c r x)
    (h' : AmountsTo answers c r y) : x = y := by
  obtain ⟨_, hx, _⟩ := h c rfl
  obtain ⟨_, hy, _⟩ := h' c rfl
  exact (Prod.mk.inj (Option.some.inj (hx.symm.trans hy))).1

theorem amountsTo_pure (a : α) : AmountsTo answers c (Pure.pure a : Run State ε α) (.ok a) :=
  fun s hs => ⟨s, rfl, hs⟩

theorem amountsTo_note (n : Note) : AmountsTo answers c (note n : Run State ε Unit) (.ok ()) :=
  fun s hs => ⟨Journal.write n s, rfl, hs⟩

theorem amountsTo_ask (q : Query) :
    AmountsTo answers c (ask q : Run State ε q.Answer) (.ok (answers q)) :=
  fun s hs => ⟨s, rfl, hs⟩

theorem amountsTo_notes (ns : List Note) :
    AmountsTo answers c (notes ns : Run State ε Unit) (.ok ()) := by
  intro s hs
  refine ⟨ns.foldl (fun s n => Journal.write n s) s, rfl, ?_⟩
  induction ns generalizing s with
  | nil => exact hs
  | cons n ns ih => exact ih (Journal.write n s) hs

/-- To look gives what lasts, if what follows depends on that only. -/
theorem amountsTo_get {next : State → Run State ε α} {x : Except ε α}
    (agree : ∀ s, s.lasting = c.lasting → next s = next c) (h : AmountsTo answers c (next c) x) :
    AmountsTo answers c (get >>= next) x := by
  intro s hs
  rw [get_bind_apply, agree s hs]
  exact h s hs

theorem AmountsTo.bind {r : Run State ε α} {next : α → Run State ε β} {a : α} {x : Except ε β}
    (h : AmountsTo answers c r (.ok a)) (hn : AmountsTo answers c (next a) x) :
    AmountsTo answers c (r >>= next) x := by
  intro s hs
  obtain ⟨t, ht, same⟩ := h s hs
  show ∃ u, ((r s).bind _).outcome answers = _ ∧ _
  rw [Task.outcome_bind, ht]
  exact hn t same

theorem AmountsTo.attempt {r : Run State ε α} {x : Except ε α} (h : AmountsTo answers c r x) :
    AmountsTo answers c (attempt r : Run State δ (Except ε α)) (.ok x) := by
  intro s hs
  obtain ⟨t, ht, same⟩ := h s hs
  refine ⟨t, ?_, same⟩
  show ((r s).bind _).outcome answers = _
  rw [Task.outcome_bind, ht]
  rfl

/-- **Interchangeable runs that change nothing that lasts amount to the same**, wherever each is
done. -/
theorem Corresponds.amountsTo {r r' : Run State ε α} (h : Interchangeable answers good r r')
    (keeps : r.Within SameLasting) (keeps' : r'.Within SameLasting) (hc : good c.lasting) :
    ∃ x, AmountsTo answers c r x ∧ AmountsTo answers c r' x := by
  -- from `c` both come to some outcome; from elsewhere each corresponds to the other from `c`
  have kept {r : Run State ε α} (keeps : r.Within SameLasting) {s t : State} {x : Except ε α}
      (hs : s.lasting = c.lasting) (ht : (r s).outcome answers = some (x, t)) :
      t.lasting = c.lasting :=
    (Task.ends_of_within sameLasting_noting.toChained (keeps s) (Task.ends_of_outcome ht)).trans hs
  have level (s t : State) (hs : s.lasting = c.lasting) (ht : t.lasting = c.lasting) :
      ∃ x s' t', (r s).outcome answers = some (x, s') ∧ (r' t).outcome answers = some (x, t') := by
    have both := h s t (ht.trans hs.symm) (hs ▸ hc)
    generalize (r s).outcome answers = x at both ⊢
    generalize (r' t).outcome answers = y at both ⊢
    cases both with
    | ok h => exact ⟨_, _, _, rfl, by rw [h]⟩
    | error => exact ⟨_, _, _, rfl, rfl⟩
  obtain ⟨x, s₀, t₀, hx, hx'⟩ := level c c rfl rfl
  refine ⟨x, ?_, ?_⟩
  · intro s hs
    obtain ⟨y, s', t', hy, hy'⟩ := level s c hs rfl
    obtain rfl := (Prod.mk.inj (Option.some.inj (hx'.symm.trans hy'))).1
    exact ⟨s', hy, kept keeps hs hy⟩
  · intro t ht
    obtain ⟨y, s', t', hy, hy'⟩ := level c t rfl ht
    obtain rfl := (Prod.mk.inj (Option.some.inj (hx.symm.trans hy))).1
    exact ⟨t', hy', kept keeps' ht hy'⟩

/-- Runs that amount to related values correspond. -/
theorem corresponds_of_amountsTo {ρ : α → β → Prop} {r : Run State ε α} {r' : Run State ε β}
    (h : ∀ c, good c.lasting → ∃ a b, ρ a b ∧ AmountsTo answers c r (.ok a)
      ∧ AmountsTo answers c r' (.ok b)) : Corresponds answers good ρ r r' := by
  intro s t same hs
  obtain ⟨a, b, hab, hr, hr'⟩ := h s hs
  obtain ⟨s', hs', last⟩ := hr s rfl
  obtain ⟨t', ht', last'⟩ := hr' t same
  rw [hs', ht']
  exact .ok hab (last'.trans last.symm) (last ▸ hs)

end AmountsTo

end Run

end Pageflow
