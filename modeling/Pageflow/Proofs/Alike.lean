/-
  Pageflow.Proofs.Alike — runs that cannot tell two states apart.

  Two tasks are alike if they ask the same questions and give the same value, in states that are
  related, as long as they are resumed with the same answers in related states.  Whatever happens
  while they wait does not set them apart if it keeps the states related.  A run is blind to a
  relation if it is alike from related states.  To be blind is a closed property of runs; so if
  related states look the same, and what a run does to them keeps them related, the runs of
  activities are blind, and so is what a host does with them.

  Main definitions: `Task.Alike`, `Task.asked`, `Blind`, `Unread` and `Unseen`.
  Main statements: `Alike.finish` and `Alike.asked`, `execute_blind` and `hostParts_blind`.
-/
import Pageflow.Proofs.Composition
import Pageflow.Proofs.Guarded

namespace Pageflow

/-! ## §1. Tasks. -/

namespace Task

variable {σ α β ω : Type} {R : σ → σ → Prop}

/-- The tasks go on in the same way, in states that are related. -/
inductive Alike (R : σ → σ → Prop) : Task σ α → Task σ α → Prop
  | done (a : α) {s t : σ} (h : R s t) : Alike R (.done a s) (.done a t)
  | endless : Alike R .endless .endless
  | ask (q : Query) {s t : σ} {resume resume' : q.Answer → σ → Task σ α} (h : R s t)
      (rest : ∀ answer s t, R s t → Alike R (resume answer s) (resume' answer t)) :
      Alike R (.ask q s resume) (.ask q t resume')

theorem Alike.bind {next next' : α → σ → Task σ β}
    (hn : ∀ a s t, R s t → (next a s).Alike R (next' a t)) {x y : Task σ α} (h : x.Alike R y) :
    (x.bind next).Alike R (y.bind next') := by
  induction h with
  | done a h => exact hn a _ _ h
  | endless => exact .endless
  | ask q h _ ih => exact .ask q h fun answer s t h => ih answer s t h

/-- **Tasks that are alike end alike**, whoever answers. -/
theorem Alike.finish (environment : Environment ω) {x y : Task σ α} (h : x.Alike R y) {a : α}
    {s : σ} {world world' : ω}
    (hx : x.finish environment world = (some (a, s), world')) :
    ∃ t, R s t ∧ y.finish environment world = (some (a, t), world') := by
  induction h generalizing world with
  | done b h =>
    obtain ⟨hb, rfl⟩ := Prod.mk.inj hx
    obtain ⟨rfl, rfl⟩ := Prod.mk.inj (Option.some.inj hb)
    exact ⟨_, h, rfl⟩
  | endless => simp [Task.finish] at hx
  | ask q h _ ih => exact ih _ _ _ h hx

/-- The questions that a task asks, nothing else happening while it waits. -/
def asked (environment : Environment ω) : Task σ α → ω → List Query
  | .done _ _, _ => []
  | .endless, _ => []
  | .ask q s resume, world =>
    let (answer, world) := environment q world
    q :: (resume answer s).asked environment world

/-- **Tasks that are alike ask the same questions**, whoever answers. -/
theorem Alike.asked (environment : Environment ω) {x y : Task σ α} (h : x.Alike R y) :
    ∀ world, x.asked environment world = y.asked environment world := by
  induction h with
  | done a h => exact fun _ => rfl
  | endless => exact fun _ => rfl
  | ask q h _ ih =>
    intro world
    exact congrArg (q :: ·) (ih _ _ _ h _)

/-- What is done at the end asks nothing more. -/
theorem asked_bind_done (environment : Environment ω) (f : α → σ → β) (g : α → σ → σ) :
    ∀ (task : Task σ α) (world : ω),
      (task.bind fun a s => .done (f a s) (g a s)).asked environment world
        = task.asked environment world
  | .done _ _, _ => rfl
  | .endless, _ => rfl
  | .ask q _ resume, _ =>
    congrArg (q :: ·) (asked_bind_done environment f g (resume _ _) _)

end Task

/-! ## §2. Runs. -/

namespace Run

/-- The run cannot tell related states apart. -/
def Blind {σ ε α : Type} (R : σ → σ → Prop) (r : Run σ ε α) : Prop :=
  ∀ s t, R s t → (r s).Alike R (r t)

section Blind

variable {σ : Type} {R : σ → σ → Prop}

theorem blind_modify {ε : Type} {f : σ → σ} (h : ∀ s t, R s t → R (f s) (f t)) :
    Blind R (modify f : Run σ ε Unit) :=
  fun s t hst => .done _ (h s t hst)

/-- **To be blind is a closed property of runs.** -/
theorem blind_closed (R : σ → σ → Prop) : Closed (fun r => Blind R r : Property σ) where
  pure a := fun _ _ h => Task.Alike.done (Except.ok a) h
  fail e := fun _ _ h => Task.Alike.done (Except.error e) h
  ask q := fun _ _ h => .ask q h fun answer _ _ h => Task.Alike.done (Except.ok answer) h
  bind hr hn := by
    intro s t h
    refine (hr s t h).bind ?_
    intro result s t h
    cases result with
    | ok a => exact hn a s t h
    | error e => exact Task.Alike.done (Except.error e) h
  attempt hr := fun s t h => (hr s t h).bind fun result _ _ h => .done (Except.ok result) h
  mapError hr := fun s t h => (hr s t h).bind fun result _ _ h => .done (result.mapError _) h

end Blind

open Pageflow.Flow (Activity Orderly Sight)

/-! ## §3. What the runs of activities cannot see. -/

/-- The related states look the same as far as their stores are seen, and what the run of an
activity does to them keeps them related. -/
structure Unread (seen : Sight) (R : State → State → Prop) : Prop where
  look : ∀ {s t}, R s t → SameLook seen s t
  executed : ∀ {s t}, R s t → t.executed = s.executed
  note : ∀ n {s t}, R s t → R (Journal.write n s) (Journal.write n t)
  display : ∀ d {s t}, R s t → R (s.display d) (t.display d)
  mark : ∀ place stage {s t}, R s t → R (s.mark place stage) (t.mark place stage)
  settle : ∀ place (a : Activity) result {s t}, R s t →
    R (s.settle place a result) (t.settle place a result)
  insert : ∀ service ui {s t}, R s t → R (insertInputs service ui s) (insertInputs service ui t)
  complete : ∀ place (a : Activity) result {s t}, R s t →
    R (s.complete place a result) (t.complete place a result)

/-- In the related states the same services run, and what a host does to them around its runs keeps
them related too. -/
structure Unseen (seen : Sight) (R : State → State → Prop) : Prop extends
    Unread seen R where
  running : ∀ {s t}, R s t → t.running? = s.running?
  failed : ∀ e {s t}, R s t → R (s.recordFailed e) (t.recordFailed e)
  occupy : ∀ service name {s t}, R s t → R (s.occupy service name) (t.occupy service name)
  release : ∀ service {s t}, R s t → R (s.release service) (t.release service)

variable {seen : Sight} {R : State → State → Prop} {flow : Flow} {place : Nat}
  {a : Activity} {ε : Type}

theorem Unread.showing (h : Unread seen R) :
    Showing seen (fun r => Blind R r : Property State) where
  toClosed := blind_closed R
  note n := blind_modify fun _ _ hst => h.note n hst
  get hn agree := by
    intro s t hst
    have same := hn s s t hst
    rw [agree s t (h.look hst)] at same
    -- either state leads to the same run
    show Task.Alike R _ _
    rw [get_bind_apply, get_bind_apply, agree s t (h.look hst)]
    exact same
  display d := blind_modify fun _ _ hst => h.display d hst

theorem gate_blind (h : Unread seen R) : Blind R (gate flow place a) := by
  have closed := blind_closed R
  intro s t hst
  have unmet : unmet? flow t a = unmet? flow s a := by
    unfold unmet? State.isExecuted
    rw [h.executed hst]
  unfold gate
  rw [get_bind_apply, get_bind_apply, unmet]
  cases unmet? flow s a with
  | none => exact .done _ (h.mark _ _ hst)
  | some message =>
    exact closed.bind (alert_closed h.showing _) (fun _ => closed.fail _) s t hst

theorem parts_blind (h : Unread seen R) :
    Parts flow (fun r => Blind R r : Property State) place a where
  enter _ := blind_modify fun _ _ hst => h.mark _ _ hst
  gate _ := gate_blind h
  call _ := blind_modify fun _ _ hst => h.mark _ _ hst
  settle _ := blind_modify fun _ _ hst => h.settle _ _ _ hst
  insert _ _ := blind_modify fun _ _ hst => h.insert _ _ hst
  complete _ := blind_modify fun _ _ hst => h.complete _ _ _ hst
  fail := blind_modify fun _ _ hst => h.mark _ _ hst

/-- **The run of an activity is blind to what none of the activities reads** that it may run. -/
theorem execute_blind (ho : Orderly flow) (h : Unread seen R) {among : Nat → Prop}
    (closed : ∀ h k, among h → flow.Calls h k → among k)
    (sees : ∀ place a, among place → flow.arena[place]? = some a → a.Sees seen)
    (hlt : place < flow.arena.length) (hp : among place) (before : Inherited) (shows : Bool) :
    Blind R (execute flow place before shows) := by
  refine execute_closed ho h.showing closed ?_ place hlt hp before shows
  intro place a hp ha
  exact ⟨sees place a hp ha, parts_blind h⟩

/-! ## §4. What a host does with activities. -/

theorem start_blind (h : Unseen seen R) (service name : String) :
    Blind R (start service name) := by
  intro s t hst
  have running := congrFun (h.running hst) service
  cases hs : s.running? service with
  | none =>
    rw [start_of_free hs, start_of_free (running.trans hs)]
    exact .done _ (h.occupy service name hst)
  | some other =>
    rw [start_of_busy hs, start_of_busy (running.trans hs)]
    exact .done _ hst

/-- **What a host does is blind to what no service sees.** -/
theorem hostParts_blind (ho : Orderly flow) (h : Unseen (fun _ _ => True) R) :
    HostParts flow (fun r => Blind R r : Property State) where
  start service name := start_blind h service name
  release service := blind_modify fun _ _ hst => h.release service hst
  failed e := blind_modify fun _ _ hst => h.failed e hst
  call _ := blind_modify fun _ _ hst => h.mark _ _ hst
  execute _ _ ha := execute_blind ho h.toUnread (fun _ _ _ _ => trivial)
    (fun _ _ _ _ _ _ => trivial)
    (List.getElem?_eq_some_iff.mp ha).1 trivial

end Run

end Pageflow
