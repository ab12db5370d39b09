/-
  Pageflow.Proofs.Steps — runs of activities, step by step.

  Whatever a run of activities does to the state is done in steps of a few kinds: something is
  noted or shown, an activity reaches a stage, a result is stored, inputs are added, an activity
  is recorded.  A step that stands for a stage puts its mark on the trail; which marks are
  allowed says whose steps they are.

  Main definitions: `Step` and `Steps`.
  Main statements: `execute_within`, what is done by a run of an activity, `resultFor_within`,
  what is done before its result is stored, and `trail_steps`.
-/
import Mathlib.Logic.Relation
import Pageflow.Proofs.Composition
import Pageflow.Proofs.Noting

namespace Pageflow.Run

open Pageflow.Flow (Activity Orderly Strategy)

/-! ## §1. Steps. -/

/-- A step of a run whose marks are allowed. -/
inductive Step (flow : Flow) (allowed : Mark → Prop) : State → State → Prop
  | note (n : Note) (s : State) : Step flow allowed s (Journal.write n s)
  | display (d : Display) (s : State) : Step flow allowed s (s.display d)
  /-- An activity starts. -/
  | enter {place : Nat} {before : Inherited} (h : allowed ⟨place, .entered before⟩) (s : State) :
      Step flow allowed s (s.mark place (.entered before))
  /-- An activity that can run and whose requirements are met is let in. -/
  | letIn {place : Nat} {a : Activity} {s : State} (h : allowed ⟨place, .admitted⟩)
      (ha : flow.arena[place]? = some a) (active : a.isActive = true)
      (met : unmet? flow s a = none) : Step flow allowed s (s.mark place .admitted)
  /-- The strategy of an activity is called. -/
  | call {place : Nat} (h : allowed ⟨place, .called⟩) (s : State) :
      Step flow allowed s (s.mark place .called)
  /-- The result of an activity is known, and stored if it is to be stored. -/
  | settle {place : Nat} {a : Activity} {result : Json} (h : allowed ⟨place, .settled result⟩)
      (ha : flow.arena[place]? = some a) (s : State) :
      Step flow allowed s (s.settle place a result)
  /-- The inputs that a result describes are added to the service. -/
  | insert {place : Nat} {a : Activity} {result : Json} (ui : Document.Ui)
      (h : allowed ⟨place, .completed result⟩) (ha : flow.arena[place]? = some a)
      (dynamic : a.presentation.resultAsDynamicUi = true) (s : State) :
      Step flow allowed s (insertInputs a.service ui s)
  /-- An activity ends, and is recorded. -/
  | complete {place : Nat} {a : Activity} {result : Json} (h : allowed ⟨place, .completed result⟩)
      (ha : flow.arena[place]? = some a) (s : State) :
      Step flow allowed s (s.complete place a result)
  /-- An activity fails. -/
  | fail {place : Nat} (h : allowed ⟨place, .failed⟩) (s : State) :
      Step flow allowed s (s.mark place .failed)

/-- Any number of steps. -/
abbrev Steps (flow : Flow) (allowed : Mark → Prop) : State → State → Prop :=
  Relation.ReflTransGen (Step flow allowed)

variable {flow : Flow} {allowed : Mark → Prop}

theorem Step.mono {allowed' : Mark → Prop} (h : ∀ m, allowed m → allowed' m) {s t : State}
    (step : Step flow allowed s t) : Step flow allowed' s t := by
  cases step with
  | note n => exact .note n s
  | display d => exact .display d s
  | enter hm => exact .enter (h _ hm) s
  | letIn hm ha active met => exact .letIn (h _ hm) ha active met
  | call hm => exact .call (h _ hm) s
  | settle hm ha => exact .settle (h _ hm) ha s
  | insert ui hm ha dynamic => exact .insert ui (h _ hm) ha dynamic s
  | complete hm ha => exact .complete (h _ hm) ha s
  | fail hm => exact .fail (h _ hm) s

theorem steps_noting (flow : Flow) (allowed : Mark → Prop) : Noting (Steps flow allowed) where
  refl _ := .refl
  trans := Relation.ReflTransGen.trans
  note n s := .single (.note n s)

/-! ## §2. What takes steps. -/

variable {run : Executor} {place : Nat} {a : Activity} {ε : Type}

theorem steps_showing (flow : Flow) (allowed : Mark → Prop) :
    Showing (fun _ _ => True) (fun r => r.Within (Steps flow allowed) : Property State) where
  toReading := (steps_noting flow allowed).reading _
  display := fun d => within_modify fun s => .single (.display d s)

theorem alert_within (message : String) :
    (alert message : Run State ε Unit).Within (Steps flow allowed) :=
  alert_closed (steps_showing flow allowed) message

theorem gate_within (ha : flow.arena[place]? = some a) (active : a.isActive = true)
    (admitted : allowed ⟨place, .admitted⟩) : (gate flow place a).Within (Steps flow allowed) := by
  have chained := (steps_noting flow allowed).toChained
  apply within_get_bind
  intro s
  cases met : unmet? flow s a with
  | none => exact .single (.letIn admitted ha active met)
  | some message =>
    refine within_bind chained (alert_within _) (fun _ => ?_) s
    exact within_fail chained _

theorem parts_within (ha : flow.arena[place]? = some a) (own : ∀ stage, allowed ⟨place, stage⟩) :
    Parts flow (fun r => r.Within (Steps flow allowed) : Property State) place a where
  enter := fun _ => within_modify fun s => .single (.enter (own _) s)
  gate := fun active => gate_within ha active (own _)
  call := fun _ => within_modify fun s => .single (.call (own _) s)
  settle := fun result => within_modify fun s => .single (.settle (own (.settled result)) ha s)
  insert := fun dynamic ui =>
    within_modify fun s => .single (.insert ui (own (.completed .null)) ha dynamic s)
  complete := fun result =>
    within_modify fun s => .single (.complete (own (.completed result)) ha s)
  fail := within_modify fun s => .single (.fail (own _) s)

/-- **Up to its result an activity only is let in, called, and has other activities run.** -/
theorem resultFor_within (ha : flow.arena[place]? = some a) {strategy : Strategy}
    (hs : a.strategy = some strategy) (admitted : allowed ⟨place, .admitted⟩)
    (called : allowed ⟨place, .called⟩)
    (makers : ∀ k ∈ a.makers, (run k {} false).Within (Steps flow allowed))
    (target : ∀ k before, a.target? = some k → (run k before false).Within (Steps flow allowed))
    (before : Inherited) :
    (resultFor flow run place a strategy before).Within (Steps flow allowed) := by
  have active : a.isActive = true := by rw [Activity.isActive, hs, Option.isSome_some]
  exact resultFor_closed (steps_showing flow allowed) (fun _ _ => trivial) hs
    (gate_within ha active admitted) (fun _ => within_modify fun s => .single (.call called s))
    makers target before

theorem handDown_within (ha : flow.arena[place]? = some a) {result : Json} {shows : Bool}
    (completed : allowed ⟨place, .completed result⟩)
    (subs : ∀ k ∈ a.subActivities, ∀ before, (run k before shows).Within (Steps flow allowed)) :
    (handDown flow run place a result shows).Within (Steps flow allowed) := by
  refine handDown_closed (steps_showing flow allowed) ?_ ?_ subs
  · intro dynamic ui
    exact within_modify fun s => .single (.insert ui completed ha dynamic s)
  · exact within_modify fun s => .single (.complete completed ha s)

/-- **A run of an activity takes the steps of the activity and of those that it calls**, and of
no others.  It comes to an end, whatever the answers are and whatever happens while it waits. -/
theorem execute_within (ho : Orderly flow) {among : Nat → Prop}
    (closed : ∀ h k, among h → flow.Calls h k → among k)
    (own : ∀ place stage, among place → allowed ⟨place, stage⟩) :
    ∀ place, place < flow.arena.length → among place → ∀ before shows,
      (execute flow place before shows).Within (Steps flow allowed) :=
  execute_closed ho (steps_showing flow allowed) closed fun place _ hp ha =>
    ⟨fun _ _ => trivial, parts_within ha fun stage => own place stage hp⟩

/-- An activity that requires nothing is let in. -/
theorem gate_of_requiring_nothing (h : a.required = []) :
    gate flow place a = mark place .admitted := by
  funext s
  have met : unmet? flow s a = none := by
    rw [unmet?, h]
    rfl
  unfold gate
  rw [get_bind_apply, met]

/-- Without sub-activities and with nothing to show only the end of an activity is left. -/
theorem handDown_of_bare (subs : a.subActivities = []) (shown : a.presentation = {})
    (result : Json) (shows : Bool) :
    handDown flow run place a result shows = conclude place a result shows := by
  unfold handDown
  rw [subs, present, shown]
  rfl

/-! ## §3. The trail of a run. -/

@[simp] theorem trail_modifyStore (s : State) (scope : Document.StoreScope) (service : String)
    (f : Store → Store) : (s.modifyStore scope service f).trail = s.trail := by
  cases scope <;> simp [State.modifyStore]

theorem trail_settle (place : Nat) (a : Activity) (result : Json) (s : State) :
    (s.settle place a result).trail = s.trail ++ [⟨place, .settled result⟩] := by
  unfold State.settle State.storeResult
  cases a.storeResult <;> cases a.isReference <;> simp

theorem trail_complete (place : Nat) (a : Activity) (result : Json) (s : State) :
    (s.complete place a result).trail = s.trail ++ [⟨place, .completed result⟩] := by
  unfold State.complete
  cases a.isGenerated <;> simp [State.recordExecuted]

theorem trail_step {s t : State} (step : Step flow allowed s t) :
    ∃ new, t.trail = s.trail ++ new ∧ ∀ m ∈ new, allowed m := by
  have nothing : ∀ {t : State}, t.trail = s.trail →
      ∃ new, t.trail = s.trail ++ new ∧ ∀ m ∈ new, allowed m := by
    intro t ht
    exact ⟨[], by rw [ht, List.append_nil], by simp⟩
  have one : ∀ {t : State} {m : Mark}, allowed m → t.trail = s.trail ++ [m] →
      ∃ new, t.trail = s.trail ++ new ∧ ∀ m ∈ new, allowed m := by
    intro t m hm ht
    exact ⟨[m], ht, by simpa using hm⟩
  cases step with
  | note n => exact nothing rfl
  | display d => exact nothing rfl
  | enter h => exact one h rfl
  | letIn h _ _ _ => exact one h rfl
  | call h => exact one h rfl
  | settle h _ => exact one h (trail_settle ..)
  | insert ui _ _ _ => exact nothing (State.trail_modifyService s _ _)
  | complete h _ => exact one h (trail_complete ..)
  | fail h => exact one h rfl

/-- Steps only add to the trail, and only marks that are allowed. -/
theorem trail_steps {s t : State} (steps : Steps flow allowed s t) :
    ∃ new, t.trail = s.trail ++ new ∧ ∀ m ∈ new, allowed m := by
  induction steps with
  | refl => exact ⟨[], (List.append_nil _).symm, by simp⟩
  | tail _ step ih =>
    obtain ⟨new, hnew, hallowed⟩ := ih
    obtain ⟨more, hmore, hallowed'⟩ := trail_step step
    refine ⟨new ++ more, ?_, List.forall_mem_append.mpr ⟨hallowed, hallowed'⟩⟩
    rw [hmore, hnew, List.append_assoc]

/-! ## §4. Undisturbed runs. -/

section Ends

variable {s s' : State} {before : Inherited} {shows : Bool}

theorem ends_traced_ok {r : Run State ActivityFailure Json} {result : Json} :
    (traced place before r s).Ends (.ok result) s' ↔
      (r (s.mark place (.entered before))).Ends (.ok result) s' := by
  constructor
  · intro h
    obtain ⟨_, _, ⟨_, rfl⟩, h⟩ := ends_bind_ok.mp h
    obtain ⟨outcome, t, hr, h⟩ := ends_bind_ok.mp h
    rw [ends_attempt_ok] at hr
    cases outcome with
    | ok value =>
      obtain ⟨hv, rfl⟩ := h
      obtain rfl := Except.ok.inj hv
      exact hr
    | error e =>
      obtain ⟨_, _, _, h, _⟩ := ends_bind_ok.mp h
      contradiction
  · intro hr
    refine ends_bind_ok.mpr ⟨(), _, ⟨rfl, rfl⟩, ends_bind_ok.mpr ⟨.ok result, s', ?_, rfl, rfl⟩⟩
    exact ends_attempt_ok.mpr hr

/-- A run that fails has its failure on the trail. -/
theorem ends_traced_error {r : Run State ActivityFailure Json} {e : ActivityFailure}
    (h : (traced place before r s).Ends (.error e) s') :
    ∃ t, (r (s.mark place (.entered before))).Ends (.error e) t ∧ t.mark place .failed = s' := by
  -- neither to put a mark nor to attempt a run can fail
  rcases ends_bind_error.mp h with ⟨h, _⟩ | ⟨_, _, ⟨_, rfl⟩, h⟩
  · contradiction
  rcases ends_bind_error.mp h with h | ⟨outcome, t, hr, h⟩
  · exact absurd h not_ends_attempt_error
  rw [ends_attempt_ok] at hr
  cases outcome with
  | ok value => exact absurd h.1 (by simp)
  | error e' =>
    rcases ends_bind_error.mp h with ⟨h, _⟩ | ⟨_, _, ⟨_, rfl⟩, he, rfl⟩
    · contradiction
    obtain rfl := Except.error.inj he
    exact ⟨t, hr, rfl⟩

/-- A run that ends well finds out its result, stores it and hands it down. -/
theorem ends_runActivity_ok {result : Json}
    (h : (runActivity flow run place a before shows s).Ends (.ok result) s') :
    ∃ strategy t, a.strategy = some strategy
      ∧ (resultFor flow run place a strategy before s).Ends (.ok result) t
      ∧ (handDown flow run place a result shows (t.settle place a result)).Ends (.ok ()) s' := by
  unfold runActivity at h
  cases hs : a.strategy with
  | none =>
    rw [hs] at h
    exact absurd h.1 (by simp)
  | some strategy =>
    rw [hs] at h
    obtain ⟨value, t, hr, h⟩ := ends_bind_ok.mp h
    obtain ⟨_, t', hd, hv, ht'⟩ := ends_bind_ok.mp h
    obtain rfl := Except.ok.inj hv
    subst ht'
    exact ⟨strategy, t, rfl, hr, hd⟩

/-- A run that fails is inactive, or fails to find out its result, or fails to hand it down. -/
theorem ends_runActivity_error {e : ActivityFailure}
    (h : (runActivity flow run place a before shows s).Ends (.error e) s') :
    (a.strategy = none ∧ s = s') ∨ ∃ strategy, a.strategy = some strategy ∧
      ((resultFor flow run place a strategy before s).Ends (.error e) s'
        ∨ ∃ result t, (resultFor flow run place a strategy before s).Ends (.ok result) t
          ∧ (handDown flow run place a result shows (t.settle place a result)).Ends
            (.error e) s') := by
  unfold runActivity at h
  cases hs : a.strategy with
  | none =>
    rw [hs] at h
    exact .inl ⟨rfl, h.2⟩
  | some strategy =>
    rw [hs] at h
    refine .inr ⟨strategy, rfl, ?_⟩
    rcases ends_bind_error.mp h with hr | ⟨result, t, hr, h⟩
    · exact .inl hr
    rcases ends_bind_error.mp h with h | ⟨_, _, _, h, _⟩
    · exact .inr ⟨result, t, hr, h⟩
    · contradiction

end Ends

end Pageflow.Run
