/-
  Pageflow.Proofs.Untouched — activities that fail leave no trace.

  Before its result is stored an activity runs others only to make values.  These store and show
  nothing, have no sub-activities and are not recorded; nor are those that make values for them.
  So whatever makes an activity fail by then, the stores, the inputs, the log of executed
  activities and the events are as they were.  One that is inactive, or that requires something
  that has not run, fails at once, without asking for anything.

  Main definitions: `Untouched` and `Early`.
  Main statements: `resultFor_untouched` and `failure_leaves_no_trace`.
-/
import Pageflow.Proofs.Requirements

namespace Pageflow.Run

open Pageflow.Flow (Activity IsBuilt IsMaker Materials Orderly Strategy)

/-! ## §1. What has not changed. -/

/-- The stores, the inputs, the log of executed activities and the events are as they were. -/
structure Untouched (s t : State) : Prop where
  /-- The stores and inputs of the services, and what they run. -/
  services : t.services = s.services
  /-- The store and the inputs of the process itself. -/
  process : t.process = s.process
  scratch : t.scratch = s.scratch
  executed : t.executed = s.executed
  events : t.events = s.events

theorem untouched_chained : Task.Chained Untouched where
  refl _ := ⟨rfl, rfl, rfl, rfl, rfl⟩
  trans h h' :=
    { services := h'.services.trans h.services
      process := h'.process.trans h.process
      scratch := h'.scratch.trans h.scratch
      executed := h'.executed.trans h.executed
      events := h'.events.trans h.events }

@[simp] theorem untouched_mark (s : State) (place : Nat) (stage : Stage) :
    Untouched s (s.mark place stage) :=
  ⟨rfl, rfl, rfl, rfl, rfl⟩

@[simp] theorem untouched_display (s : State) (d : Display) : Untouched s (s.display d) :=
  ⟨rfl, rfl, rfl, rfl, rfl⟩

/-- What happens to the trail before and after does not count. -/
theorem Untouched.between_marks {s t : State} {place k : Nat} {stage stage' : Stage}
    (h : Untouched (s.mark place stage) t) : Untouched s (t.mark k stage') :=
  untouched_chained.trans (untouched_mark s place stage)
    (untouched_chained.trans h (untouched_mark t k stage'))

/-! ## §2. What makers run. -/

/-- The activity at this place makes a value. -/
def MakerAt (flow : Flow) (place : Nat) : Prop :=
  ∃ b, flow.arena[place]? = some b ∧ IsMaker b

variable {flow : Flow} {place : Nat} {a : Activity} {s t : State}

theorem makerAt_of_mem_makers (ho : Orderly flow) (ha : flow.arena[place]? = some a) {k : Nat}
    (hk : k ∈ a.makers) : MakerAt flow k := by
  obtain ⟨_, b, hb, maker, _⟩ := (ho.placed place a ha).maker k hk
  exact ⟨b, hb, maker⟩

/-- A maker calls makers only. -/
theorem makerAt_of_calls (ho : Orderly flow) {h k : Nat} (hm : MakerAt flow h)
    (hc : flow.Calls h k) : MakerAt flow k := by
  obtain ⟨b, hb, maker⟩ := hm
  obtain ⟨b', hb', hk⟩ := hc
  obtain rfl := Option.some.inj (hb.symm.trans hb')
  rcases Activity.mem_callees.mp hk with hk | hk | hk
  · exact makerAt_of_mem_makers ho hb hk
  · rw [Activity.target?_of_not_isReference maker.isReference] at hk
    contradiction
  · rw [maker.subActivities] at hk
    contradiction

/-- A run of a maker takes the steps of makers. -/
theorem maker_within (ho : Orderly flow) (ha : flow.arena[place]? = some a) {k : Nat}
    (hk : k ∈ a.makers) {allowed : Mark → Prop} (h : ∀ m, MakerAt flow m.place → allowed m) :
    (execute flow k {} false).Within (Steps flow allowed) := by
  have maker := makerAt_of_mem_makers ho ha hk
  have hlt : k < flow.arena.length := by
    obtain ⟨b, hb, _⟩ := maker
    exact (List.getElem?_eq_some_iff.mp hb).1
  exact execute_within ho (fun _ _ => makerAt_of_calls ho) (fun k stage => h ⟨k, stage⟩) k hlt maker
    {} false

/-! ## §3. Before the result is stored. -/

/-- A mark that the activity at this place may put before its result is stored, or a maker. -/
def Early (flow : Flow) (place : Nat) (m : Mark) : Prop :=
  MakerAt flow m.place ∨ m.place = place ∧ (m.stage = .admitted ∨ m.stage = .called)

/-- Whatever stores or shows a result or ends well is a maker. -/
theorem Early.isMaker {k : Nat} {stage : Stage} {b : Activity} (h : Early flow place ⟨k, stage⟩)
    (hadmitted : stage ≠ .admitted) (hcalled : stage ≠ .called)
    (hb : flow.arena[k]? = some b) : IsMaker b := by
  rcases h with ⟨b', hb', maker⟩ | ⟨_, hs | hs⟩
  · obtain rfl := Option.some.inj (hb.symm.trans hb')
    exact maker
  · exact absurd hs hadmitted
  · exact absurd hs hcalled

theorem untouched_step (step : Step flow (Early flow place) s t) : Untouched s t := by
  -- whoever settles, inserts or completes is a maker, and a maker has nothing to do there
  cases step with
  | @settle k b result h hb _ =>
    have maker := h.isMaker (by simp) (by simp) hb
    have nothing : s.storeResult b result = s := by rw [State.storeResult, maker.storeResult]
    rw [State.settle, nothing]
    exact untouched_mark ..
  | @insert k b result ui h hb dynamic _ =>
    have maker := h.isMaker (by simp) (by simp) hb
    rw [maker.presentation] at dynamic
    contradiction
  | @complete k b result h hb _ =>
    have maker := h.isMaker (by simp) (by simp) hb
    rw [State.complete, maker.isGenerated]
    exact untouched_mark ..
  | _ => exact ⟨rfl, rfl, rfl, rfl, rfl⟩

theorem untouched_steps (steps : Steps flow (Early flow place) s t) : Untouched s t := by
  induction steps with
  | refl => exact untouched_chained.refl s
  | tail _ step ih => exact untouched_chained.trans ih (untouched_step step)

variable {strategy : Strategy}

theorem resultFor_early (ho : Orderly flow) (ha : flow.arena[place]? = some a)
    (hr : a.isReference = false) (hs : a.strategy = some strategy) (before : Inherited) :
    (resultFor flow (execute flow) place a strategy before).Within
      (Steps flow (Early flow place)) := by
  refine resultFor_within ha hs (.inr ⟨rfl, .inl rfl⟩) (.inr ⟨rfl, .inr rfl⟩) ?_ ?_ before
  · intro k hk
    exact maker_within ho ha hk fun _ => .inl
  · intro k _ hk
    rw [Activity.target?_of_not_isReference hr] at hk
    contradiction

/-- **Until its result is stored an activity changes nothing**, whatever happens while it waits. -/
theorem resultFor_untouched (ho : Orderly flow) (ha : flow.arena[place]? = some a)
    (hr : a.isReference = false) (hs : a.strategy = some strategy) (before : Inherited) :
    (resultFor flow (execute flow) place a strategy before).Within Untouched := by
  intro s
  refine (resultFor_early ho ha hr hs before s).mono ?_
  intro s t
  exact untouched_steps

/-! ## §4. Failing at once. -/

variable {before : Inherited} {shows : Bool}

theorem traced_of_done_error {r : Run State ActivityFailure Json} {e : ActivityFailure}
    (h : r (s.mark place (.entered before)) = .done (.error e) t) :
    traced place before r s = .done (.error e) (t.mark place .failed) := by
  show ((r (s.mark place (.entered before))).bind _).bind _ = _
  rw [h]
  rfl

theorem gate_of_unmet {message : String} (h : unmet? flow s a = some message) :
    gate flow place a s = .done (.error (failureOf flow a .requirements message))
      (s.display (.alert (a.title ++ ": failed: " ++ message))) := by
  rw [gate, get_bind_apply, h]
  rfl

/-- An activity that is inactive or not let in fails at once. -/
theorem runActivity_of_refused {run : Executor}
    (h : a.isActive = false ∨ unmet? flow s a ≠ none) :
    ∃ e t, runActivity flow run place a before shows s = .done (.error e) t
      ∧ t.trail = s.trail ∧ Untouched s t := by
  unfold runActivity
  cases hs : a.strategy with
  | none => exact ⟨_, s, rfl, rfl, untouched_chained.refl s⟩
  | some strategy =>
    rcases h with h | h
    · rw [Activity.isActive, hs] at h
      contradiction
    obtain ⟨message, hm⟩ := Option.ne_none_iff_exists'.mp h
    have refused : resultFor flow run place a strategy before s = .done
        (.error (failureOf flow a .requirements message))
        (s.display (.alert (a.title ++ ": failed: " ++ message))) :=
      bind_of_done_error (gate_of_unmet hm)
    exact ⟨_, _, bind_of_done_error refused, rfl, untouched_display ..⟩

/-! ## §5. Failures. -/

theorem settled_mem_of_handDown (ho : Orderly flow) (ha : flow.arena[place]? = some a)
    {result : Json} {outcome : Except ActivityFailure Unit}
    (h : (handDown flow (execute flow) place a result shows (s.settle place a result)).Ends
      outcome t) :
    ∃ more, t.trail = s.trail ++ ⟨place, .settled result⟩ :: more := by
  have within : (handDown flow (execute flow) place a result shows).Within
      (Steps flow fun _ => True) := by
    refine handDown_within ha trivial ?_
    intro k hk before
    obtain ⟨_, b, hb, _⟩ := (ho.placed place a ha).sub k hk
    exact execute_within ho (fun _ _ _ _ => trivial) (fun _ _ _ => trivial) k
      (List.getElem?_eq_some_iff.mp hb).1 trivial before shows
  have steps := Task.ends_of_within (steps_noting flow _).toChained (within _) h
  obtain ⟨more, hmore, _⟩ := trail_steps steps
  exact ⟨more, by rw [hmore, trail_settle, List.append_assoc, List.singleton_append]⟩

/-- Neither the activity itself nor a maker is a sub-activity. -/
theorem not_mem_subActivities (ho : Orderly flow) (ha : flow.arena[place]? = some a) {k : Nat}
    (h : MakerAt flow k ∨ k = place) : k ∉ a.subActivities := by
  intro hk
  -- a sub-activity is declared and stands behind
  obtain ⟨hlt, b, hb, declared, _⟩ := (ho.placed place a ha).sub k hk
  rcases h with ⟨b', hb', maker⟩ | rfl
  · obtain rfl := Option.some.inj (hb.symm.trans hb')
    exact Bool.noConfusion (declared.isGenerated.symm.trans maker.isGenerated)
  · exact absurd hlt (Nat.lt_irrefl _)

/-- A run that fails has stored its result, or has changed nothing and started only makers. -/
theorem early_of_ends_error (ho : Orderly flow) (ha : flow.arena[place]? = some a)
    (hr : a.isReference = false) {e : ActivityFailure}
    (hends : (runActivity flow (execute flow) place a before shows s).Ends (.error e) t) :
    ∃ inner, t.trail = s.trail ++ inner ∧ ((∃ result, ⟨place, .settled result⟩ ∈ inner)
      ∨ Untouched s t ∧ ∀ m ∈ inner, Early flow place m) := by
  have chained := (steps_noting flow (Early flow place)).toChained
  rcases ends_runActivity_error hends with
    ⟨_, rfl⟩ | ⟨strategy, hs, hfor | ⟨result, u, hfor, hdown⟩⟩
  · exact ⟨[], (List.append_nil _).symm, .inr ⟨untouched_chained.refl s, by simp⟩⟩
  · have steps := Task.ends_of_within chained (resultFor_early ho ha hr hs before s) hfor
    obtain ⟨inner, hinner, early⟩ := trail_steps steps
    exact ⟨inner, hinner, .inr ⟨untouched_steps steps, early⟩⟩
  · have steps := Task.ends_of_within chained (resultFor_early ho ha hr hs before s) hfor
    obtain ⟨first, hfirst, _⟩ := trail_steps steps
    obtain ⟨more, hmore⟩ := settled_mem_of_handDown ho ha hdown
    rw [hfirst, List.append_assoc] at hmore
    exact ⟨_, hmore, .inl ⟨result, List.mem_append_right _ List.mem_cons_self⟩⟩

/-- A run that fails without having stored its result changes nothing, and starts only makers. -/
theorem untouched_of_ends_error (ho : Orderly flow) (ha : flow.arena[place]? = some a)
    (hr : a.isReference = false) {e : ActivityFailure} {new : List Mark}
    (hends : (execute flow place before shows s).Ends (.error e) t)
    (hnew : t.trail = s.trail ++ new) (hsettled : ∀ result, ⟨place, .settled result⟩ ∉ new) :
    Untouched s t ∧ ∀ m ∈ new, MakerAt flow m.place ∨ m.place = place := by
  rw [execute_eq ho ha] at hends
  obtain ⟨u, hrun, rfl⟩ := ends_traced_error hends
  obtain ⟨inner, hinner, h⟩ := early_of_ends_error ho ha hr hrun
  rw [State.trail_mark, hinner, State.trail_mark, List.append_assoc, List.append_assoc] at hnew
  obtain rfl := List.append_cancel_left hnew
  rcases h with ⟨result, h⟩ | ⟨untouched, early⟩
  · refine absurd ?_ (hsettled result)
    exact List.mem_append_right _ (List.mem_append_left _ h)
  refine ⟨untouched.between_marks, ?_⟩
  intro m hm
  simp only [List.mem_append, List.mem_singleton] at hm
  rcases hm with rfl | hm | rfl
  · exact .inr rfl
  · exact (early m hm).imp_right And.left
  · exact .inr rfl

/-- A run that is refused fails before it asks for anything or starts another one. -/
theorem execute_of_refused (ho : Orderly flow) (ha : flow.arena[place]? = some a)
    (before : Inherited) (shows : Bool) (h : a.isActive = false ∨ unmet? flow s a ≠ none) :
    ∃ e t, execute flow place before shows s = .done (.error e) t
      ∧ t.trail = s.trail ++ [⟨place, .entered before⟩, ⟨place, .failed⟩] ∧ Untouched s t := by
  rw [execute_eq ho ha]
  -- that the activity starts does not change what has run
  have h' : a.isActive = false ∨ unmet? flow (s.mark place (.entered before)) a ≠ none := h
  obtain ⟨e, t, ht, trail, untouched⟩ := runActivity_of_refused h'
  refine ⟨e, _, traced_of_done_error ht, ?_, untouched.between_marks⟩
  rw [State.trail_mark, trail, State.trail_mark, List.append_assoc]
  rfl

variable {m : Materials} {page : Document.Page} {process : Document.Process}

/-- **Activities that fail leave no trace.**  If an activity of a built flow that is no reference
fails, and its result has not been stored, nothing has changed, and only makers of values were
started, none of its sub-activities.  If it is inactive or not let in, it fails at once: nothing
is asked for, and no other activity starts. -/
theorem failure_leaves_no_trace (hb : IsBuilt m page process flow)
    (ha : flow.arena[place]? = some a) (hr : a.isReference = false) (before : Inherited)
    (shows : Bool) (s : State) :
    (∀ e t new, (execute flow place before shows s).Ends (.error e) t →
      t.trail = s.trail ++ new → (∀ result, ⟨place, .settled result⟩ ∉ new) →
      Untouched s t ∧ ∀ mark ∈ new, mark.place ∉ a.subActivities ∧
        (mark.place = place
          ∨ ∃ b, flow.arena[mark.place]? = some b ∧ b.isGenerated = true))
    ∧ (a.isActive = false ∨ unmet? flow s a ≠ none →
      ∃ e t, execute flow place before shows s = .done (.error e) t
        ∧ t.trail = s.trail ++ [⟨place, .entered before⟩, ⟨place, .failed⟩] ∧ Untouched s t) := by
  have ho := hb.orderly
  refine ⟨?_, execute_of_refused ho ha before shows⟩
  intro e t new hends hnew hsettled
  obtain ⟨untouched, whose⟩ := untouched_of_ends_error ho ha hr hends hnew hsettled
  refine ⟨untouched, ?_⟩
  intro mark hm
  refine ⟨not_mem_subActivities ho ha (whose mark hm), ?_⟩
  rcases whose mark hm with ⟨b, hb, maker⟩ | hplace
  · exact .inr ⟨b, hb, maker.isGenerated⟩
  · exact .inl hplace

/-! ## §6. The shop. -/

/-- Answers of a shop from which nothing can be fetched. -/
def brokenAnswers : Task.Environment Unit
  | .call f _, _ => (if f.name = "fetch" then .error (.failed "closed") else .ok (.value .null), ())
  | q, world => nullAnswers q world

/-- What loading comes to with these answers. -/
def failedLoad : Option (Except ActivityFailure Json × State) :=
  ((execute shopFlow 0 {} true (initial shopFlow)).finish brokenAnswers ()).1

/-- Loading fails after its key was made, and selling at once. -/
theorem failure_leaves_no_trace_shop :
    (∃ e t, (execute shopFlow 0 {} true (initial shopFlow)).Ends (.error e) t
      ∧ ⟨4, .completed .null⟩ ∈ t.trail ∧ Untouched (initial shopFlow) t)
    ∧ ∃ e t, execute shopFlow 2 {} true (initial shopFlow) = .done (.error e) t
      ∧ Untouched (initial shopFlow) t := by
  constructor
  · have outcome : (failedLoad.map fun r => (r.1.toBool, r.2.trail)) = some (false,
        [⟨0, .entered {}⟩, ⟨0, .admitted⟩, ⟨4, .entered {}⟩, ⟨4, .admitted⟩, ⟨4, .called⟩,
          ⟨4, .settled .null⟩, ⟨4, .completed .null⟩, ⟨0, .called⟩, ⟨0, .failed⟩]) := by
      decide +kernel
    obtain ⟨⟨outcome, t⟩, ht, hr⟩ := Option.map_eq_some_iff.mp outcome
    obtain ⟨hfailed, htrail⟩ : outcome.toBool = false ∧ t.trail = _ := Prod.mk.inj hr
    cases outcome with
    | ok result => contradiction
    | error e =>
      have ends := Task.ends_of_finish brokenAnswers (Prod.ext ht rfl)
      obtain ⟨a, ha, own⟩ := Option.map_eq_some_iff.mp
        (by decide +kernel : (shopFlow.arena[0]?).map Activity.isReference = some false)
      have noTrace := failure_leaves_no_trace shopFlow_isBuilt ha own {} true (initial shopFlow)
      obtain ⟨untouched, _⟩ := noTrace.1 e t t.trail ends rfl (by simp [htrail])
      exact ⟨e, t, ends, by simp [htrail], untouched⟩
  · have closed : (shopFlow.arena[2]?).map (fun a =>
        (a.isReference, (unmet? shopFlow (initial shopFlow) a).isSome)) = some (false, true) := by
      decide +kernel
    obtain ⟨a, ha, h⟩ := Option.map_eq_some_iff.mp closed
    obtain ⟨own, refused⟩ := Prod.mk.inj h
    have noTrace := failure_leaves_no_trace shopFlow_isBuilt ha own {} true (initial shopFlow)
    obtain ⟨e, t, hdone, _, untouched⟩ := noTrace.2 (.inr (Option.isSome_iff_ne_none.mp refused))
    exact ⟨e, t, hdone, untouched⟩

end Pageflow.Run
