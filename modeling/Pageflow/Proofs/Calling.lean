/-
  Pageflow.Proofs.Calling — what an external call leaves alone.

  An external call finds out the values of an activity and calls its strategy.  The values may
  take makers, which store, show and record nothing.  Functions, remote operations and
  capabilities run no activities.  So the call of an activity that is no reference changes no
  store, records nothing, and starts none of the sub-activities.  The strategy of a reference is a
  run of its target, and that is like any other run of it.

  Main definition: `LeftAlone`.
  Main statement: `external_call_leaves_alone`.
-/
import Pageflow.Proofs.Stored

namespace Pageflow.Run

open Pageflow.Flow (Activity IsBuilt Materials Orderly)

/-! ## §1. What stays as it is. -/

/-- The stores of the services and of the process, the log of executed activities and the events
are as they were, and the trail has grown by such marks only. -/
structure LeftAlone (allowed : Mark → Prop) (s t : State) : Prop where
  store : ∀ name,
    (t.service? name).map ServiceState.store = (s.service? name).map ServiceState.store
  executed : t.executed = s.executed
  events : t.events = s.events
  trail : ∃ new, t.trail = s.trail ++ new ∧ ∀ m ∈ new, allowed m

variable {flow : Flow} {allowed : Mark → Prop} {s t : State} {place : Nat} {a : Activity}

/-- A state that differs only in other things. -/
theorem LeftAlone.of_eq (store : ∀ name,
      (t.service? name).map ServiceState.store = (s.service? name).map ServiceState.store)
    (executed : t.executed = s.executed) (events : t.events = s.events)
    (trail : t.trail = s.trail) : LeftAlone allowed s t :=
  ⟨store, executed, events, [], by rw [trail, List.append_nil], by simp⟩

theorem leftAlone_chained (allowed : Mark → Prop) : Task.Chained (LeftAlone allowed) where
  refl _ := .of_eq (fun _ => rfl) rfl rfl rfl
  trans h h' := by
    obtain ⟨new, hnew, hallowed⟩ := h.trail
    obtain ⟨more, hmore, hallowed'⟩ := h'.trail
    exact
      { store := fun name => (h'.store name).trans (h.store name)
        executed := h'.executed.trans h.executed
        events := h'.events.trans h.events
        trail := ⟨new ++ more, by rw [hmore, hnew, List.append_assoc],
          List.forall_mem_append.mpr ⟨hallowed, hallowed'⟩⟩ }

theorem leftAlone_showing (allowed : Mark → Prop) :
    Showing (fun _ _ => True) (fun r => r.Within (LeftAlone allowed) : Property State) where
  toReading := Noting.reading
    { toChained := leftAlone_chained allowed
      note := fun _ _ => .of_eq (fun _ => rfl) rfl rfl rfl } _
  display _ := within_modify fun _ => .of_eq (fun _ => rfl) rfl rfl rfl

/-- To set or to take away the mark of a service touches no store. -/
theorem leftAlone_modifyService (s : State) (service : String) {f : ServiceState → ServiceState}
    (hf : ∀ state, (f state).store = state.store) :
    LeftAlone allowed s (s.modifyService service f) := by
  refine .of_eq ?_ (State.executed_modifyService ..) ?_ (State.trail_modifyService ..)
  · intro name
    rw [State.service?_modifyService]
    split
    next h =>
      subst h
      cases s.service? name <;> simp [hf]
    next => rfl
  · unfold State.modifyService
    split
    · rfl
    split <;> rfl

theorem leftAlone_release (s : State) (service : String) :
    LeftAlone allowed s (s.release service) := by
  have free : LeftAlone allowed s
      (s.modifyService service fun state => { state with running := none }) :=
    leftAlone_modifyService s service fun _ => rfl
  exact ⟨free.store, free.executed, free.events, free.trail⟩

/-! ## §2. Calls. -/

/-- A mark that a call of the activity at this place may put: its own, or one of a maker. -/
def CallMark (flow : Flow) (place : Nat) (m : Mark) : Prop :=
  MakerAt flow m.place ∨ m = ⟨place, .called⟩

theorem CallMark.early {m : Mark} (h : CallMark flow place m) : Early flow place m := by
  rcases h with maker | rfl
  · exact .inl maker
  · exact .inr ⟨rfl, .inr rfl⟩

/-- **The call of an activity that is no reference** is one step, and the steps of makers. -/
theorem callOnly_within (ho : Orderly flow) (ha : flow.arena[place]? = some a)
    (hr : a.isReference = false) (c : ExternalCall) :
    (callOnly flow c place a).Within (Steps flow (CallMark flow place)) := by
  refine callOnly_closed (steps_showing flow _).toReading (fun _ _ => trivial) c ?_ ?_ ?_
  · exact within_modify fun s => .single (.call (.inr rfl) s)
  · intro k hk
    exact maker_within ho ha hk fun _ => .inl
  · intro k _ hk
    rw [Activity.target?_of_not_isReference hr] at hk
    contradiction

theorem leftAlone_of_steps (steps : Steps flow (CallMark flow place) s t) :
    LeftAlone (CallMark flow place) s t := by
  have early : Steps flow (Early flow place) s t :=
    Relation.ReflTransGen.mono (fun _ _ step => step.mono fun _ => CallMark.early) _ _ steps
  have untouched := untouched_steps early
  have same : ∀ name, t.service? name = s.service? name := by
    intro name
    simp only [State.service?, untouched.process, untouched.services]
  refine ⟨?_, untouched.executed, untouched.events, trail_steps steps⟩
  intro name
  rw [same]

/-- The names of a call are those of an activity that is no reference. -/
def ExternalCall.IsOwn (flow : Flow) (c : ExternalCall) : Prop :=
  ∀ place a, flow.find? c.service c.activity = some place → flow.arena[place]? = some a →
    a.isReference = false

theorem externalCall_within (ho : Orderly flow) {c : ExternalCall} (own : c.IsOwn flow) :
    (externalCall flow c).Within (LeftAlone fun m => ∃ place,
      flow.find? c.service c.activity = some place ∧ CallMark flow place m) := by
  refine externalCall_of_callOnly (leftAlone_showing _) c ?_ ?_ ?_
  · refine start_within (leftAlone_chained _) ?_
    intro s
    exact leftAlone_modifyService s c.service fun _ => rfl
  · exact within_modify fun s => leftAlone_release s c.service
  · intro place a known s
    obtain ⟨hfind, ha⟩ := getElem?_of_knownActivity known
    refine (callOnly_within ho ha (own place a hfind ha) c s).mono ?_
    intro s t steps
    have alone := leftAlone_of_steps steps
    obtain ⟨new, hnew, calls⟩ := alone.trail
    exact { alone with trail := ⟨new, hnew, fun m hm => ⟨place, hfind, calls m hm⟩⟩ }

/-! ## §3. External calls. -/

/-- A mark of a maker, or of the call of an activity at the top. -/
def Apart (flow : Flow) (m : Mark) : Prop :=
  ∃ b, flow.arena[m.place]? = some b ∧ b.parent = none
    ∧ (b.isGenerated = true ∨ m.stage = .called)

theorem CallMark.apart (ho : Orderly flow) {service name : String}
    (hfind : flow.find? service name = some place) {m : Mark} (h : CallMark flow place m) :
    Apart flow m := by
  rcases h with ⟨b, hb, maker⟩ | rfl
  · exact ⟨b, hb, maker.parent, .inl maker.isGenerated⟩
  · obtain ⟨b, hb, _, top, _⟩ := ho.top service name place hfind
    exact ⟨b, hb, top, .inr rfl⟩

variable {m : Materials} {page : Document.Page} {process : Document.Process}

/-- **An external call stands apart.**  Whatever the external call of an activity of a built flow
comes to, if the activity is no reference, the stores of the services and of the process, the log
of executed activities and the events are as they were.  The activity was only called: besides,
only makers of values ran, and no sub-activity of anything.  If others act while the call waits,
this holds of each stretch of it. -/
theorem external_call_leaves_alone (hb : IsBuilt m page process flow) {c : ExternalCall}
    (own : c.IsOwn flow) (s : State) :
    (∀ outcome t, (externalCall flow c s).Ends outcome t → LeftAlone (Apart flow) s t)
    ∧ (externalCall flow c s).Within (LeftAlone (Apart flow)) s := by
  have ho := hb.orderly
  have call : (externalCall flow c s).Within (LeftAlone (Apart flow)) s := by
    refine (externalCall_within ho own s).mono ?_
    intro s t alone
    obtain ⟨new, hnew, calls⟩ := alone.trail
    refine { alone with trail := ⟨new, hnew, ?_⟩ }
    intro m hm
    obtain ⟨place, hfind, own⟩ := calls m hm
    exact own.apart ho hfind
  refine ⟨?_, call⟩
  intro outcome t ends
  exact Task.ends_of_within (leftAlone_chained _) call ends

/-! ## §4. The shop. -/

/-- What an external call in the shop comes to if functions give 7 and somebody listens. -/
def calledShop (c : ExternalCall) : Option (Except HostError Json × State) :=
  ((externalCall shopFlow c { initial shopFlow with listener := .listening }).finish
    sevenAnswers ()).1

/-- To call what loads the shop makes the key and gives the stock, but stores nothing. -/
theorem external_call_leaves_alone_shop :
    ∃ t, (externalCall shopFlow { service := "shop", activity := "load" }
        { initial shopFlow with listener := .listening }).Ends (.ok (.integer 7)) t
      ∧ ⟨4, .completed (.integer 7)⟩ ∈ t.trail ∧ ⟨0, .called⟩ ∈ t.trail
      ∧ LeftAlone (Apart shopFlow) { initial shopFlow with listener := .listening } t := by
  have outcome : ((calledShop { service := "shop", activity := "load" }).map fun r =>
      (r.1, decide (⟨4, .completed (.integer 7)⟩ ∈ r.2.trail ∧ ⟨0, .called⟩ ∈ r.2.trail)))
      = some (.ok (.integer 7), true) := by decide +kernel
  have own : ∀ a ∈ shopFlow.arena, a.service ≠ Document.processService →
      a.isReference = false := by decide +kernel
  obtain ⟨⟨result, t⟩, ht, hr⟩ := Option.map_eq_some_iff.mp outcome
  obtain ⟨rfl, marks⟩ : result = .ok (.integer 7) ∧ _ := Prod.mk.inj hr
  obtain ⟨made, called⟩ := of_decide_eq_true marks
  have ends := Task.ends_of_finish sevenAnswers (Prod.ext ht rfl)
  refine ⟨t, ends, made, called, (external_call_leaves_alone shopFlow_isBuilt ?_ _).1 _ t ends⟩
  intro place a hfind ha
  obtain ⟨b, hb, service, _⟩ := shopFlow_isBuilt.orderly.top _ _ _ hfind
  obtain rfl := Option.some.inj (ha.symm.trans hb)
  exact own a (List.mem_of_getElem? ha) (by rw [service]; decide)

/-- To call what loads the shop again runs all of it: its result is stored, it and its
sub-activity are recorded and reported. -/
theorem reference_call_not_left_alone :
    IsBuilt shopMaterials {} shopProcess shopFlow ∧ shopFlow.find? "process" "again" = some 3
    ∧ ∃ t, (externalCall shopFlow { service := "process", activity := "again" }
          { initial shopFlow with listener := .listening }).Ends (.ok (.integer 7)) t
        ∧ (initial shopFlow).entry (some "shop") "stock" = none
        ∧ t.entry (some "shop") "stock" = some (.integer 7)
        ∧ t.executed.map (·.activityName) = ["check", "load"]
        ∧ t.events.map (·.activity.activityName) = ["check", "load"]
        ∧ ¬ LeftAlone (Apart shopFlow) { initial shopFlow with listener := .listening } t := by
  have outcome : ((calledShop { service := "process", activity := "again" }).map fun r =>
      (r.1, r.2.entry (some "shop") "stock", r.2.executed.map (·.activityName),
        r.2.events.map (·.activity.activityName)))
      = some (.ok (.integer 7), some (.integer 7), ["check", "load"], ["check", "load"]) := by
    decide +kernel
  obtain ⟨⟨result, t⟩, ht, hr⟩ := Option.map_eq_some_iff.mp outcome
  obtain ⟨rfl, stock, executed, events⟩ : result = .ok (.integer 7) ∧ _ ∧ _ ∧ _ := by
    simpa only [Prod.mk.injEq] using hr
  have ends := Task.ends_of_finish sevenAnswers (Prod.ext ht rfl)
  refine ⟨shopFlow_isBuilt, by decide +kernel, t, ends, by decide +kernel, stock, executed,
    events, ?_⟩
  intro alone
  rw [alone.executed] at executed
  exact absurd executed (by decide +kernel)

end Pageflow.Run
