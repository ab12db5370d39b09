/-
  Pageflow.Proofs.Entitled — which files the run of an activity may ask for.

  If nothing from outside describes a file, the run of an activity asks only for files that are
  selected for an input of its service; so do its makers and its sub-activities, which belong to
  the same service.  Only a reference leads to another service: it also has its target run, which
  asks for files of the service of the target.  The results of all these are vouched for.

  Main definitions: `Tied` and `Entitled`.
  Main statements: `runActivity_keeps`, what one activity adds to what its callees ask for, and
  `execute_keeps`.
-/
import Pageflow.Proofs.Provenance

namespace Pageflow.Run

open Pageflow.Flow (Activity Orderly Strategy)

variable {V P : String → Prop} {Sel : Selection} {ε : Type}

/-! ## §1. What keeps states honest. -/

theorem modify_keeps {f : State → State} (h : ∀ s, Honest V Sel s → Honest V Sel (f s)) :
    (modify f : Run State ε Unit).Keeps (terms V Sel P) fun _ => True :=
  keeps_modify h

theorem alert_keeps (message : String) :
    (alert message : Run State ε Unit).Keeps (terms V Sel P) fun _ => True :=
  modify_keeps fun _ => Honest.display _

theorem mark_keeps (place : Nat) (stage : Stage) :
    (mark place stage : Run State ε Unit).Keeps (terms V Sel P) fun _ => True :=
  modify_keeps fun _ => Honest.mark place stage

/-! ## §2. Up to the result. -/

variable {flow : Flow} {run : Executor} {place : Nat} {a : Activity} {strategy : Strategy}
  {arguments : Arguments} {before : Inherited}

theorem gate_keeps (flow : Flow) (place : Nat) (a : Activity) :
    (gate flow place a).Keeps (terms V Sel P) fun _ => True := by
  refine keeps_get_bind ?_
  intro s _
  split
  · exact mark_keeps place .admitted
  · refine keeps_bind (alert_keeps _) ?_
    intro _ _
    exact keeps_fail _

/-- What a reference passes on as one value is vouched for. -/
def Passes (V : String → Prop) (a : Activity) (arguments : Arguments) : Prop :=
  a.isReference = true → Vouched V (.object arguments.parameters)

theorem parameterValues_of_bare (h : a.Bare) (make : Maker) :
    parameterValues make a before = (pure [] : Run State ExecutionError (Dict Json)) := by
  unfold parameterValues
  rw [h.unmapped.parameters, h.unmapped.dynamicParameters]
  rfl

theorem argumentsOf_of_bare (h : a.Bare) :
    argumentsOf run a before = (pure ⟨[], none⟩ : Run State ExecutionError Arguments) := by
  unfold argumentsOf requestBody
  rw [parameterValues_of_bare h, h.unmapped.requestBody]
  rfl

/-- An activity whose constants are vouched for, that calls no bridge but that of its service, and
that passes nothing on as a reference. -/
structure Tied (V : String → Prop) (a : Activity) : Prop where
  plain : Plain V a
  backed : a.Backed
  bare : a.isReference = true → a.Bare

/-- **What an activity is called with is known to its service**, and a reference passes nothing
on. -/
theorem given_keeps (tied : Tied V a) (known : ∀ path, Known V Sel a.service path → P path)
    (fine : before.Fine V) (makers : ∀ k ∈ a.makers, Serves V Sel P run k) :
    (argumentsOf run a before).Keeps (terms V Sel P) fun arguments =>
      arguments.Fine (Known V Sel a.service) ∧ Passes V a arguments := by
  cases hr : a.isReference with
  | true =>
    -- its parameters would be one value for the target; it has none
    rw [argumentsOf_of_bare (tied.bare hr)]
    refine keeps_pure ⟨⟨fine_nil, ?_⟩, fun _ => vouched_empty⟩
    intro v hv
    contradiction
  | false =>
    have own := argumentsOf_keeps tied.plain (fun path h => known path (.inr h)) fine fun k hk =>
      makers k hk {} false Inherited.fine_empty
    refine own.imp fun arguments fine => ⟨fine, ?_⟩
    intro reference
    rw [hr] at reference
    contradiction

theorem prepared_keeps (flow : Flow) (tied : Tied V a) {arguments : Arguments}
    (fine : arguments.Fine (Known V Sel a.service)) (passes : Passes V a arguments) :
    (preProcessed flow a arguments).Keeps (terms V Sel P) fun arguments =>
      arguments.Fine (Known V Sel a.service) ∧ Passes V a arguments := by
  cases hr : a.isReference with
  | true =>
    rw [preProcessed, (tied.bare hr).preProcess]
    exact keeps_pure ⟨fine, passes⟩
  | false =>
    refine (preProcessed_keeps flow a fine).imp fun arguments fine => ⟨fine, ?_⟩
    intro reference
    rw [hr] at reference
    contradiction

theorem dispatch_keeps (tied : Tied V a) (known : ∀ path, Known V Sel a.service path → P path)
    (hs : a.strategy = some strategy) (fine : arguments.Fine (Known V Sel a.service))
    (passes : Passes V a arguments) (target : ∀ k, a.target? = some k → Serves V Sel P run k) :
    (dispatch run place a strategy arguments).Keeps (terms V Sel P) (Vouched V) := by
  refine keeps_bind (mark_keeps place .called) fun _ _ => ?_
  refine keeps_bind (note_keeps _) fun _ _ => ?_
  refine callStrategy_keeps known fine ?_ ?_
  · -- the inputs of the backend's service are those of its own
    rintro o rfl path h
    rw [tied.backed o hs] at h
    exact known path (.inr h)
  · rintro k rfl
    refine ⟨passes ?_, target k (Activity.target?_eq_some.mpr hs)⟩
    rw [Activity.isReference, hs]
    rfl

theorem resultOf_keeps (flow : Flow) (tied : Tied V a)
    (called : (dispatch run place a strategy arguments).Keeps (terms V Sel P) (Vouched V)) :
    (resultOf flow run place a strategy arguments).Keeps (terms V Sel P) (Vouched V) := by
  unfold resultOf
  split
  · refine keeps_bind (note_keeps _) ?_
    intro _ _
    exact keeps_pure tied.plain.skipped
  · refine keeps_bind (keeps_attempt called) ?_
    intro outcome vouched
    split
    · exact keeps_pure (vouched _ rfl)
    · refine keeps_bind (alert_keeps _) ?_
      intro _ _
      exact keeps_fail _

/-- **The result of an activity is vouched for.** -/
theorem resultFor_keeps (flow : Flow) (tied : Tied V a)
    (known : ∀ path, Known V Sel a.service path → P path) (hs : a.strategy = some strategy)
    (fine : before.Fine V) (makers : ∀ k ∈ a.makers, Serves V Sel P run k)
    (target : ∀ k, a.target? = some k → Serves V Sel P run k) :
    (resultFor flow run place a strategy before).Keeps (terms V Sel P) (Vouched V) := by
  refine keeps_bind (gate_keeps flow place a) fun _ _ => ?_
  refine keeps_bind (keeps_mapError (given_keeps tied known fine makers)) fun _ given => ?_
  refine keeps_bind (prepared_keeps flow tied given.1 given.2) fun _ prepared => ?_
  exact resultOf_keeps flow tied (dispatch_keeps tied known hs prepared.1 prepared.2 target)

/-! ## §3. From the result on. -/

variable {result : Json} {shows : Bool}

theorem cascade_keeps (hr : Vouched V result) :
    ∀ (places : List Nat) {previous : Option Json}, (∀ v, previous = some v → Vouched V v) →
      (∀ k ∈ places, Serves V Sel P run k) →
      (cascade run result shows places previous).Keeps (terms V Sel P) fun _ => True
  | [], _, _, _ => keeps_pure trivial
  | k :: rest, previous, hp, h => by
      have before : Inherited.Fine V ⟨some result, previous⟩ := by
        refine ⟨?_, hp⟩
        rintro _ ⟨⟩
        exact hr
      refine keeps_bind (h k List.mem_cons_self _ shows before) ?_
      intro value vouched
      refine cascade_keeps hr rest ?_ fun k hk => h k (List.mem_cons_of_mem _ hk)
      rintro _ ⟨⟩
      exact vouched

theorem present_keeps (a : Activity) (result : Json) :
    (present a result).Keeps (terms V Sel P) fun _ => True := by
  unfold present
  split
  · exact modify_keeps fun _ => Honest.display _
  split
  · split
    · exact modify_keeps fun _ hs => Honest.insertInputs hs a.service _
    · exact keeps_fail _
  split
  · exact modify_keeps fun _ => Honest.display _
  · exact keeps_pure trivial

theorem conclude_keeps (place : Nat) (a : Activity) (result : Json) (shows : Bool) :
    (conclude place a result shows : Run State ε Unit).Keeps (terms V Sel P) fun _ => True := by
  have complete : (modify (State.complete place a result) : Run State ε Unit).Keeps
      (terms V Sel P) fun _ => True := modify_keeps fun _ hs => Honest.complete hs place a result
  unfold conclude
  split
  · exact keeps_bind (alert_keeps _) fun _ _ => complete
  · exact complete

/-- A result that is vouched for may be stored, handed down and shown. -/
theorem settle_keeps (flow : Flow) (place : Nat) (a : Activity) (hr : Vouched V result)
    (subs : ∀ k ∈ a.subActivities, Serves V Sel P run k) :
    (settle flow run place a result shows).Keeps (terms V Sel P) fun _ => True := by
  have stored : (modify (State.settle place a result) : Run State ActivityFailure Unit).Keeps
      (terms V Sel P) fun _ => True := modify_keeps fun _ hs => Honest.settle hs place a hr
  have none : ∀ v, (none : Option Json) = some v → Vouched V v := by
    intro v hv
    contradiction
  refine keeps_bind stored fun _ _ => ?_
  refine keeps_bind (keeps_mapError (cascade_keeps hr _ none subs)) fun _ _ => ?_
  refine keeps_bind (keeps_mapError (present_keeps a result)) fun _ _ => ?_
  exact conclude_keeps place a result shows

/-! ## §4. Whole runs. -/

/-- **An activity asks for what its callees ask for, and besides only for what is known to its
service**; its result is vouched for. -/
theorem runActivity_keeps (flow : Flow) (tied : Tied V a)
    (known : ∀ path, Known V Sel a.service path → P path) (fine : before.Fine V)
    (callees : ∀ k ∈ a.callees, Serves V Sel P run k) :
    (runActivity flow run place a before shows).Keeps (terms V Sel P) (Vouched V) := by
  unfold runActivity
  split
  · exact keeps_fail _
  next strategy hs =>
    have result : (resultFor flow run place a strategy before).Keeps (terms V Sel P)
        (Vouched V) :=
      resultFor_keeps flow tied known hs fine
        (fun k hk => callees k (Activity.mem_callees.mpr (.inl hk)))
        fun k hk => callees k (Activity.mem_callees.mpr (.inr (.inl hk)))
    have settled : ∀ {result}, Vouched V result →
        (settle flow run place a result shows).Keeps (terms V Sel P) fun _ => True :=
      fun vouched => settle_keeps flow place a vouched
        fun k hk => callees k (Activity.mem_callees.mpr (.inr (.inr hk)))
    refine keeps_bind result fun result vouched => ?_
    refine keeps_bind (settled vouched) fun _ _ => ?_
    exact keeps_pure vouched

theorem traced_keeps {r : Run State ActivityFailure Json}
    (hr : r.Keeps (terms V Sel P) (Vouched V)) :
    (traced place before r).Keeps (terms V Sel P) (Vouched V) := by
  refine keeps_bind (mark_keeps place (.entered before)) fun _ _ => ?_
  refine keeps_bind (keeps_attempt hr) fun outcome vouched => ?_
  split
  · exact keeps_pure (vouched _ rfl)
  · refine keeps_bind (mark_keeps place .failed) ?_
    intro _ _
    exact keeps_fail _

/-- The files that an activity and those inside it may ask for.  A reference also has its target
run. -/
def Entitled (V : String → Prop) (Sel : Selection) (flow : Flow) (a : Activity) (path : String) :
    Prop :=
  Known V Sel a.service path
    ∨ ∃ target b, a.target? = some target ∧ flow.arena[target]? = some b
        ∧ Sel.Has b.service path

theorem Serves.mono {Q : String → Prop} (h : Serves V Sel P run place)
    (hPQ : ∀ path, P path → Q path) : Serves V Sel Q run place :=
  fun before shows fine => (h before shows fine).mono
    (fun _ asks path hp => hPQ path (asks path hp)) fun _ => id

/-- An activity that is no reference asks for files of its own service. -/
theorem known_of_entitled {b : Activity} {path : String} (own : b.isReference = false)
    (h : Entitled V Sel flow b path) : Known V Sel b.service path := by
  rcases h with h | ⟨target, _, ht, _⟩
  · exact h
  · rw [Activity.target?_of_not_isReference own] at ht
    contradiction

/-- What a callee may ask for its caller may ask for. -/
theorem entitled_of_calls (ho : Orderly flow) (ha : flow.arena[place]? = some a) {k : Nat}
    (hk : k ∈ a.callees) : ∃ b, flow.arena[k]? = some b
      ∧ ∀ path, Entitled V Sel flow b path → Entitled V Sel flow a path := by
  have placed := ho.placed place a ha
  have same : ∀ {b : Activity}, b.isReference = false → b.service = a.service →
      ∀ path, Entitled V Sel flow b path → Entitled V Sel flow a path := by
    intro b own service path h
    have known := known_of_entitled own h
    rw [service] at known
    exact .inl known
  rcases Activity.mem_callees.mp hk with hk | hk | hk
  · obtain ⟨_, b, hb, maker, service⟩ := placed.maker k hk
    exact ⟨b, hb, same maker.isReference service⟩
  -- only a target may belong to another service; makers and sub-activities do not
  · obtain ⟨_, b, hb, declared, _⟩ := placed.target k hk
    refine ⟨b, hb, fun path h => ?_⟩
    rcases known_of_entitled declared.isReference h with h | h
    · exact .inl (.inl h)
    · exact .inr ⟨k, b, hk, hb, h⟩
  · obtain ⟨_, b, hb, declared, _, service⟩ := placed.sub k hk
    exact ⟨b, hb, same declared.isReference service⟩

/-- **The run of an activity asks only for files that it is entitled to.** -/
theorem execute_keeps (ho : Orderly flow) (tied : ∀ a ∈ flow.arena, Tied V a) :
    ∀ (place : Nat) (a : Activity), flow.arena[place]? = some a →
      Serves V Sel (Entitled V Sel flow a) (execute flow) place := by
  intro place
  -- the callees of an activity come before it in the order of calls
  induction place using (Flow.calls_wellFounded ho).induction with
  | _ place ih =>
    intro a ha before shows fine
    rw [execute_eq ho ha]
    refine traced_keeps (runActivity_keeps flow (tied a (List.mem_of_getElem? ha))
      (fun path h => .inl h) fine ?_)
    intro k hk
    obtain ⟨b, hb, entitled⟩ := entitled_of_calls ho ha hk
    exact (ih k ⟨a, ha, hk⟩ b hb).mono entitled

end Pageflow.Run
