/-
  Pageflow.Proofs.Stories — what the run of an activity tells.

  The marks of a run have a shape.  An activity starts; it is let in, has its values made, and is
  called; its result is settled; its sub-activities tell their stories one after the other; it ends,
  or fails on the way.  What is told up to the result is a medley of marks of the activity and
  stories of makers, or of the target.  Sub-activities come after the result only, each after the
  result above it and that of the one next to it; the first that fails is the last, and makes the
  activity fail with nothing more than a mark.

  Main definitions: `Story`, and what stories are made of.
  Main statement: `execute_tells`.
-/
import Pageflow.Proofs.Telling
import Pageflow.Proofs.Untouched

namespace Pageflow.Run

open Pageflow.Flow (Activity Orderly Strategy)

/-! ## §1. Stories. -/

/-- The failure of an activity one of whose sub-activities fails. -/
def subFailure (flow : Flow) (a : Activity) (e : ActivityFailure) : ActivityFailure :=
  failureOf flow a .execution ("Sub-activity failed:\n" ++ e.message)

/-- A mark that the activity at this place may put before its result is settled. -/
inductive OwnCall (place : Nat) : Mark → Prop
  | admitted : OwnCall place ⟨place, .admitted⟩
  | called : OwnCall place ⟨place, .called⟩

/-- What an activity may run before its result is settled: makers, and its target. -/
def RunsBefore (a : Activity) (k : Nat) : Prop := k ∈ a.makers ∨ a.target? = some k

/-- The activity at a place stands at the top. -/
def IsTop (flow : Flow) (place : Nat) : Prop :=
  ∃ a, flow.arena[place]? = some a ∧ a.parent = none

/-- The strategy of the activity can be called so that it gives this result. -/
def CallGives (flow : Flow) (place : Nat) (a : Activity) (result : Json) : Prop :=
  ∃ strategy arguments s t, a.strategy = some strategy
    ∧ (dispatch (execute flow) place a strategy arguments s).ComesTo (.ok result) t

/-- The activity has been called by then and that gave the result, or its call is skipped and the
result stands in for it. -/
def Dispatched (flow : Flow) (place : Nat) (a : Activity) (upTo : List Mark) (result : Json) :
    Prop :=
  a.skips = true ∧ result = skippedResult a
    ∨ ⟨place, .called⟩ ∈ upTo ∧ CallGives flow place a result

mutual

/-- What the activity at a place tells, given the results before it; what its run comes to, and the
state at its end. -/
inductive Story (flow : Flow) :
    Nat → Inherited → List Mark → Except ActivityFailure Json → State → Prop
  | ended {place : Nat} {a : Activity} {before : Inherited} {told : List Mark} {result : Json}
      {t : State} (ha : flow.arena[place]? = some a) (ran : Ran flow place a told (.ok result) t) :
      Story flow place before (⟨place, .entered before⟩ :: told) (.ok result) t
  | failed {place : Nat} {a : Activity} {before : Inherited} {told : List Mark}
      {e : ActivityFailure} {t : State} (ha : flow.arena[place]? = some a)
      (ran : Ran flow place a told (.error e) t) :
      Story flow place before (⟨place, .entered before⟩ :: (told ++ [⟨place, .failed⟩])) (.error e)
        (t.mark place .failed)

/-- What an activity tells between its start and its end. -/
inductive Ran (flow : Flow) :
    Nat → Activity → List Mark → Except ActivityFailure Json → State → Prop
  /-- It fails before it has a result. -/
  | unsettled {place : Nat} {a : Activity} {upTo : List Mark} {e : ActivityFailure} {t : State}
      (opening : Medley flow (OwnCall place) (RunsBefore a) upTo) :
      Ran flow place a upTo (.error e) t
  /-- Its result is settled and handed down. -/
  | finished {place : Nat} {a : Activity} {upTo down : List Mark} {result : Json} {t : State}
      (opening : Medley flow (OwnCall place) (RunsBefore a) upTo)
      (dispatched : Dispatched flow place a upTo result)
      (handed : HandedDown flow place a result down (.ok ()) t) :
      Ran flow place a (upTo ++ ⟨place, .settled result⟩ :: down) (.ok result) t
  /-- Its result is settled, but not handed down to the end. -/
  | unfinished {place : Nat} {a : Activity} {upTo down : List Mark} {result : Json}
      {e : ActivityFailure} {t : State}
      (opening : Medley flow (OwnCall place) (RunsBefore a) upTo)
      (dispatched : Dispatched flow place a upTo result)
      (handed : HandedDown flow place a result down (.error e) t) :
      Ran flow place a (upTo ++ ⟨place, .settled result⟩ :: down) (.error e) t

/-- What is told after the result is settled. -/
inductive HandedDown (flow : Flow) :
    Nat → Activity → Json → List Mark → Except ActivityFailure Unit → State → Prop
  /-- All sub-activities end well, and so does the activity. -/
  | completed {place : Nat} {a : Activity} {result : Json} {below : List Mark} {u t : State}
      (subs : Siblings flow result a.subActivities none below (.ok ()) u) :
      HandedDown flow place a result (below ++ [⟨place, .completed result⟩]) (.ok ()) t
  /-- All sub-activities end well, but the result cannot be shown. -/
  | unpresented {place : Nat} {a : Activity} {result : Json} {below : List Mark}
      {e : ActivityFailure} {u t : State}
      (subs : Siblings flow result a.subActivities none below (.ok ()) u) :
      HandedDown flow place a result below (.error e) t
  /-- A sub-activity fails; nothing else happens. -/
  | stopped {place : Nat} {a : Activity} {result : Json} {below : List Mark} {e : ActivityFailure}
      {t : State} (subs : Siblings flow result a.subActivities none below (.error e) t) :
      HandedDown flow place a result below (.error (subFailure flow a e)) t

/-- What sub-activities tell, below an activity with this result and next to one with that. -/
inductive Siblings (flow : Flow) : Json → List Nat → Option Json → List Mark →
    Except ActivityFailure Unit → State → Prop
  | none {parent : Json} {previous : Option Json} {t : State} :
      Siblings flow parent [] previous [] (.ok ()) t
  /-- The first one ends well, and the others run next to its result. -/
  | next {parent : Json} {previous : Option Json} {k : Nat} {rest : List Nat}
      {told more : List Mark} {result : Json} {outcome : Except ActivityFailure Unit} {u t : State}
      (first : Story flow k ⟨some parent, previous⟩ told (.ok result) u)
      (others : Siblings flow parent rest (some result) more outcome t) :
      Siblings flow parent (k :: rest) previous (told ++ more) outcome t
  /-- The first one fails, and the others do not run. -/
  | stop {parent : Json} {previous : Option Json} {k : Nat} {rest : List Nat} {told : List Mark}
      {e : ActivityFailure} {t : State}
      (first : Story flow k ⟨some parent, previous⟩ told (.error e) t) :
      Siblings flow parent (k :: rest) previous told (.error e) t

/-- Marks of one's own, and stories of others. -/
inductive Medley (flow : Flow) : (Mark → Prop) → (Nat → Prop) → List Mark → Prop
  | nil {own : Mark → Prop} {others : Nat → Prop} : Medley flow own others []
  | mark {own : Mark → Prop} {others : Nat → Prop} {m : Mark} {more : List Mark} (h : own m)
      (rest : Medley flow own others more) : Medley flow own others (m :: more)
  | story {own : Mark → Prop} {others : Nat → Prop} {k : Nat} {before : Inherited}
      {told more : List Mark} {outcome : Except ActivityFailure Json} {t : State} (h : others k)
      (first : Story flow k before told outcome t) (rest : Medley flow own others more) :
      Medley flow own others (told ++ more)

end

variable {flow : Flow} {own : Mark → Prop} {others : Nat → Prop}

/-- What runs before a result is settled stands at the top. -/
theorem isTop_of_runsBefore (ho : Orderly flow) {place k : Nat} {a : Activity}
    (ha : flow.arena[place]? = some a) (h : RunsBefore a k) : IsTop flow k := by
  rcases h with hk | hk
  · obtain ⟨_, b, hb, maker, _⟩ := (ho.placed place a ha).maker k hk
    exact ⟨b, hb, maker.parent⟩
  · obtain ⟨_, b, hb, _, ht⟩ := (ho.placed place a ha).target k hk
    exact ⟨b, hb, ht⟩

theorem Medley.append {first last : List Mark} :
    Medley flow own others first → Medley flow own others last →
      Medley flow own others (first ++ last)
  | .nil, h' => h'
  | .mark h rest, h' => .mark h (rest.append h')
  | .story h first rest, h' => by
      rw [List.append_assoc]
      exact .story h first (rest.append h')

theorem medley_joins (flow : Flow) (own : Mark → Prop) (others : Nat → Prop) :
    Joins (Medley flow own others) where
  nil := .nil
  append := Medley.append

theorem medley_mark {m : Mark} (h : own m) : Medley flow own others [m] := .mark h .nil

theorem medley_story {k : Nat} {before : Inherited} {told : List Mark}
    {outcome : Except ActivityFailure Json} {t : State} (h : others k)
    (story : Story flow k before told outcome t) : Medley flow own others told := by
  rw [← List.append_nil told]
  exact .story h story .nil

/-! ## §2. Up to the result. -/

variable {place : Nat} {a : Activity} {strategy : Strategy} {before : Inherited} {shows : Bool}

/-- The run of an activity tells its story. -/
def TellsStory (flow : Flow) (place : Nat) : Prop :=
  ∀ before shows s, (execute flow place before shows s).Tells (Story flow place before) s

/-- The story of another one belongs to a medley. -/
theorem TellsStory.medley {k : Nat} (h : TellsStory flow k) (hk : others k) (before : Inherited)
    (shows : Bool) : TellsOnly (Medley flow own others) (execute flow k before shows) :=
  fun s => (h before shows s).mono fun _ _ _ => medley_story hk

theorem gate_tells (flow : Flow) (place : Nat) (a : Activity) :
    TellsOnly (Medley flow (OwnCall place) (RunsBefore a)) (gate flow place a) := by
  have showing := (medley_joins flow (OwnCall place) (RunsBefore a)).showing fun _ _ => True
  intro s
  rw [gate, get_bind_apply]
  -- a message about what is missing is shown, and leaves no mark
  cases unmet? flow s a with
  | none => exact tells_modify rfl (medley_mark .admitted)
  | some message => exact showing.bind (alert_closed showing _) (fun _ => showing.fail _) s

/-- A medley that ends in a result only if the activity was dispatched. -/
def Opening (flow : Flow) (place : Nat) (a : Activity) (told : List Mark)
    (x : Except ActivityFailure Json) : Prop :=
  Medley flow (OwnCall place) (RunsBefore a) told
    ∧ ∀ result, x = .ok result → Dispatched flow place a told result

theorem Dispatched.append {first last : List Mark} {result : Json}
    (h : Dispatched flow place a last result) : Dispatched flow place a (first ++ last) result :=
  h.imp_right fun called => ⟨List.mem_append_right _ called.1, called.2⟩

theorem opening_error {told : List Mark} (h : Medley flow (OwnCall place) (RunsBefore a) told)
    (e : ActivityFailure) : Opening flow place a told (.error e) :=
  ⟨h, by intro result h; contradiction⟩

/-- What comes first may be any medley. -/
theorem tells_opening {α : Type} {r : Run State ActivityFailure α}
    {next : α → Run State ActivityFailure Json}
    (hr : TellsOnly (Medley flow (OwnCall place) (RunsBefore a)) r)
    (hn : ∀ x s, (next x s).Tells (fun told x _ => Opening flow place a told x) s) (s : State) :
    ((r >>= next) s).Tells (fun told x _ => Opening flow place a told x) s := by
  refine tells_bind (hr s) ?_ fun told e _ medley => opening_error medley e
  intro told x u medley
  refine (hn x u).mono ?_
  rintro more y _ ⟨medley', dispatched⟩
  exact ⟨medley.append medley', fun result h => (dispatched result h).append⟩

theorem dispatch_tells (arguments : Arguments)
    (target : ∀ k, strategy.target? = some k → RunsBefore a k ∧ TellsStory flow k) (s : State) :
    (dispatch (execute flow) place a strategy arguments s).Tells
      (fun told _ _ => Medley flow (OwnCall place) (RunsBefore a) told
        ∧ ⟨place, .called⟩ ∈ told) s := by
  have showing := (medley_joins flow (OwnCall place) (RunsBefore a)).showing fun _ _ => True
  have rest : TellsOnly (Medley flow (OwnCall place) (RunsBefore a))
      (callStrategy (execute flow) strategy arguments) := by
    refine callStrategy_closed showing.toReading arguments ?_
    intro k before hk
    obtain ⟨runs, tells⟩ := target k hk
    exact tells.medley runs before false
  -- the mark of the call comes first, whatever the strategy does then
  refine tells_modify_bind (State.trail_mark ..) ?_
  refine (showing.bind (showing.note _) (fun _ => rest) _).mono ?_
  intro more _ _ medley
  exact ⟨.mark .called medley, List.mem_cons_self⟩

/-- **A result is settled only after the call**, unless that is skipped. -/
theorem resultOf_tells (hs : a.strategy = some strategy) (arguments : Arguments)
    (target : ∀ k, strategy.target? = some k → RunsBefore a k ∧ TellsStory flow k) (s : State) :
    (resultOf flow (execute flow) place a strategy arguments s).Tells
      (fun told x _ => Opening flow place a told x) s := by
  have showing := (medley_joins flow (OwnCall place) (RunsBefore a)).showing fun _ _ => True
  unfold resultOf
  split
  next skips =>
    refine tells_opening (showing.note _) (fun _ s => tells_pure ⟨.nil, ?_⟩) s
    intro result h
    exact .inl ⟨skips, (Except.ok.inj h).symm⟩
  next =>
    have call : ((attempt (dispatch (execute flow) place a strategy arguments) :
        Run State ActivityFailure (Except ExecutionError Json)) s).Tells
          (fun told y t => ∃ x, y = .ok x
            ∧ (Medley flow (OwnCall place) (RunsBefore a) told ∧ ⟨place, .called⟩ ∈ told)
            ∧ (dispatch (execute flow) place a strategy arguments s).ComesTo x t) s := by
      refine tells_attempt ((dispatch_tells arguments target s).comesTo.mono ?_)
      intro told x t h
      exact ⟨x, rfl, h⟩
    refine tells_bind call ?_ ?_
    · rintro told outcome u ⟨x, hx, ⟨medley, called⟩, comes⟩
      obtain rfl := Except.ok.inj hx
      cases outcome with
      | ok result =>
        refine tells_pure ?_
        rw [List.append_nil]
        refine ⟨medley, fun value h => .inr ⟨called, strategy, arguments, s, u, hs, ?_⟩⟩
        obtain rfl := Except.ok.inj h
        exact comes
      | error e =>
        -- the alert leaves no mark
        refine tells_modify_bind (List.append_nil _).symm (tells_fail ?_)
        rw [List.append_nil, List.append_nil]
        exact opening_error medley _
    · rintro told e u ⟨x, hx, _⟩
      contradiction

/-- **What is told up to the result is a medley** of marks of the activity, and of stories of its
makers or its target. -/
theorem resultFor_tells (hs : a.strategy = some strategy)
    (callees : ∀ k, RunsBefore a k → TellsStory flow k) (before : Inherited) (s : State) :
    (resultFor flow (execute flow) place a strategy before s).Tells
      (fun told x _ => Opening flow place a told x) s := by
  have showing := (medley_joins flow (OwnCall place) (RunsBefore a)).showing fun _ _ => True
  have arguments : TellsOnly (Medley flow (OwnCall place) (RunsBefore a))
      (argumentsOf (execute flow) a before) := by
    refine argumentsOf_closed showing.toReading (fun _ _ => trivial) ?_
    intro k hk
    exact (callees k (.inl hk)).medley (.inl hk) {} false
  -- nothing before the call can give a result
  refine tells_opening (gate_tells flow place a) (fun _ => ?_) s
  refine tells_opening (showing.mapError arguments) fun arguments => ?_
  refine tells_opening (preProcessed_closed showing.toLogging flow arguments) fun arguments => ?_
  refine resultOf_tells hs arguments ?_
  intro k hk
  have target : a.target? = some k := by
    rw [Activity.target?, hs]
    exact hk
  exact ⟨.inr target, callees k (.inr target)⟩

/-! ## §3. From the result on. -/

theorem cascade_tells (parent : Json) (shows : Bool) :
    ∀ (places : List Nat) (previous : Option Json) (s : State),
      (∀ k ∈ places, TellsStory flow k) →
      (cascade (execute flow) parent shows places previous s).Tells
        (Siblings flow parent places previous) s
  | [], _, _, _ => tells_pure .none
  | k :: rest, previous, s, h => by
      refine tells_bind (h k List.mem_cons_self ⟨some parent, previous⟩ shows s) ?_ ?_
      · intro told result u first
        refine (cascade_tells parent shows rest (some result) u
          fun k hk => h k (List.mem_cons_of_mem _ hk)).mono ?_
        intro more x t others
        exact .next first others
      · intro told e u first
        exact .stop first

theorem silent_joins : Joins (· = []) where
  nil := rfl
  append := by
    rintro _ _ rfl rfl
    rfl

/-- To show a result tells nothing. -/
theorem present_tells (a : Activity) (result : Json) : TellsOnly (· = []) (present a result) :=
  present_closed (silent_joins.showing fun _ _ => True) fun _ _ =>
    tellsOnly_silent silent_joins fun s => State.trail_modifyService s _ _

theorem conclude_tells {ε : Type} (place : Nat) (a : Activity) (result : Json) (shows : Bool)
    (s : State) : ((conclude place a result shows : Run State ε Unit) s).Tells
      (fun told x _ => told = [⟨place, .completed result⟩] ∧ x = .ok ()) s := by
  have recorded : ∀ s, ((modify (State.complete place a result) : Run State ε Unit) s).Tells
      (fun told x _ => told = [⟨place, .completed result⟩] ∧ x = .ok ()) s :=
    fun s => tells_modify (trail_complete ..) ⟨rfl, rfl⟩
  unfold conclude
  split
  · exact tells_modify_bind (List.append_nil _).symm (recorded _)
  · exact recorded s

/-- **From its result on an activity tells what its sub-activities tell**, and then that it has
ended. -/
theorem handDown_tells (result : Json) (shows : Bool)
    (subs : ∀ k ∈ a.subActivities, TellsStory flow k) (s : State) :
    (handDown flow (execute flow) place a result shows s).Tells
      (HandedDown flow place a result) s := by
  have below : ((cascade (execute flow) result shows a.subActivities none).mapError
      (subFailure flow a) s).Tells (fun told x t => ∃ y,
        Siblings flow result a.subActivities none told y t
          ∧ x = y.mapError (subFailure flow a)) s := by
    -- the failure of a sub-activity becomes that of the activity
    refine tells_mapError ((cascade_tells result shows a.subActivities none s subs).mono ?_)
    intro told y t siblings
    exact ⟨y, siblings, rfl⟩
  have shown : TellsOnly (· = [])
      ((present a result).mapError (failureOf flow a .execution)) :=
    (silent_joins.showing fun _ _ => True).mapError (present_tells a result)
  refine tells_bind below ?_ ?_
  · rintro told _ u ⟨y, siblings, hy⟩
    cases y with
    | error e => contradiction
    | ok _ =>
      refine tells_bind (shown u) ?_ ?_
      · rintro _ _ v rfl
        refine (conclude_tells place a result shows v).mono ?_
        rintro _ _ t ⟨rfl, rfl⟩
        exact .completed siblings
      · rintro _ e v rfl
        rw [List.append_nil]
        exact .unpresented siblings
  · rintro told e u ⟨y, siblings, hy⟩
    cases y with
    | ok _ => contradiction
    | error e' =>
      obtain rfl := Except.error.inj hy
      exact .stopped siblings

theorem settle_tells (result : Json) (shows : Bool)
    (subs : ∀ k ∈ a.subActivities, TellsStory flow k) (s : State) :
    (settle flow (execute flow) place a result shows s).Tells
      (fun told x t => ∃ down, told = ⟨place, .settled result⟩ :: down
        ∧ HandedDown flow place a result down x t) s := by
  refine tells_modify_bind (trail_settle ..) ?_
  refine (handDown_tells result shows subs _).mono ?_
  intro down x t handed
  exact ⟨down, rfl, handed⟩

/-! ## §4. Whole runs. -/

theorem runActivity_tells (before : Inherited) (shows : Bool)
    (callees : ∀ k, RunsBefore a k → TellsStory flow k)
    (subs : ∀ k ∈ a.subActivities, TellsStory flow k) (s : State) :
    (runActivity flow (execute flow) place a before shows s).Tells (Ran flow place a) s := by
  unfold runActivity
  cases hs : a.strategy with
  -- what is inactive fails before anything of it happens
  | none => exact tells_fail (.unsettled .nil)
  | some strategy =>
    refine tells_bind (resultFor_tells hs callees before s) ?_ ?_
    · rintro upTo result u ⟨opening, dispatched⟩
      have dispatched := dispatched result rfl
      refine tells_bind (settle_tells result shows subs u) ?_ ?_
      · rintro _ _ v ⟨down, rfl, handed⟩
        refine tells_pure ?_
        rw [List.append_nil]
        exact .finished opening dispatched handed
      · rintro _ e v ⟨down, rfl, handed⟩
        exact .unfinished opening dispatched handed
    · rintro upTo e t ⟨opening, _⟩
      exact .unsettled opening

/-- What is between the start and the end of a run, with both. -/
theorem traced_tells (ha : flow.arena[place]? = some a) {r : Run State ActivityFailure Json}
    (hr : ∀ s, (r s).Tells (Ran flow place a) s) (before : Inherited) (s : State) :
    (traced place before r s).Tells (Story flow place before) s := by
  refine tells_modify_bind (State.trail_mark ..) ?_
  generalize s.mark place (.entered before) = u
  have ran : ((attempt r : Run State ActivityFailure (Except ActivityFailure Json)) u).Tells
      (fun told x t => ∃ y, x = .ok y ∧ Ran flow place a told y t) u :=
    tells_attempt ((hr u).mono fun told y t ran => ⟨y, rfl, ran⟩)
  refine tells_bind ran ?_ ?_
  · rintro told outcome v ⟨y, hy, ran⟩
    obtain rfl := Except.ok.inj hy
    cases outcome with
    | ok result =>
      refine tells_pure ?_
      rw [List.append_nil]
      exact .ended ha ran
    | error e => exact tells_modify_bind (State.trail_mark ..) (tells_fail (.failed ha ran))
  · -- an attempt does not fail
    rintro _ _ _ ⟨_, h, _⟩
    contradiction

/-- **Every run of an activity tells its story**, whatever the answers are and whatever others do
while it waits. -/
theorem execute_tells (ho : Orderly flow) :
    ∀ place, place < flow.arena.length → TellsStory flow place := by
  intro place
  -- by the order of calls the stories of callees are known
  induction place using (Flow.calls_wellFounded ho).induction with
  | _ place ih =>
    intro hlt before shows s
    have ha : flow.arena[place]? = some flow.arena[place] := List.getElem?_eq_getElem hlt
    have callees : ∀ k ∈ flow.arena[place].callees, TellsStory flow k := by
      intro k hk
      have hc : flow.Calls place k := ⟨_, ha, hk⟩
      obtain ⟨b, hb⟩ := Flow.exists_of_calls ho hc
      exact ih k hc (List.getElem?_eq_some_iff.mp hb).1
    rw [execute_eq ho ha]
    refine traced_tells ha (runActivity_tells before shows ?_ ?_) before s
    · rintro k (hk | hk)
      · exact callees k (Activity.mem_callees.mpr (.inl hk))
      · exact callees k (Activity.mem_callees.mpr (.inr (.inl hk)))
    · intro k hk
      exact callees k (Activity.mem_callees.mpr (.inr (.inr hk)))

end Pageflow.Run
