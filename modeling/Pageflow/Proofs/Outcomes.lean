/-
  Pageflow.Proofs.Outcomes — what comes of the call of an activity.

  From its call on an activity does nothing but wait for the replies to the questions of its
  strategy.  Then its result is settled, if these replies lead the strategy to it, or the activity
  fails.  So the chronicle of every operation is accounted for: whatever happens besides, each call
  of a strategy is followed by its replies and these by the mark that they lead to.  Only an
  external call ends where the call ends, and fails if that fails.

  Main definitions: `CallGoes`, `AccountedFor`, `CallAccounted` and `FollowedUp`.
  Main statements: `AccountedFor.cause`, `execute_accounts`, `externalCall_accounts`,
  `operation_accounts` and `OperationAccounted.followedUp`.
-/
import Pageflow.Proofs.Chronicle
import Pageflow.Proofs.Session
import Pageflow.Proofs.Steps

namespace Pageflow.Run

open Pageflow.Flow (Activity Orderly Strategy)

variable {flow : Flow} {place : Nat} {a : Activity} {ε α : Type}

/-! ## §1. Calls and what follows. -/

/-- The mark tells nothing of a strategy that is the activity's own: it says neither that such a
strategy is called nor, unless the call is skipped, that there is a result. -/
def IsPlain (flow : Flow) (m : Mark) : Prop :=
  ∀ a, flow.arena[m.place]? = some a → a.isReference = false →
    m.stage ≠ .called ∧ (a.skips = false → ∀ result, m.stage ≠ .settled result)

/-- The strategy of the activity can be called so that these replies lead to this outcome. -/
def CallGoes (flow : Flow) (a : Activity) (replies : List Reply)
    (x : Except ExecutionError Json) : Prop :=
  ∃ strategy arguments s t, a.strategy = some strategy
    ∧ (callStrategy (execute flow) strategy arguments s).Goes replies x t

/-- The stage after a call with this outcome. -/
def Stage.after : Except ε Json → Stage
  | .ok result => .settled result
  | .error _ => .failed

/-- Every call of a strategy is followed by the replies to it, and these by the mark of the outcome
that they lead to; and there are no other marks of results than these. -/
inductive AccountedFor (flow : Flow) : List Move → Prop
  | nil : AccountedFor flow []
  | reply {r : Reply} {rest : List Move} (h : AccountedFor flow rest) :
      AccountedFor flow (.reply r :: rest)
  | mark {m : Mark} {rest : List Move} (plain : IsPlain flow m) (h : AccountedFor flow rest) :
      AccountedFor flow (.mark m :: rest)
  | call {place : Nat} {a : Activity} {replies : List Reply} {x : Except ExecutionError Json}
      {rest : List Move} (ha : flow.arena[place]? = some a) (own : a.isReference = false)
      (goes : CallGoes flow a replies x) (h : AccountedFor flow rest) :
      AccountedFor flow (.mark ⟨place, .called⟩
        :: (replies.map .reply ++ .mark ⟨place, .after x⟩ :: rest))

/-- A call with this outcome has ended, and nothing has come of it so far; before it everything is
accounted for. -/
def Ended (flow : Flow) (place : Nat) (a : Activity) (x : Except ExecutionError Json)
    (moves : List Move) : Prop :=
  ∃ first replies, AccountedFor flow first ∧ CallGoes flow a replies x
    ∧ moves = first ++ .mark ⟨place, .called⟩ :: replies.map .reply

theorem Stage.after_ne_called (x : Except ε Json) : Stage.after x ≠ .called := by
  cases x <;> exact fun h => by contradiction

theorem isPlain_of_stage {m : Mark} (call : m.stage ≠ .called)
    (result : ∀ r, m.stage ≠ .settled r) : IsPlain flow m := fun _ _ _ => ⟨call, fun _ => result⟩

theorem isPlain_failed : IsPlain flow ⟨place, .failed⟩ :=
  isPlain_of_stage (fun h => by contradiction) fun _ h => by contradiction

/-- A reference has no strategy of its own. -/
theorem isPlain_of_reference (ha : flow.arena[place]? = some a) (reference : a.isReference = true)
    (stage : Stage) : IsPlain flow ⟨place, stage⟩ := by
  intro b hb own
  rw [Option.some.inj (hb.symm.trans ha), reference] at own
  contradiction

/-- If the call is skipped, the outcome is not that of a call. -/
theorem isPlain_of_skips (ha : flow.arena[place]? = some a) (skips : a.skips = true)
    (x : Except ε Json) : IsPlain flow ⟨place, .after x⟩ := by
  intro b hb _
  refine ⟨Stage.after_ne_called x, fun called => ?_⟩
  rw [Option.some.inj (hb.symm.trans ha), skips] at called
  contradiction

theorem Stage.isOk_of_after {δ : Type} {x : Except ε Json} {y : Except δ Json}
    (h : Stage.after x = Stage.after y) : x.isOk = y.isOk := by
  cases x <;> cases y <;> first | rfl | contradiction

theorem AccountedFor.append {first last : List Move} :
    AccountedFor flow first → AccountedFor flow last → AccountedFor flow (first ++ last)
  | .nil, h' => h'
  | .reply h, h' => .reply (h.append h')
  | .mark plain h, h' => .mark plain (h.append h')
  | .call ha own goes h, h' => by
      rw [List.cons_append, List.append_assoc, List.cons_append]
      exact .call ha own goes (h.append h')

theorem accounted_composed (flow : Flow) : Composed (AccountedFor flow) where
  nil := .nil
  reply _ := .reply .nil
  append := AccountedFor.append

theorem accounted_mark {m : Mark} (plain : IsPlain flow m) : AccountedFor flow [.mark m] :=
  .mark plain .nil

/-- What comes of a call accounts for it. -/
theorem Ended.accounted {x : Except ExecutionError Json} {moves : List Move}
    (h : Ended flow place a x moves) (ha : flow.arena[place]? = some a)
    (own : a.isReference = false) : AccountedFor flow (moves ++ [.mark ⟨place, .after x⟩]) := by
  obtain ⟨first, replies, before, goes, rfl⟩ := h
  rw [List.append_assoc, List.cons_append]
  exact before.append (.call ha own goes .nil)

theorem Ended.prepend {x : Except ExecutionError Json} {before moves : List Move}
    (hb : AccountedFor flow before) (h : Ended flow place a x moves) :
    Ended flow place a x (before ++ moves) := by
  obtain ⟨first, replies, hf, goes, rfl⟩ := h
  exact ⟨before ++ first, replies, hb.append hf, goes, (List.append_assoc ..).symm⟩

/-! ## §2. Reading a chronicle. -/

/-- A chronicle that does not go on with a reply. -/
def Unanswered (moves : List Move) : Prop := ∀ r rest, moves ≠ .reply r :: rest

theorem unanswered_mark (m : Mark) (rest : List Move) : Unanswered (.mark m :: rest) :=
  fun _ _ h => Move.noConfusion (List.cons.inj h).1

/-- The replies at the start of a chronicle, up to the first mark, are determined. -/
theorem replies_inj : ∀ {replies replies' : List Reply} {rest rest' : List Move},
    Unanswered rest → Unanswered rest' →
      replies.map .reply ++ rest = replies'.map .reply ++ rest' → replies = replies' ∧ rest = rest'
  | [], [], _, _, _, _, h => ⟨rfl, h⟩
  | [], _ :: _, _, _, h, _, heq => absurd heq (h _ _)
  | _ :: _, [], _, _, _, h, heq => absurd heq.symm (h _ _)
  | _ :: _, _ :: _, _, _, h, h', heq => by
      obtain ⟨head, tail⟩ := List.cons.inj heq
      obtain ⟨rfl, rest⟩ := replies_inj h h' tail
      exact ⟨congrArg (· :: _) (Move.reply.inj head), rest⟩

/-- A mark in a chronicle that starts with replies stands behind them. -/
theorem mark_behind_replies {m : Mark} :
    ∀ {replies : List Reply} {rest before after : List Move},
      replies.map .reply ++ rest = before ++ .mark m :: after →
        ∃ more, before = replies.map .reply ++ more ∧ rest = more ++ .mark m :: after
  | [], _, before, _, h => ⟨before, rfl, h⟩
  | _ :: _, _, [], _, h => by
      obtain ⟨head, _⟩ := List.cons.inj h
      contradiction
  | r :: _, _, _ :: _, _, h => by
      obtain ⟨rfl, tail⟩ := List.cons.inj h
      obtain ⟨more, rfl, hrest⟩ := mark_behind_replies tail
      exact ⟨more, rfl, hrest⟩

/-- **A call, wherever it stands, is followed by what its replies lead to.** -/
theorem AccountedFor.outcome {moves : List Move} (h : AccountedFor flow moves)
    (ha : flow.arena[place]? = some a) (own : a.isReference = false) {replies : List Reply}
    {after : List Move} (unanswered : Unanswered after) :
    ∀ {before : List Move},
      moves = before ++ .mark ⟨place, .called⟩ :: (replies.map .reply ++ after) →
      ∃ x rest, CallGoes flow a replies x ∧ after = .mark ⟨place, .after x⟩ :: rest := by
  induction h with
  | nil =>
    intro before heq
    cases before <;> contradiction
  | reply _ ih =>
    intro before heq
    cases before with
    | nil => exact absurd (List.cons.inj heq).1 (fun h => by contradiction)
    | cons _ before => exact ih (List.cons.inj heq).2
  | mark plain _ ih =>
    intro before heq
    cases before with
    | nil =>
      obtain rfl := Move.mark.inj (List.cons.inj heq).1
      exact absurd rfl (plain a ha own).1
    | cons _ before => exact ih (List.cons.inj heq).2
  | @call place' a' replies' x rest ha' _ goes _ ih =>
    intro before heq
    cases before with
    | nil =>
      -- it is the call at hand: its replies are these, and the next mark is that of its outcome
      obtain ⟨head, tail⟩ := List.cons.inj heq
      obtain rfl := congrArg Mark.place (Move.mark.inj head)
      obtain rfl : a' = a := Option.some.inj (ha'.symm.trans ha)
      obtain ⟨rfl, rfl⟩ := replies_inj (unanswered_mark _ _) unanswered tail
      exact ⟨x, rest, goes, rfl⟩
    | cons _ before =>
      obtain ⟨more, rfl, hrest⟩ := mark_behind_replies (List.cons.inj heq).2
      cases more with
      | nil =>
        have stage := congrArg Mark.stage (Move.mark.inj (List.cons.inj hrest).1)
        exact absurd stage (Stage.after_ne_called x)
      | cons _ more => exact ih (List.cons.inj hrest).2

/-- **A result, wherever it is settled, is what the replies before it lead to**, unless the call is
skipped. -/
theorem AccountedFor.cause {moves : List Move} (h : AccountedFor flow moves)
    (ha : flow.arena[place]? = some a) (own : a.isReference = false) (called : a.skips = false)
    {result : Json} {rest : List Move} :
    ∀ {before : List Move}, moves = before ++ .mark ⟨place, .settled result⟩ :: rest →
      ∃ earlier replies, CallGoes flow a replies (.ok result)
        ∧ before = earlier ++ .mark ⟨place, .called⟩ :: replies.map .reply := by
  -- what stands before a later part of the chronicle stands before it in the whole as well
  have prepend (first : List Move) {before : List Move}
      (h : ∃ earlier replies, CallGoes flow a replies (.ok result)
        ∧ before = earlier ++ .mark ⟨place, .called⟩ :: replies.map .reply) :
      ∃ earlier replies, CallGoes flow a replies (.ok result)
        ∧ first ++ before = earlier ++ .mark ⟨place, .called⟩ :: replies.map .reply := by
    obtain ⟨earlier, replies, goes, rfl⟩ := h
    exact ⟨first ++ earlier, replies, goes, (List.append_assoc ..).symm⟩
  induction h with
  | nil =>
    intro before heq
    cases before <;> contradiction
  | reply _ ih =>
    intro before heq
    cases before with
    | nil => exact absurd (List.cons.inj heq).1 (fun h => by contradiction)
    | cons first before => exact prepend [first] (ih (List.cons.inj heq).2)
  | mark plain _ ih =>
    intro before heq
    cases before with
    | nil =>
      obtain rfl := Move.mark.inj (List.cons.inj heq).1
      exact absurd rfl ((plain a ha own).2 called result)
    | cons first before => exact prepend [first] (ih (List.cons.inj heq).2)
  | @call place' a' replies x rest' ha' _ goes _ ih =>
    intro before heq
    cases before with
    | nil =>
      have stage := congrArg Mark.stage (Move.mark.inj (List.cons.inj heq).1)
      contradiction
    | cons first before =>
      obtain ⟨head, tail⟩ := List.cons.inj heq
      obtain rfl := head
      obtain ⟨more, rfl, hrest⟩ := mark_behind_replies tail
      cases more with
      | nil =>
        -- the mark is that of the outcome of this call
        obtain ⟨rfl, stage⟩ := Mark.mk.inj (Move.mark.inj (List.cons.inj hrest).1)
        obtain rfl : a' = a := Option.some.inj (ha'.symm.trans ha)
        cases x with
        | ok r =>
          obtain rfl := Stage.settled.inj stage
          exact ⟨[], replies, goes, by rw [List.append_nil, List.nil_append]⟩
        | error e => contradiction
      | cons second more =>
        obtain ⟨rfl, later⟩ := List.cons.inj hrest
        have found := prepend (.mark ⟨place', .called⟩ :: (replies.map .reply
          ++ [.mark ⟨place', .after x⟩])) (ih later)
        rwa [List.cons_append, List.append_assoc] at found

/-! ## §3. Up to the result. -/

section Activity

variable {strategy : Strategy} {before : Inherited} {shows : Bool}

/-- The chronicle of a run is accounted for, once what comes of its call is added. -/
def Awaited (flow : Flow) (place : Nat) (moves : List Move) (x : Except ε Json) : Prop :=
  AccountedFor flow (moves ++ [.mark ⟨place, .after x⟩])

theorem awaited_of_accounted {moves : List Move} {x : Except ε Json}
    (h : AccountedFor flow moves) (plain : IsPlain flow ⟨place, .after x⟩) :
    Awaited flow place moves x :=
  h.append (accounted_mark plain)

/-- The call of a strategy puts no mark on the trail unless it has a target run. -/
theorem callStrategy_replies (own : strategy.isReference = false) (arguments : Arguments) :
    ChroniclesOnly (fun moves => ∃ replies : List Reply, moves = replies.map .reply)
      (callStrategy (execute flow) strategy arguments) := by
  refine callStrategy_closed (replies_composed.showing fun _ _ => True).toReading arguments ?_
  intro k before hk
  cases strategy <;> contradiction

/-- **From its call on an activity only waits for replies**, until there is an outcome. -/
theorem dispatch_chronicles (hs : a.strategy = some strategy) (own : a.isReference = false)
    (arguments : Arguments) (s : State) :
    (dispatch (execute flow) place a strategy arguments s).Chronicles
      (fun moves x _ => Ended flow place a x moves) s := by
  rw [Activity.isReference, hs] at own
  refine chronicles_modify_bind (State.trail_mark ..) ?_
  refine chronicles_modify_bind (List.append_nil _).symm ?_
  refine (callStrategy_replies own arguments _).goes.mono ?_
  rintro _ x t ⟨⟨replies, rfl⟩, goes⟩
  rw [repliesOf_replies] at goes
  exact ⟨[], replies, .nil, ⟨strategy, arguments, _, t, hs, goes⟩, rfl⟩

/-- The chronicles of all runs of the activity at this place are accounted for. -/
def AccountsAt (flow : Flow) (place : Nat) : Prop :=
  ∀ before shows, ChroniclesOnly (AccountedFor flow) (execute flow place before shows)

theorem accounted_showing (flow : Flow) :
    Showing (fun _ _ => True) (ChroniclesOnly (AccountedFor flow) : Property State) :=
  (accounted_composed flow).showing _

theorem mark_accounted {stage : Stage} (plain : IsPlain flow ⟨place, stage⟩) :
    ChroniclesOnly (AccountedFor flow) (mark place stage : Run State ε Unit) :=
  chroniclesOnly_modify (fun _ => State.trail_mark ..) (accounted_mark plain)

theorem gate_accounted (flow : Flow) (place : Nat) (a : Activity) :
    ChroniclesOnly (AccountedFor flow) (gate flow place a) := by
  have showing := accounted_showing flow
  intro s
  rw [gate, get_bind_apply]
  cases unmet? flow s a with
  | none =>
    exact mark_accounted (isPlain_of_stage (fun h => by contradiction) fun _ h => by contradiction)
      s
  | some message => exact showing.bind (alert_closed showing _) (fun _ => showing.fail _) s

/-- The result of an activity is that of its call, or there was none. -/
theorem resultOf_awaited (ha : flow.arena[place]? = some a) (hs : a.strategy = some strategy)
    (target : ∀ k, a.target? = some k → AccountsAt flow k) (arguments : Arguments) (s : State) :
    (resultOf flow (execute flow) place a strategy arguments s).Chronicles
      (fun moves x _ => Awaited flow place moves x) s := by
  have showing := accounted_showing flow
  cases reference : a.isReference with
  | true =>
    have call : ChroniclesOnly (AccountedFor flow)
        (mark place .called : Run State ExecutionError Unit) :=
      mark_accounted (isPlain_of_reference ha reference _)
    refine (resultOf_closed showing (fun _ => call) arguments ?_ s).mono ?_
    · intro k before hk
      refine target k ?_ before false
      rw [Activity.target?, hs]
      exact hk
    · intro moves x _ h
      exact awaited_of_accounted h (isPlain_of_reference ha reference _)
  | false =>
    unfold resultOf
    split
    next skips =>
      refine ((showing.bind (showing.note _) fun _ => showing.pure _) s).mono ?_
      intro moves x _ h
      exact awaited_of_accounted h (isPlain_of_skips ha skips x)
    next =>
      have call : ((attempt (dispatch (execute flow) place a strategy arguments) :
          Run State ActivityFailure (Except ExecutionError Json)) s).Chronicles
            (fun moves y _ => ∃ x, y = .ok x ∧ Ended flow place a x moves) s := by
        refine chronicles_attempt ((dispatch_chronicles hs reference arguments s).mono ?_)
        intro moves x _ h
        exact ⟨x, rfl, h⟩
      refine chronicles_bind call ?_ ?_
      · rintro moves outcome u ⟨x, hx, ended⟩
        obtain rfl := Except.ok.inj hx
        have accounted := ended.accounted ha reference
        cases outcome with
        | ok result =>
          refine chronicles_pure ?_
          rwa [List.append_nil]
        | error e =>
          -- the alert leaves no mark
          refine chronicles_modify_bind (List.append_nil _).symm (chronicles_fail ?_)
          rw [List.map_nil, List.append_nil, List.append_nil]
          exact accounted
      · rintro moves e u ⟨x, hx, _⟩
        contradiction

/-- What comes first may have any chronicle that is accounted for. -/
theorem awaited_bind {β : Type} {r : Run State ActivityFailure β}
    {next : β → Run State ActivityFailure Json} (hr : ChroniclesOnly (AccountedFor flow) r)
    (hn : ∀ x s, (next x s).Chronicles (fun moves x _ => Awaited flow place moves x) s)
    (s : State) : ((r >>= next) s).Chronicles (fun moves x _ => Awaited flow place moves x) s := by
  refine chronicles_bind (hr s) ?_ fun moves e _ h => awaited_of_accounted h isPlain_failed
  intro moves x u first
  refine (hn x u).mono ?_
  intro more y _ h
  unfold Awaited at h ⊢
  rw [List.append_assoc]
  exact first.append h

theorem resultFor_awaited (ha : flow.arena[place]? = some a) (hs : a.strategy = some strategy)
    (callees : ∀ k ∈ a.callees, AccountsAt flow k) (before : Inherited) (s : State) :
    (resultFor flow (execute flow) place a strategy before s).Chronicles
      (fun moves x _ => Awaited flow place moves x) s := by
  have showing := accounted_showing flow
  have arguments : ChroniclesOnly (AccountedFor flow) (argumentsOf (execute flow) a before) := by
    refine argumentsOf_closed showing.toReading (fun _ _ => trivial) ?_
    intro k hk
    exact callees k (Activity.mem_callees.mpr (.inl hk)) {} false
  refine awaited_bind (gate_accounted flow place a) (fun _ => ?_) s
  refine awaited_bind (showing.mapError arguments) fun arguments => ?_
  refine awaited_bind (preProcessed_closed showing.toLogging flow arguments) fun arguments => ?_
  refine resultOf_awaited ha hs ?_ arguments
  intro k hk
  exact callees k (Activity.mem_callees.mpr (.inr (.inl hk)))

/-! ## §4. Whole runs. -/

theorem handDown_accounted (callees : ∀ k ∈ a.callees, AccountsAt flow k) (result : Json)
    (shows : Bool) :
    ChroniclesOnly (AccountedFor flow) (handDown flow (execute flow) place a result shows) := by
  refine handDown_closed (accounted_showing flow) (fun _ ui => ?_) ?_ ?_
  · exact chroniclesOnly_silent (accounted_composed flow) fun s => State.trail_modifyService s _ _
  · refine chroniclesOnly_modify (fun s => trail_complete place a result s) (accounted_mark ?_)
    exact isPlain_of_stage (fun h => by contradiction) fun _ h => by contradiction
  · intro k hk before
    exact callees k (Activity.mem_callees.mpr (.inr (.inr hk))) before shows

/-- A run that fails before its result is settled still awaits what comes of its call. -/
theorem runActivity_accounted (ha : flow.arena[place]? = some a)
    (callees : ∀ k ∈ a.callees, AccountsAt flow k) (before : Inherited) (shows : Bool)
    (s : State) :
    (runActivity flow (execute flow) place a before shows s).Chronicles
      (fun moves x _ => (∀ v, x = .ok v → AccountedFor flow moves)
        ∧ ∀ e, x = .error e → AccountedFor flow (moves ++ [.mark ⟨place, .failed⟩])) s := by
  have fails {moves : List Move} {e : ActivityFailure}
      (h : AccountedFor flow (moves ++ [.mark ⟨place, .failed⟩])) :
      (∀ v : Json, Except.error e = .ok v → AccountedFor flow moves)
        ∧ ∀ e', (Except.error e : Except ActivityFailure Json) = .error e' →
          AccountedFor flow (moves ++ [.mark ⟨place, .failed⟩]) :=
    ⟨fun _ h => by contradiction, fun _ _ => h⟩
  have failed : AccountedFor flow [.mark ⟨place, .failed⟩] := accounted_mark isPlain_failed
  unfold runActivity
  cases hs : a.strategy with
  | none => exact chronicles_fail (fails failed)
  | some strategy =>
    refine chronicles_bind (resultFor_awaited ha hs callees before s) ?_ ?_
    · intro moves result u awaited
      have settled : ∀ s : State, (settle flow (execute flow) place a result shows s).Chronicles
          (fun more _ _ => AccountedFor flow (moves ++ more)) s := by
        intro s
        refine chronicles_modify_bind (trail_settle ..) ?_
        refine (handDown_accounted callees result shows _).mono ?_
        intro more _ _ h
        have both := AccountedFor.append awaited h
        rwa [List.append_assoc] at both
      refine chronicles_bind (settled u) ?_ ?_
      · intro more _ v h
        refine chronicles_pure ⟨fun _ _ => ?_, fun _ h => by contradiction⟩
        rwa [List.append_nil]
      · intro more e v h
        exact fails (h.append failed)
    · intro moves e t awaited
      exact fails awaited

/-- What a run awaits has come when it has failed. -/
theorem traced_accounted {r : Run State ActivityFailure Json}
    (hr : ∀ s, (r s).Chronicles (fun moves x _ => (∀ v, x = .ok v → AccountedFor flow moves)
      ∧ ∀ e, x = .error e → AccountedFor flow (moves ++ [.mark ⟨place, .failed⟩])) s)
    (before : Inherited) : ChroniclesOnly (AccountedFor flow) (traced place before r) := by
  intro s
  have entered : IsPlain flow ⟨place, .entered before⟩ :=
    isPlain_of_stage (fun h => by contradiction) fun _ h => by contradiction
  refine chronicles_modify_bind (State.trail_mark ..) ?_
  generalize s.mark place (.entered before) = u
  have ran : ((attempt r : Run State ActivityFailure (Except ActivityFailure Json)) u).Chronicles
      (fun moves x _ => ∃ y, x = .ok y ∧ (∀ v, y = .ok v → AccountedFor flow moves)
        ∧ ∀ e, y = .error e → AccountedFor flow (moves ++ [.mark ⟨place, .failed⟩])) u :=
    chronicles_attempt ((hr u).mono fun moves y _ h => ⟨y, rfl, h⟩)
  refine chronicles_bind ran ?_ ?_
  · rintro moves outcome v ⟨y, hy, ended, failed⟩
    obtain rfl := Except.ok.inj hy
    cases outcome with
    | ok result =>
      refine chronicles_pure ?_
      rw [List.append_nil]
      exact .mark entered (ended result rfl)
    | error e =>
      refine chronicles_modify_bind (State.trail_mark ..) (chronicles_fail ?_)
      rw [List.append_nil]
      exact .mark entered (failed e rfl)
  · -- an attempt does not fail
    rintro _ _ _ ⟨_, h, _⟩
    contradiction

/-- **The chronicle of every run of an activity is accounted for.** -/
theorem execute_accounts (ho : Orderly flow) :
    ∀ place, place < flow.arena.length → AccountsAt flow place := by
  intro place
  -- by the order of calls the chronicles of callees are accounted for
  induction place using (Flow.calls_wellFounded ho).induction with
  | _ place ih =>
    intro hlt before shows s
    have ha : flow.arena[place]? = some flow.arena[place] := List.getElem?_eq_getElem hlt
    have callees : ∀ k ∈ flow.arena[place].callees, AccountsAt flow k := by
      intro k hk
      have hc : flow.Calls place k := ⟨_, ha, hk⟩
      obtain ⟨b, hb⟩ := Flow.exists_of_calls ho hc
      exact ih k hc (List.getElem?_eq_some_iff.mp hb).1
    rw [execute_eq ho ha]
    exact traced_accounted (runActivity_accounted ha callees before shows) before s

end Activity

/-! ## §5. External calls. -/

/-- The chronicle of an external call of the activity at a place: it ends with the call of the
strategy and comes to the same, or there is no result.  Of a reference everything is accounted
for. -/
def CallAccounted (flow : Flow) (place : Nat) (a : Activity) (moves : List Move)
    (x : Except ε Json) : Prop :=
  (AccountedFor flow moves ∧ ∀ result, x = .ok result → a.isReference = true)
    ∨ a.isReference = false ∧ ∃ y, Ended flow place a y moves ∧ y.toOption = x.toOption

section Host

variable {s : State} {service name : String}

theorem CallAccounted.of_error {moves : List Move} {e : ε} (h : AccountedFor flow moves) :
    CallAccounted flow place a moves (.error e) :=
  .inl ⟨h, fun _ h => by contradiction⟩

theorem CallAccounted.prepend {before moves : List Move} {x : Except ε Json}
    (hb : AccountedFor flow before) (h : CallAccounted flow place a moves x) :
    CallAccounted flow place a (before ++ moves) x := by
  rcases h with ⟨h, nothing⟩ | ⟨own, y, ended, same⟩
  · exact .inl ⟨hb.append h, nothing⟩
  · exact .inr ⟨own, y, ended.prepend hb, same⟩

/-- Why a call fails does not count. -/
theorem CallAccounted.of_toOption {δ : Type} {moves : List Move} {x : Except ε Json}
    {y : Except δ Json} (h : CallAccounted flow place a moves x)
    (same : x.toOption = y.toOption) : CallAccounted flow place a moves y := by
  rcases h with ⟨h, nothing⟩ | ⟨own, z, ended, hz⟩
  · refine .inl ⟨h, ?_⟩
    rintro result rfl
    cases x with
    | ok r => exact nothing r rfl
    | error e => contradiction
  · exact .inr ⟨own, z, ended, hz.trans same⟩

/-- The chronicles of the run are those of an external call of the activity at a place. -/
def CallAccounts (flow : Flow) (place : Nat) (a : Activity) (r : Run State ε Json) : Prop :=
  ∀ s, (r s).Chronicles (fun moves x _ => CallAccounted flow place a moves x) s

/-- What comes first may have any chronicle that is accounted for. -/
theorem callAccounts_bind {β : Type} {r : Run State ε β} {next : β → Run State ε Json}
    (hr : ChroniclesOnly (AccountedFor flow) r) (hn : ∀ x, CallAccounts flow place a (next x)) :
    CallAccounts flow place a (r >>= next) := by
  intro s
  refine chronicles_bind (hr s) ?_ fun moves e _ => .of_error
  intro moves x u first
  exact (hn x u).mono fun _ _ _ h => h.prepend first

theorem callAccounts_mapError {δ : Type} {r : Run State ε Json} {f : ε → δ}
    (hr : CallAccounts flow place a r) : CallAccounts flow place a (r.mapError f) := by
  intro s
  refine chronicles_mapError ((hr s).mono ?_)
  intro moves x _ h
  exact h.of_toOption (by cases x <;> rfl)

/-- The mark of a service is no mark on the trail. -/
theorem guarded_callAccounts {r : Run State HostError Json} (hr : CallAccounts flow place a r) :
    CallAccounts flow place a (guarded service name r) := by
  intro s
  cases free : s.running? service with
  | some other =>
    rw [guarded_of_busy free]
    exact ⟨[], (List.append_nil _).symm, .of_error .nil⟩
  | none =>
    rw [guarded_of_free free]
    have occupied : (s.occupy service name).trail = s.trail ++ [] := by
      rw [State.trail_occupy, List.append_nil]
    refine Task.Chronicles.after occupied ((hr _).bind ?_)
    intro moves x u h
    refine ⟨[], by rw [State.trail_release, List.append_nil], ?_⟩
    show CallAccounted flow place a (moves ++ []) x
    rwa [List.append_nil]

/-- **An external call ends where the call of the strategy ends.** -/
theorem callOnly_accounts (ho : Orderly flow) (ha : flow.arena[place]? = some a)
    (c : ExternalCall) : CallAccounts flow place a (callOnly flow c place a) := by
  have showing := accounted_showing flow
  have callees : ∀ k ∈ a.callees, AccountsAt flow k := by
    intro k hk
    obtain ⟨b, hb⟩ := Flow.exists_of_calls ho ⟨a, ha, hk⟩
    exact execute_accounts ho k (List.getElem?_eq_some_iff.mp hb).1
  have arguments : ChroniclesOnly (AccountedFor flow) (callArguments flow c a) :=
    callArguments_closed showing.toReading (fun _ _ => trivial) c fun k hk =>
      callees k (Activity.mem_callees.mpr (.inl hk)) {} false
  unfold callOnly
  cases hs : a.strategy with
  | none => exact fun s => chronicles_fail (.of_error .nil)
  | some strategy =>
    refine callAccounts_bind (showing.mapError arguments) fun arguments =>
      callAccounts_mapError fun s => ?_
    cases reference : a.isReference with
    | true =>
      refine (dispatch_closed showing.toReading ?_ arguments ?_ s).mono ?_
      · exact mark_accounted (isPlain_of_reference ha reference _)
      · intro k before hk
        refine callees k (Activity.mem_callees.mpr (.inr (.inl ?_))) before false
        rw [Activity.target?, hs]
        exact hk
      · exact fun moves x _ h => .inl ⟨h, fun _ _ => reference⟩
    | false =>
      refine (dispatch_chronicles hs reference arguments s).mono ?_
      exact fun moves x _ ended => .inr ⟨reference, x, ended, rfl⟩

/-- What is told of the outcome of a call leaves no mark, and the result stays as it is. -/
theorem told_chronicles (c : ExternalCall) (x : Except HostError Json) (s : State) :
    ((match x with
      | .ok result => pure result
      | .error e => alert (callError c e).message >>= fun _ => fail (callError c e) :
        Run State HostError Json) s).Chronicles
      (fun moves y _ => moves = [] ∧ y.toOption = x.toOption) s := by
  cases x with
  | ok result => exact chronicles_pure ⟨rfl, rfl⟩
  | error e =>
    exact chronicles_modify_bind (List.append_nil _).symm (chronicles_fail ⟨rfl, rfl⟩)

theorem externalCall_accounts (ho : Orderly flow) (c : ExternalCall)
    (known : knownActivity flow c.service c.activity = .ok (place, a)) :
    CallAccounts flow place a (externalCall flow c) := by
  have guarded : CallAccounts flow place a (callGuarded flow c) := by
    have known_service : ChroniclesOnly (AccountedFor flow)
        (ofExcept (knownService flow c.service) : Run State HostError _) :=
      ofExcept_closed (accounted_showing flow).toClosed _
    refine callAccounts_bind known_service fun _ => ?_
    rw [known]
    exact guarded_callAccounts (callOnly_accounts ho (getElem?_of_knownActivity known).2 c)
  intro s
  have attempted : ((attempt (callGuarded flow c) : Run State HostError _) s).Chronicles
      (fun moves x _ => ∃ y, x = .ok y ∧ CallAccounted flow place a moves y) s :=
    chronicles_attempt ((guarded s).mono fun moves y _ h => ⟨y, rfl, h⟩)
  refine chronicles_bind attempted ?_ ?_
  · rintro moves outcome u ⟨y, hy, h⟩
    obtain rfl := Except.ok.inj hy
    refine (told_chronicles c outcome u).mono ?_
    rintro _ x _ ⟨rfl, same⟩
    rw [List.append_nil]
    exact h.of_toOption same.symm
  · -- an attempt does not fail
    rintro _ _ _ ⟨_, h, _⟩
    contradiction

/-- An external call of an activity that is not known calls nothing. -/
theorem externalCall_of_unknown {c : ExternalCall} {e : HostError}
    (unknown : knownActivity flow c.service c.activity = .error e) :
    ChroniclesOnly (AccountedFor flow) (externalCall flow c) := by
  have showing := accounted_showing flow
  have guarded : ChroniclesOnly (AccountedFor flow) (callGuarded flow c) := by
    refine showing.bind (ofExcept_closed showing.toClosed _) fun _ => ?_
    rw [unknown]
    exact showing.fail e
  refine showing.bind (showing.attempt guarded) fun x => ?_
  cases x with
  | ok result => exact showing.pure result
  | error e => exact showing.bind (alert_closed showing _) fun _ => showing.fail _

/-- **The result of an external call is what the replies at its end lead to.** -/
theorem CallAccounted.result {moves : List Move} {x : Except ε Json}
    (h : CallAccounted flow place a moves x) (own : a.isReference = false) {result : Json}
    (hx : x = .ok result) : ∃ earlier replies, CallGoes flow a replies (.ok result)
      ∧ moves = earlier ++ .mark ⟨place, .called⟩ :: replies.map .reply := by
  rcases h with ⟨_, reference⟩ | ⟨_, y, ended, same⟩
  · rw [reference result hx] at own
    contradiction
  · obtain ⟨earlier, replies, _, goes, rfl⟩ := ended
    rw [hx] at same
    cases y with
    | ok r =>
      obtain rfl := Option.some.inj same
      exact ⟨earlier, replies, goes, rfl⟩
    | error e => contradiction

/-- With the mark of its outcome, a call at the end is accounted for like all others. -/
theorem CallAccounted.exists_accounted {moves : List Move} {x : Except ε Json}
    (h : CallAccounted flow place a moves x) (ha : flow.arena[place]? = some a) :
    ∃ more, AccountedFor flow (moves ++ more) := by
  rcases h with ⟨h, _⟩ | ⟨own, y, ended, _⟩
  · exact ⟨[], by rwa [List.append_nil]⟩
  · exact ⟨_, ended.accounted ha own⟩

/-! ## §6. What a host does. -/

theorem start_accounted (service name : String) :
    ChroniclesOnly (AccountedFor flow) (start service name) := by
  intro s
  cases free : s.running? service with
  | some other =>
    rw [start_of_busy free]
    exact ⟨[], (List.append_nil _).symm, .nil⟩
  | none =>
    rw [start_of_free free]
    exact ⟨[], by rw [State.trail_occupy, List.append_nil], .nil⟩

/-- **The chronicle of every operation but an external call is accounted for.** -/
theorem operation_accounted (ho : Orderly flow) {op : Operation} (other : ∀ c, op ≠ .call c) :
    ChroniclesOnly (AccountedFor flow) (op.run flow) := by
  have composed := accounted_composed flow
  have showing := accounted_showing flow
  have closed := showing.toClosed
  have start : ∀ service name, ChroniclesOnly (AccountedFor flow) (start service name) :=
    start_accounted
  have release : ∀ service, ChroniclesOnly (AccountedFor flow)
      (modify (State.release service) : Run State HostError Unit) := fun service =>
    chroniclesOnly_silent composed fun s => State.trail_release s service
  have failed : ∀ e, ChroniclesOnly (AccountedFor flow)
      (modify (State.recordFailed e) : Run State HostError Unit) := fun e =>
    chroniclesOnly_silent composed fun s => State.trail_emit _ s
  have run : ∀ {service name place a} (shows : Bool),
      knownActivity flow service name = .ok (place, a) →
      ChroniclesOnly (AccountedFor flow) (execute flow place {} shows) := fun shows known =>
    execute_accounts ho _
      (List.getElem?_eq_some_iff.mp (getElem?_of_knownActivity known).2).1 {} shows
  have activity : ∀ service name shows,
      ChroniclesOnly (AccountedFor flow) (executeActivity flow service name shows) :=
    fun _ _ shows => executeActivity_of_known closed _ _ (start _ _) (release _) failed
      fun _ _ => run shows
  cases op with
  | activity service name shows => exact closed.bind (activity _ _ _) fun _ => closed.pure _
  | sequence service name =>
    exact closed.bind (executeSequence_of_known closed _ _ (start _ _) (release _) failed
      fun _ _ _ => run true) fun _ => closed.pure _
  | autostart => exact autostart_closed showing.toLogging fun _ _ => activity _ _ true
  | call c => exact absurd rfl (other c)

/-- The chronicle of an operation is accounted for, or it is that of an external call which ends like
the operation. -/
def OperationAccounted (flow : Flow) (op : Operation) (moves : List Move)
    (x : Except HostError Unit) : Prop :=
  AccountedFor flow moves ∨ ∃ c place a, ∃ y : Except HostError Json, op = .call c
    ∧ flow.arena[place]? = some a ∧ CallAccounted flow place a moves y ∧ y.isOk = x.isOk

/-- **The chronicle of every operation is accounted for**, but for the end of external calls. -/
theorem operation_accounts (ho : Orderly flow) (op : Operation) (s : State) :
    (op.run flow s).Chronicles (fun moves x _ => OperationAccounted flow op moves x) s := by
  by_cases outside : ∃ c, op = .call c
  · obtain ⟨c, rfl⟩ := outside
    have closed := (accounted_showing flow).toClosed
    cases known : knownActivity flow c.service c.activity with
    | error e =>
      have accounted : ChroniclesOnly (AccountedFor flow) ((Operation.call c).run flow) :=
        closed.bind (externalCall_of_unknown known) fun _ => closed.pure _
      exact (accounted s).mono fun _ _ _ => .inl
    | ok found =>
      have ha := (getElem?_of_knownActivity known).2
      refine chronicles_bind (externalCall_accounts ho c known s) ?_ ?_
      · intro moves result u h
        refine chronicles_pure ?_
        rw [List.append_nil]
        exact .inr ⟨c, _, _, _, rfl, ha, h, rfl⟩
      · exact fun moves e u h => .inr ⟨c, _, _, _, rfl, ha, h, rfl⟩
  · exact (operation_accounted ho (fun c hc => outside ⟨c, hc⟩) s).mono fun _ _ _ => .inl

theorem OperationAccounted.exists_accounted {op : Operation} {moves : List Move}
    {x : Except HostError Unit} (h : OperationAccounted flow op moves x) :
    ∃ more, AccountedFor flow (moves ++ more) := by
  rcases h with h | ⟨_, _, _, _, _, ha, h, _⟩
  · exact ⟨[], by rwa [List.append_nil]⟩
  · exact h.exists_accounted ha

/-- In this chronicle the activity at a place is called, which has a strategy of its own, and gets
these replies and no more; what happens then comes last. -/
def CallAnswered (flow : Flow) (place : Nat) (replies : List Reply) (after moves : List Move) :
    Prop :=
  ∃ a before, flow.arena[place]? = some a ∧ a.isReference = false ∧ Unanswered after
    ∧ moves = before ++ .mark ⟨place, .called⟩ :: (replies.map .reply ++ after)

/-- After an external call of the activity there is nothing; and it fails if its strategy does. -/
theorem CallAccounted.outcome {p : Nat} {b : Activity} {moves : List Move} {x : Except ε Json}
    (h : CallAccounted flow p b moves x) (hb : flow.arena[p]? = some b) {replies : List Reply}
    {after : List Move} (answered : CallAnswered flow place replies after moves) :
    ∃ a y, flow.arena[place]? = some a ∧ a.isReference = false ∧ CallGoes flow a replies y
      ∧ ((∃ rest, after = .mark ⟨place, .after y⟩ :: rest) ∨ after = [] ∧ y.isOk = x.isOk) := by
  obtain ⟨a, before, ha, own, unanswered, heq⟩ := answered
  rcases h with ⟨h, _⟩ | ⟨own', y, ended, same⟩
  · obtain ⟨y, rest, goes, rfl⟩ := h.outcome ha own unanswered heq
    exact ⟨a, y, ha, own, goes, .inl ⟨rest, rfl⟩⟩
  · -- with the mark that would follow, the call at the end is accounted for like all others
    have accounted := ended.accounted hb own'
    cases after with
    | nil =>
      rw [heq, List.append_assoc, List.cons_append, List.append_assoc] at accounted
      obtain ⟨z, rest, goes, hz⟩ := accounted.outcome ha own (unanswered_mark _ _) rfl
      have stage := congrArg Mark.stage (Move.mark.inj (List.cons.inj hz).1)
      have ends : y.isOk = x.isOk := by
        cases x <;> cases y <;> first | rfl | contradiction
      exact ⟨a, z, ha, own, goes, .inr ⟨rfl, (Stage.isOk_of_after stage.symm).trans ends⟩⟩
    | cons first after =>
      rw [heq, List.append_assoc, List.cons_append, List.append_assoc] at accounted
      obtain ⟨z, rest, goes, hz⟩ := accounted.outcome ha own
        (fun r rest h => unanswered r after (congrArg (· :: after) (List.cons.inj h).1)) rfl
      exact ⟨a, z, ha, own, goes, .inl ⟨after, congrArg (· :: after) (List.cons.inj hz).1⟩⟩

/-- Whatever replies an activity gets, the mark of the outcome that they lead to comes next; or it
has been called from outside, and the operation ends like the call. -/
def FollowedUp (flow : Flow) (op : Operation) (moves : List Move) (x : Except HostError Unit) :
    Prop :=
  ∀ place replies after, CallAnswered flow place replies after moves →
    ∃ a y, flow.arena[place]? = some a ∧ a.isReference = false ∧ CallGoes flow a replies y
      ∧ ((∃ rest, after = .mark ⟨place, .after y⟩ :: rest)
        ∨ (∃ c, op = .call c) ∧ after = [] ∧ y.isOk = x.isOk)

/-- **In every operation, what comes after replies is what they lead to.** -/
theorem OperationAccounted.followedUp {op : Operation} {moves : List Move}
    {x : Except HostError Unit} (h : OperationAccounted flow op moves x) :
    FollowedUp flow op moves x := by
  intro place replies after answered
  rcases h with h | ⟨c, p, b, y, rfl, hb, h, same⟩
  · obtain ⟨a, before, ha, own, unanswered, heq⟩ := answered
    obtain ⟨y, rest, goes, next⟩ := h.outcome ha own unanswered heq
    exact ⟨a, y, ha, own, goes, .inl ⟨rest, next⟩⟩
  · obtain ⟨a, z, ha, own, goes, next⟩ := h.outcome hb answered
    refine ⟨a, z, ha, own, goes, next.imp_right ?_⟩
    rintro ⟨last, ends⟩
    exact ⟨⟨c, rfl⟩, last, ends.trans same⟩

end Host

end Pageflow.Run
