/-
  Pageflow.Proofs.Leading — what leads to the start of a sub-activity.

  An activity that stands below another starts only where the one above it has settled its result
  and, unless it is the first, the one next to it has ended.  That is seen from the story of a run:
  a sub-activity starts in the cascade of the activity above it, while makers, targets and whatever
  a host names stand at the top.  Where several operations take turns the marks of one stay in
  their order, so the same is seen from the trail of a session.

  Main definitions: `Leading`, `InCascade`, `Led` and `AllLed`.
  Main statements: `Led.of_sub`, `Story.allLed`, `Operation.tells_led` and `reaches_led`.
-/
import Pageflow.Proofs.Session
import Pageflow.Proofs.Stories

namespace Pageflow.Run

open Pageflow.Flow (Activity Orderly)

/-! ## §1. What leads to a start. -/

/-- The marks that lead to the start of the sub-activity behind these ones, and the results that it
starts after: the activity above has settled its result, and the last one in front has ended. -/
inductive Leading (p : Nat) : List Nat → List Mark → Inherited → Prop
  | first {parent : Json} : Leading p [] [⟨p, .settled parent⟩] ⟨some parent, none⟩
  | next {front : List Nat} {j : Nat} {parent previous : Json} :
      Leading p (front ++ [j]) [⟨p, .settled parent⟩, ⟨j, .completed previous⟩]
        ⟨some parent, some previous⟩

/-- By this past the activity at place `k` may start after these results: it is a sub-activity of
the one at place `p`, and what leads to its start has happened. -/
def InCascade (flow : Flow) (past : List Mark) (p k : Nat) (before : Inherited) : Prop :=
  ∃ c front behind leading, flow.arena[p]? = some c ∧ c.subActivities = front ++ k :: behind
    ∧ Leading p front leading before ∧ leading.Sublist past

/-- The activity at a place has started. -/
def HasStarted (past : List Mark) (place : Nat) : Prop := ∃ before, ⟨place, .entered before⟩ ∈ past

/-- What a trail may go on with. -/
inductive Led (flow : Flow) (past : List Mark) : Mark → Prop
  /-- A mark of an activity at the top. -/
  | top {place : Nat} {stage : Stage} {a : Activity} (ha : flow.arena[place]? = some a)
      (ht : a.parent = none) : Led flow past ⟨place, stage⟩
  /-- The start of a sub-activity that the past leads to. -/
  | start {p k : Nat} {before : Inherited} (h : InCascade flow past p k before) :
      Led flow past ⟨k, .entered before⟩
  /-- Any other mark of an activity that has started. -/
  | started {place : Nat} {stage : Stage} (h : HasStarted past place)
      (later : ∀ before, stage ≠ .entered before) : Led flow past ⟨place, stage⟩

/-- Each of these marks may go on with what was there before it. -/
def AllLed (flow : Flow) : List Mark → List Mark → Prop
  | _, [] => True
  | past, m :: more => Led flow past m ∧ AllLed flow (past ++ [m]) more

variable {flow : Flow} {past past' : List Mark} {place p : Nat} {a : Activity}

theorem Leading.settled {front : List Nat} {leading : List Mark} {parent : Json}
    {previous : Option Json} (leads : Leading p front leading ⟨some parent, previous⟩)
    (h : leading.Sublist past) : ⟨p, .settled parent⟩ ∈ past := by
  refine h.subset ?_
  cases leads <;> exact List.mem_cons_self

theorem HasStarted.mono (h : HasStarted past place) (hp : past.Sublist past') :
    HasStarted past' place := by
  obtain ⟨before, h⟩ := h
  exact ⟨before, hp.subset h⟩

theorem HasStarted.append (h : HasStarted past place) (more : List Mark) :
    HasStarted (past ++ more) place := h.mono (List.sublist_append_left ..)

theorem hasStarted_concat (past : List Mark) (place : Nat) (before : Inherited) :
    HasStarted (past ++ [⟨place, .entered before⟩]) place :=
  ⟨before, List.mem_append_right _ (List.mem_singleton_self _)⟩

theorem InCascade.mono {k : Nat} {before : Inherited} (h : InCascade flow past p k before)
    (hp : past.Sublist past') : InCascade flow past' p k before := by
  obtain ⟨c, front, behind, leading, hc, hk, leads, h⟩ := h
  exact ⟨c, front, behind, leading, hc, hk, leads, h.trans hp⟩

theorem Led.mono {m : Mark} (hp : past.Sublist past') : Led flow past m → Led flow past' m
  | .top ha ht => .top ha ht
  | .start h => .start (h.mono hp)
  | .started h later => .started (h.mono hp) later

theorem AllLed.mono : ∀ {told past past' : List Mark}, past.Sublist past' →
    AllLed flow past told → AllLed flow past' told
  | [], _, _, _, _ => trivial
  | _ :: _, _, _, hp, ⟨led, more⟩ => ⟨led.mono hp, more.mono (hp.append_right _)⟩

theorem allLed_append : ∀ {first past : List Mark} (last : List Mark),
    AllLed flow past (first ++ last) ↔ AllLed flow past first ∧ AllLed flow (past ++ first) last
  | [], past, last => by
      rw [List.nil_append, List.append_nil]
      exact (iff_of_eq (true_and _)).symm
  | m :: first, past, last => by
      have rest : AllLed flow (past ++ [m]) (first ++ last) ↔
          AllLed flow (past ++ [m]) first ∧ AllLed flow (past ++ m :: first) last := by
        rw [allLed_append last, List.append_assoc, List.singleton_append]
      exact (and_congr_right fun _ => rest).trans and_assoc.symm

/-- Each mark is led to by what stands before it. -/
theorem AllLed.led {earlier later : List Mark} {m : Mark}
    (h : AllLed flow past (earlier ++ m :: later)) : Led flow (past ++ earlier) m :=
  ((allLed_append _).mp h).2.1

theorem allLed_singleton {m : Mark} (h : Led flow past m) : AllLed flow past [m] := ⟨h, trivial⟩

/-- What is led to from the start can be told one after the other. -/
theorem allLed_joins (flow : Flow) : Joins (AllLed flow []) where
  nil := trivial
  append h h' := (allLed_append _).mpr ⟨h, h'.mono (List.nil_sublist _)⟩

/-- **A sub-activity starts in the cascade of the one above it**, and has started wherever another
mark of it stands. -/
theorem Led.of_sub (ho : Orderly flow) {m : Mark} (led : Led flow past m)
    (ha : flow.arena[m.place]? = some a) (hp : a.parent = some p) :
    (∀ before, m.stage = .entered before → InCascade flow past p m.place before)
    ∧ ((∀ before, m.stage ≠ .entered before) → HasStarted past m.place) := by
  cases led with
  | top hb top =>
    obtain rfl := Option.some.inj (ha.symm.trans hb)
    rw [top] at hp
    contradiction
  | @start q k before h =>
    have ⟨c, front, behind, leading, hc, hk, _⟩ := h
    obtain ⟨_, b, hb, _, above, _⟩ := (ho.placed q c hc).sub k (by simp [hk])
    obtain rfl := Option.some.inj (ha.symm.trans hb)
    -- an activity is below one other
    obtain rfl := Option.some.inj (hp.symm.trans above)
    refine ⟨?_, fun later => absurd rfl (later before)⟩
    intro before' h'
    obtain rfl := Stage.entered.inj h'
    exact h
  | started h later => exact ⟨fun before h' => absurd h' (later before), fun _ => h⟩

/-! ## §2. Stories. -/

theorem IsTop.led {stage : Stage} (h : IsTop flow place) : Led flow past ⟨place, stage⟩ := by
  obtain ⟨a, ha, ht⟩ := h
  exact .top ha ht

theorem OwnCall.led {m : Mark} (h : HasStarted past place) : OwnCall place m → Led flow past m
  | .admitted => .started h (by simp)
  | .called => .started h (by simp)

/-- An activity that has started may settle its result, and go on from there. -/
theorem allLed_settled {upTo down : List Mark} {result : Json} (h : HasStarted past place)
    (first : AllLed flow past upTo)
    (rest : ∀ past, HasStarted past place → ⟨place, .settled result⟩ ∈ past →
      AllLed flow past down) : AllLed flow past (upTo ++ ⟨place, .settled result⟩ :: down) := by
  refine (allLed_append _).mpr ⟨first, .started (h.append _) (by simp), ?_⟩
  exact rest _ ((h.append _).append _) (List.mem_append_right _ (List.mem_singleton_self _))

/-- A story that ends well says so. -/
theorem Story.completed {before : Inherited} {told : List Mark} {result : Json} {t : State}
    (story : Story flow place before told (.ok result) t) : ⟨place, .completed result⟩ ∈ told := by
  cases story with
  | ended ha ran =>
    cases ran with
    | finished opening dispatched handed =>
      cases handed with
      | completed subs => simp

mutual

/-- **A story is led to if its start is.** -/
theorem Story.allLed (ho : Orderly flow) : ∀ {k : Nat} {before : Inherited} {told : List Mark}
    {x : Except ActivityFailure Json} {t : State} {past : List Mark},
    Story flow k before told x t → Led flow past ⟨k, .entered before⟩ → AllLed flow past told
  | _, _, _, _, _, _, .ended ha ran, led => ⟨led, ran.allLed ho ha (hasStarted_concat ..)⟩
  | _, _, _, _, _, _, .failed ha ran, led => by
      -- the last mark is about an activity that has started
      refine ⟨led, (allLed_append _).mpr ⟨ran.allLed ho ha (hasStarted_concat ..), ?_⟩⟩
      exact allLed_singleton (.started ((hasStarted_concat ..).append _) (by simp))

theorem Ran.allLed (ho : Orderly flow) : ∀ {k : Nat} {a : Activity} {told : List Mark}
    {x : Except ActivityFailure Json} {t : State} {past : List Mark},
    Ran flow k a told x t → flow.arena[k]? = some a → HasStarted past k → AllLed flow past told
  | _, _, _, _, _, _, .unsettled opening, ha, h =>
      opening.allLed ho (fun _ => OwnCall.led h) fun _ => isTop_of_runsBefore ho ha
  | _, _, _, _, _, _, .finished opening _ handed, ha, h =>
      allLed_settled h (opening.allLed ho (fun _ => OwnCall.led h) fun _ =>
        isTop_of_runsBefore ho ha) fun _ => handed.allLed ho ha
  | _, _, _, _, _, _, .unfinished opening _ handed, ha, h =>
      allLed_settled h (opening.allLed ho (fun _ => OwnCall.led h) fun _ =>
        isTop_of_runsBefore ho ha) fun _ => handed.allLed ho ha

theorem HandedDown.allLed (ho : Orderly flow) : ∀ {k : Nat} {a : Activity} {result : Json}
    {told : List Mark} {x : Except ActivityFailure Unit} {t : State} {past : List Mark},
    HandedDown flow k a result told x t → flow.arena[k]? = some a → HasStarted past k →
      ⟨k, .settled result⟩ ∈ past → AllLed flow past told
  | _, _, _, _, _, _, _, .completed subs, ha, h, settled => by
      have below := subs.allLed ho ha rfl .first (List.singleton_sublist.mpr settled)
      refine (allLed_append _).mpr ⟨below, ?_⟩
      exact allLed_singleton (.started (h.append _) (by simp))
  | _, _, _, _, _, _, _, .unpresented subs, ha, _, settled =>
      subs.allLed ho ha rfl .first (List.singleton_sublist.mpr settled)
  | _, _, _, _, _, _, _, .stopped subs, ha, _, settled =>
      subs.allLed ho ha rfl .first (List.singleton_sublist.mpr settled)

theorem Siblings.allLed (ho : Orderly flow) : ∀ {parent : Json} {places : List Nat}
    {previous : Option Json} {told : List Mark} {x : Except ActivityFailure Unit} {t : State}
    {past : List Mark} {p : Nat} {c : Activity} {front : List Nat} {leading : List Mark},
    Siblings flow parent places previous told x t → flow.arena[p]? = some c →
      c.subActivities = front ++ places → Leading p front leading ⟨some parent, previous⟩ →
      leading.Sublist past → AllLed flow past told
  | _, _, _, _, _, _, _, _, _, _, _, .none, _, _, _, _ => trivial
  | _, _, _, _, _, _, _, _, _, _, _, .next first others, hc, hk, leads, h => by
      refine (allLed_append _).mpr ⟨first.allLed ho (.start ⟨_, _, _, _, hc, hk, leads, h⟩), ?_⟩
      -- the result above was settled before, the one next to the others is that of the first
      have settled := List.singleton_sublist.mpr (leads.settled h)
      have ended := List.singleton_sublist.mpr first.completed
      exact others.allLed ho hc (by rw [hk, List.append_cons]) .next (settled.append ended)
  | _, _, _, _, _, _, _, _, _, _, _, .stop first, hc, hk, leads, h =>
      first.allLed ho (.start ⟨_, _, _, _, hc, hk, leads, h⟩)

theorem Medley.allLed (ho : Orderly flow) : ∀ {own : Mark → Prop} {others : Nat → Prop}
    {told past : List Mark}, Medley flow own others told → (∀ m, own m → Led flow past m) →
      (∀ k, others k → IsTop flow k) → AllLed flow past told
  | _, _, _, _, .nil, _, _ => trivial
  | _, _, _, _, .mark h rest, own, others =>
      ⟨own _ h, rest.allLed ho (fun m hm => (own m hm).mono (List.sublist_append_left ..)) others⟩
  | _, _, _, _, .story h first rest, own, others => by
      refine (allLed_append _).mpr ⟨first.allLed ho (others _ h).led, ?_⟩
      exact rest.allLed ho (fun m hm => (own m hm).mono (List.sublist_append_left ..)) others

end

/-! ## §3. Operations. -/

theorem isTop_of_knownActivity (ho : Orderly flow) {service name : String}
    (known : knownActivity flow service name = .ok (place, a)) : IsTop flow place := by
  obtain ⟨hfind, _⟩ := getElem?_of_knownActivity known
  obtain ⟨b, hb, _, top, _⟩ := ho.top service name place hfind
  exact ⟨b, hb, top⟩

/-- The run of an activity at the top tells only what is led to from the start. -/
theorem execute_tells_led (ho : Orderly flow) (top : IsTop flow place) (before : Inherited)
    (shows : Bool) : TellsOnly (AllLed flow []) (execute flow place before shows) := by
  obtain ⟨a, ha, ht⟩ := top
  have hlt := (List.getElem?_eq_some_iff.mp ha).1
  intro s
  refine (execute_tells ho place hlt before shows s).mono ?_
  intro told x t story
  exact story.allLed ho (.top ha ht)

theorem start_tells {Q : List Mark → Prop} (hQ : Joins Q) (service name : String) :
    TellsOnly Q (start service name) := by
  intro s
  cases h : s.running? service with
  | some other =>
    rw [start_of_busy h]
    exact ⟨[], (List.append_nil _).symm, hQ.nil⟩
  | none =>
    have same : (s.occupy service name).trail = s.trail := State.trail_modifyService s _ _
    rw [start_of_free h]
    exact ⟨[], by rw [same, List.append_nil], hQ.nil⟩

/-- **Operations tell only what is led to from the start.**  Whatever they name stands at the top,
and so does whatever an external call runs. -/
theorem Operation.tells_led (ho : Orderly flow) (op : Operation) :
    TellsOnly (AllLed flow []) (op.run flow) := by
  have joins := allLed_joins flow
  have showing := joins.showing fun _ _ => True
  have closed := showing.toClosed
  have start := fun service name => start_tells joins service name
  have release : ∀ service, TellsOnly (AllLed flow [])
      (modify (State.release service) : Run State HostError Unit) := fun service =>
    tellsOnly_silent joins fun s => State.trail_modifyService s _ _
  have failed : ∀ e, TellsOnly (AllLed flow [])
      (modify (State.recordFailed e) : Run State HostError Unit) := fun e =>
    tellsOnly_silent joins fun s => State.trail_emit _ s
  have run : ∀ {service name place a} (shows : Bool),
      knownActivity flow service name = .ok (place, a) →
      TellsOnly (AllLed flow []) (execute flow place {} shows) := fun shows known =>
    execute_tells_led ho (isTop_of_knownActivity ho known) {} shows
  have activity : ∀ service name shows,
      TellsOnly (AllLed flow []) (executeActivity flow service name shows) := fun _ _ shows =>
    executeActivity_of_known closed _ _ (start _ _) (release _) failed fun _ _ => run shows
  cases op with
  | activity service name shows => exact closed.bind (activity _ _ _) fun _ => closed.pure _
  | sequence service name =>
    exact closed.bind (executeSequence_of_known closed _ _ (start _ _) (release _) failed
      fun _ _ _ => run true) fun _ => closed.pure _
  | autostart => exact autostart_closed showing.toLogging fun _ _ => activity _ _ true
  | call c =>
    refine closed.bind (externalCall_of_callOnly showing c (start _ _) (release _) ?_)
      fun _ => closed.pure _
    intro place a known
    obtain ⟨_, ha⟩ := getElem?_of_knownActivity known
    -- the strategy of an activity at the top is called, with the makers or the target of that
    have called : TellsOnly (AllLed flow []) (mark place .called : Run State ExecutionError Unit) :=
      tellsOnly_modify (fun _ => rfl) (allLed_singleton (isTop_of_knownActivity ho known).led)
    refine callOnly_closed showing.toReading (fun _ _ => trivial) c called ?_ ?_
    · intro k hk
      exact execute_tells_led ho (isTop_of_runsBefore ho ha (.inl hk)) _ _
    · intro k before hk
      exact execute_tells_led ho (isTop_of_runsBefore ho ha (.inr hk)) _ _

/-! ## §4. Sessions. -/

/-- An operation that waits has told this by now, and goes on to tell what is led to. -/
def Waiting.GoesOn (flow : Flow) (own : List Mark) (o : Waiting) : Prop :=
  ∀ answer s, (o.resume answer s).Tells (fun more _ _ => AllLed flow own more) s

namespace Session

/-- The trail is led to, and what waits has told some of it. -/
structure IsLed (flow : Flow) (v : Session) : Prop where
  trail : AllLed flow [] v.state.trail
  waiting : ∀ o ∈ v.waiting, ∃ own : List Mark, own.Sublist v.state.trail ∧ o.GoesOn flow own

/-- A stretch of an operation keeps that. -/
theorem isLed_after {others : List Waiting} {task : Task State (Except HostError Unit)}
    {s : State} {w : Session} {own : List Mark} (hs : AllLed flow [] s.trail)
    (sub : own.Sublist s.trail) (tells : task.Tells (fun more _ _ => AllLed flow own more) s)
    (hothers : ∀ o ∈ others, ∃ own : List Mark, own.Sublist s.trail ∧ o.GoesOn flow own)
    (h : after others task = some w) : w.IsLed flow := by
  -- what the stretch has told is led to by what the operation told before, so by the trail
  have trail : ∀ {t : State} {told : List Mark}, t.trail = s.trail ++ told →
      AllLed flow own told → AllLed flow [] t.trail := by
    intro t told ht led
    rw [ht]
    exact (allLed_append _).mpr ⟨hs, led.mono sub⟩
  have rest : ∀ {t : State} {told : List Mark}, t.trail = s.trail ++ told →
      ∀ o ∈ others, ∃ own : List Mark, own.Sublist t.trail ∧ o.GoesOn flow own := by
    intro t told ht o ho
    obtain ⟨own, sub, goesOn⟩ := hothers o ho
    rw [ht]
    exact ⟨own, sub.trans (List.sublist_append_left ..), goesOn⟩
  cases task with
  | done result t =>
    obtain rfl := Option.some.inj h
    obtain ⟨told, ht, led⟩ := tells
    exact ⟨trail ht led, rest ht⟩
  | endless => contradiction
  | ask query t resume =>
    obtain rfl := Option.some.inj h
    obtain ⟨told, ht, led, goesOn⟩ :=
      tells.told_wait fun _ last h => ((allLed_append last).mp h).1
    refine ⟨trail ht led, ?_⟩
    intro o ho
    rcases List.mem_cons.mp ho with rfl | ho
    · refine ⟨own ++ told, ?_, ?_⟩
      · show (own ++ told).Sublist t.trail
        rw [ht]
        exact sub.append_right _
      · intro answer u
        refine (goesOn answer u).mono ?_
        intro more _ _ h
        exact ((allLed_append more).mp h).2
    · exact rest ht o ho

theorem isLed_next (ho : Orderly flow) {v w : Session} (hv : v.IsLed flow)
    (h : Next flow v w) : w.IsLed flow := by
  cases h with
  -- an operation that starts has told nothing yet
  | begin op h => exact isLed_after hv.trail (List.nil_sublist _) (op.tells_led ho _) hv.waiting h
  | @answer _ _ before behind o hw answer h =>
    have among : o ∈ v.waiting := by simp [hw]
    obtain ⟨own, sub, goesOn⟩ := hv.waiting o among
    refine isLed_after hv.trail sub (goesOn answer _) ?_ h
    exact fun o' ho' => hv.waiting o' (waiting_subset hw ho')
  | @abandon _ before behind o hw service =>
    -- what is given up tells nothing more, and to release a service leaves no mark
    have same : (v.state.release service).trail = v.state.trail :=
      State.trail_modifyService v.state _ _
    refine ⟨by rw [same]; exact hv.trail, ?_⟩
    intro o' ho'
    rw [same]
    exact hv.waiting o' (waiting_subset hw ho')
  | lend query values files listener => exact ⟨hv.trail, hv.waiting⟩

/-- **Whatever happens in a session, its trail is led to from the start.** -/
theorem reaches_led (ho : Orderly flow) {v w : Session} (hv : v.IsLed flow)
    (h : Reaches flow v w) : w.IsLed flow := by
  induction h with
  | refl => exact hv
  | tail _ next ih => exact isLed_next ho ih next

end Session

end Pageflow.Run
