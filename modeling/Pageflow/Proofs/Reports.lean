/-
  Pageflow.Proofs.Reports — the log of executed activities and the stream of events.

  The log lists an activity once, the stream reports it every time it ends.  Both are written where
  an activity that is not made for a value ends, and there a mark is put on the trail.  So what a
  run adds to the log and to the stream can be read off the marks that it adds to the trail: each
  mark of an end is one event, in the same order, and the log takes what is new of them.  It
  follows that the log is always the stream without repetitions.

  Main definitions: `firsts`, `ended`, `Reported` and `Reports`.
  Main statements: `firsts_append`, `reports_step`, `Reported.inStep` and `execute_tellsEnd`.
-/
import Mathlib.Data.List.Induction
import Pageflow.Proofs.Cascade

namespace Pageflow.Run

open Document (Executed)
open Pageflow.Flow (Activity Orderly)

/-! ## §1. Entries without repetitions. -/

/-- The entries without those about an activity that an earlier one is about. -/
def firsts (entries : List Executed) : List Executed :=
  entries.eraseDupsBy fun later earlier => earlier.isAbout later.serviceName later.activityName

/-- What identifies the activity of an entry. -/
def identity (e : Executed) : String × String := (e.serviceName, e.activityName)

theorem isAbout_iff_identity {e f : Executed} :
    e.isAbout f.serviceName f.activityName = true ↔ identity e = identity f := by
  rw [Executed.isAbout_iff, identity, identity, Prod.mk.injEq]

/-- Everything that is recorded, one after the other. -/
def rememberAll (entries log : List Executed) : List Executed :=
  entries.foldl (fun log e => State.remember e log) log

theorem firsts_cons (e : Executed) (rest : List Executed) : firsts (e :: rest)
    = e :: firsts (rest.filter fun f => !e.isAbout f.serviceName f.activityName) := by
  simp only [firsts, List.eraseDupsBy_cons, Bool.decide_eq_false]

/-- The log takes an entry unless one about the same activity is there. -/
theorem firsts_concat (entries : List Executed) (e : Executed) :
    firsts (entries ++ [e]) = State.remember e (firsts entries) := by
  match entries with
  | [] => rfl
  | first :: rest =>
    have shorter : (rest.filter fun f => !first.isAbout f.serviceName f.activityName).length
        < (first :: rest).length :=
      Nat.lt_succ_of_le (List.length_filter_le _ _)
    rw [List.cons_append, firsts_cons, firsts_cons, List.filter_append, List.filter_singleton]
    cases h : first.isAbout e.serviceName e.activityName with
    | true => simp [h, State.remember]
    | false =>
      rw [Bool.not_false, cond_true, firsts_concat]
      unfold State.remember
      rw [List.any_cons, h, Bool.false_or]
      split <;> rfl
termination_by entries.length
decreasing_by exact shorter

theorem firsts_append (entries : List Executed) : ∀ more : List Executed,
    firsts (entries ++ more) = rememberAll more (firsts entries)
  | [] => by rw [List.append_nil]; rfl
  | e :: more => by
      have shifted : entries ++ e :: more = (entries ++ [e]) ++ more := by simp
      rw [shifted, firsts_append (entries ++ [e]) more, firsts_concat]
      rfl

theorem nodup_remember {log : List Executed} (h : (log.map identity).Nodup) (e : Executed) :
    ((State.remember e log).map identity).Nodup := by
  unfold State.remember
  split
  · exact h
  next absent =>
    rw [List.map_append, List.map_singleton]
    refine List.nodup_append.mpr ⟨h, List.nodup_singleton _, ?_⟩
    rintro _ hm _ hs rfl
    obtain ⟨known, hknown, same⟩ := List.mem_map.mp hm
    rw [List.mem_singleton.mp hs] at same
    exact absent (List.any_eq_true.mpr ⟨known, hknown, isAbout_iff_identity.mpr same⟩)

/-- **No two entries are about the same activity.** -/
theorem nodup_firsts (entries : List Executed) : ((firsts entries).map identity).Nodup := by
  induction entries using List.reverseRecOn with
  | nil => exact List.nodup_nil
  | append_singleton entries e ih =>
    rw [firsts_concat]
    exact nodup_remember ih e

/-- **The log only grows, and at its end.** -/
theorem prefix_rememberAll : ∀ (entries log : List Executed), log <+: rememberAll entries log
  | [], log => List.prefix_refl log
  | e :: rest, log => by
      have first : log <+: State.remember e log := by
        unfold State.remember
        split
        · exact List.prefix_refl log
        · exact List.prefix_append _ _
      exact first.trans (prefix_rememberAll rest _)

theorem rememberAll_append (first last log : List Executed) :
    rememberAll (first ++ last) log = rememberAll last (rememberAll first log) :=
  List.foldl_append ..

/-! ## §2. Marks and events. -/

/-- The entry of an activity that has ended by this mark and is not made for a value. -/
def Mark.ended? (flow : Flow) (m : Mark) : Option Executed :=
  match m.stage with
  | .completed _ =>
    (flow.arena[m.place]?).bind fun a => if a.isGenerated then none else some a.executed
  | _ => none

/-- The entries of the activities that end by these marks. -/
def ended (flow : Flow) (marks : List Mark) : List Executed := marks.filterMap (Mark.ended? flow)

/-- What the events of a kind are about. -/
def eventsOf (kind : EventKind) (events : List Event) : List Executed :=
  (events.filter (·.kind = kind)).map Event.activity

variable {flow : Flow} {s t u : State} {new more : List Mark} {failures : List Executed}

theorem ended_append (first last : List Mark) :
    ended flow (first ++ last) = ended flow first ++ ended flow last := List.filterMap_append

theorem ended_singleton (m : Mark) : ended flow [m] = (m.ended? flow).toList := by
  cases h : m.ended? flow <;> simp [ended, h]

theorem eventsOf_append (kind : EventKind) (first last : List Event) :
    eventsOf kind (first ++ last) = eventsOf kind first ++ eventsOf kind last := by
  simp [eventsOf]

/-! ## §3. Reports. -/

/-- The trail grows by these marks.  The activities that end by them are reported, one event for
each mark, if somebody listens, and then these failures.  The log takes what is new of the ends. -/
structure Reported (flow : Flow) (new : List Mark) (failures : List Executed) (s t : State) :
    Prop where
  listener : t.listener = s.listener
  trail : t.trail = s.trail ++ new
  events : s.listener = .listening → t.events = s.events
    ++ ((ended flow new).map (Event.mk .completed) ++ failures.map (Event.mk .failed))
  executed : t.executed = rememberAll (ended flow new) s.executed

/-- Ends are reported and logged, and no failures. -/
def Reports (flow : Flow) (s t : State) : Prop := ∃ new, Reported flow new [] s t

/-- What touches neither trail nor log nor stream. -/
theorem reported_silent (listener : t.listener = s.listener) (trail : t.trail = s.trail)
    (events : t.events = s.events) (executed : t.executed = s.executed) :
    Reported flow [] [] s t where
  listener := listener
  trail := by rw [trail, List.append_nil]
  events := fun _ => events.trans (List.append_nil _).symm
  executed := executed

/-- What is reported last may be failures. -/
theorem Reported.trans (h : Reported flow new [] s t) (h' : Reported flow more failures t u) :
    Reported flow (new ++ more) failures s u where
  listener := h'.listener.trans h.listener
  trail := by rw [h'.trail, h.trail, List.append_assoc]
  events listening := by
    rw [h'.events (h.listener.trans listening), h.events listening, ended_append]
    simp
  executed := by rw [h'.executed, h.executed, ended_append, rememberAll_append]

/-- What comes after a failure and is silent adds nothing. -/
theorem Reported.silently (h : Reported flow new failures s t) (h' : Reported flow [] [] t u) :
    Reported flow new failures s u where
  listener := h'.listener.trans h.listener
  trail := by rw [h'.trail, h.trail, List.append_nil]
  events listening := by
    rw [h'.events (h.listener.trans listening), h.events listening]
    simp [ended]
  executed := h'.executed.trans h.executed

theorem reports_chained (flow : Flow) : Task.Chained (Reports flow) where
  refl s := ⟨[], reported_silent rfl rfl rfl rfl⟩
  trans h h' := by
    obtain ⟨new, h⟩ := h
    obtain ⟨more, h'⟩ := h'
    exact ⟨new ++ more, h.trans h'⟩

theorem reported_modifyService (s : State) (name : String) (f : ServiceState → ServiceState) :
    Reported flow [] [] s (s.modifyService name f) := by
  unfold State.modifyService
  split
  · exact reported_silent rfl rfl rfl rfl
  split
  · exact reported_silent rfl rfl rfl rfl
  · exact reported_silent rfl rfl rfl rfl

theorem reported_modifyStore (s : State) (scope : Document.StoreScope) (service : String)
    (f : Store → Store) : Reported flow [] [] s (s.modifyStore scope service f) := by
  have inService : ∀ name, Reported flow [] [] s
      (s.modifyService name fun state => { state with store := f state.store }) :=
    fun name => reported_modifyService s name _
  cases scope with
  | activity => exact reported_silent rfl rfl rfl rfl
  | process => exact inService _
  | service => exact inService _

/-- A mark by which nothing ends that is reported. -/
theorem reported_mark {place : Nat} {stage : Stage}
    (h : Mark.ended? flow ⟨place, stage⟩ = none) (s : State) :
    Reported flow [⟨place, stage⟩] [] s (s.mark place stage) where
  listener := rfl
  trail := rfl
  events _ := by simp [ended, h, State.mark]
  executed := by simp [ended, h, State.mark, rememberAll]

theorem listener_emit (event : Event) (s : State) : (s.emit event).listener = s.listener := by
  cases h : s.listener <;> simp [State.emit, h, Journal.write]

theorem events_emit (event : Event) (h : s.listener = .listening) :
    (s.emit event).events = s.events ++ [event] := by
  simp [State.emit, h]

theorem reported_release (s : State) (service : String) :
    Reported flow [] [] s (s.release service) := by
  have freed : Reported flow [] [] s (s.setRunning service none) := reported_modifyService s _ _
  rw [State.release_eq]
  exact freed.silently (reported_silent rfl rfl rfl rfl)

/-- **A failure that is recorded is reported**, and not logged. -/
theorem reported_recordFailed (e : Executed) (s : State) :
    Reported flow [] [e] s (s.recordFailed e) where
  listener := listener_emit ..
  trail := (State.trail_emit ..).trans (List.append_nil _).symm
  events listening := events_emit _ listening
  executed := State.executed_emit ..

/-- **An activity that ends is reported and logged**, unless it is made for a value. -/
theorem reported_complete {place : Nat} {a : Activity} (ha : flow.arena[place]? = some a)
    (result : Json) (s : State) :
    Reported flow [⟨place, .completed result⟩] [] s (s.complete place a result) := by
  have entry : Mark.ended? flow ⟨place, .completed result⟩
      = if a.isGenerated then none else some a.executed := by simp [Mark.ended?, ha]
  unfold State.complete
  cases hg : a.isGenerated with
  | true =>
    rw [hg] at entry
    exact reported_mark entry s
  | false =>
    rw [hg] at entry
    have ends : ended flow [⟨place, .completed result⟩] = [a.executed] := by
      rw [ended_singleton, entry]
      rfl
    refine ⟨listener_emit .., State.trail_emit .., fun listening => ?_, ?_⟩
    · rw [ends]
      exact events_emit _ listening
    · rw [ends]
      exact State.executed_emit ..

/-- **What a step reports and logs is what its mark says.** -/
theorem reports_step {allowed : Mark → Prop} (step : Step flow allowed s t) :
    Reports flow s t := by
  cases step with
  | note n => exact ⟨[], reported_silent rfl rfl rfl rfl⟩
  | display d => exact ⟨[], reported_silent rfl rfl rfl rfl⟩
  | enter h => exact ⟨_, reported_mark rfl s⟩
  | letIn h _ _ _ => exact ⟨_, reported_mark rfl s⟩
  | call h => exact ⟨_, reported_mark rfl s⟩
  | fail h => exact ⟨_, reported_mark rfl s⟩
  | @settle place a result _ _ =>
    have stored : Reported flow [] [] s (s.storeResult a result) := by
      unfold State.storeResult
      split
      · exact reported_silent rfl rfl rfl rfl
      split
      · exact reported_silent rfl rfl rfl rfl
      · exact reported_modifyStore s _ _ _
    exact ⟨_, stored.trans (reported_mark rfl _)⟩
  | @insert _ a _ ui _ _ _ =>
    have registered : Reported flow [] [] s
        (s.modifyService a.service fun state => state.register a.service ui) :=
      reported_modifyService s _ _
    exact ⟨[], registered.silently (reported_silent rfl rfl rfl rfl)⟩
  | complete _ ha => exact ⟨_, reported_complete ha _ s⟩

theorem reports_steps {allowed : Mark → Prop} (steps : Steps flow allowed s t) :
    Reports flow s t := by
  induction steps with
  | refl => exact (reports_chained flow).refl s
  | tail _ step ih => exact (reports_chained flow).trans ih (reports_step step)

/-! ## §4. Log, stream and trail in step. -/

/-- The log is the stream of completed events without repetitions, and the stream tells of the ends
on the trail. -/
structure InStep (flow : Flow) (s : State) : Prop where
  log : s.executed = firsts (eventsOf .completed s.events)
  ends : eventsOf .completed s.events = ended flow s.trail

/-- **Reports keep log, stream and trail in step**, as long as somebody listens. -/
theorem Reported.inStep (h : Reported flow new failures s t) (listening : s.listener = .listening)
    (hs : InStep flow s) : InStep flow t := by
  have completed : eventsOf .completed t.events
      = eventsOf .completed s.events ++ ended flow new := by
    rw [h.events listening, eventsOf_append, eventsOf_append]
    simp [eventsOf, List.filter_map, Function.comp_def]
  refine ⟨?_, ?_⟩
  · rw [h.executed, completed, firsts_append, ← hs.log]
  · rw [completed, hs.ends, h.trail, ended_append]

theorem InStep.nodup (h : InStep flow s) : (s.executed.map identity).Nodup := by
  rw [h.log]
  exact nodup_firsts _

/-! ## §5. One end for each run. -/

/-- The mark says that the activity at this place has ended. -/
def Mark.isEnd (k : Nat) (m : Mark) : Bool :=
  match m.stage with
  | .completed _ => m.place = k
  | _ => false

/-- What the run of an activity tells of ends.  One that ends well says so once, last of all, and
after the ends of all its sub-activities; one that fails does not say so. -/
inductive TellsEnd (place : Nat) (a : Activity) :
    List Mark → Except ActivityFailure Json → Prop
  | well {inner : List Mark} {result : Json} (only : ∀ m ∈ inner, m.isEnd place = false)
      (children : ∀ k ∈ a.subActivities, ∃ value, ⟨k, .completed value⟩ ∈ inner) :
      TellsEnd place a (inner ++ [⟨place, .completed result⟩]) (.ok result)
  | failed {told : List Mark} {e : ActivityFailure} (none : ∀ m ∈ told, m.isEnd place = false) :
      TellsEnd place a told (.error e)

variable {place : Nat} {a : Activity}

/-- Siblings that all end well have all said so. -/
theorem Siblings.completed : ∀ {parent : Json} {places : List Nat} {previous : Option Json}
    {told : List Mark} {x : Except ActivityFailure Unit} {t : State},
    Siblings flow parent places previous told x t → x = .ok () →
      ∀ k ∈ places, ∃ value, ⟨k, .completed value⟩ ∈ told
  | _, _, _, _, _, _, .none, _ => by simp
  | _, _, _, _, _, _, .next first others, hx => by
      refine List.forall_mem_cons.mpr ⟨⟨_, List.mem_append_left _ first.completed⟩, ?_⟩
      intro k hk
      obtain ⟨value, hv⟩ := others.completed hx k hk
      exact ⟨value, List.mem_append_right _ hv⟩
  | _, _, _, _, _, _, .stop _, hx => by contradiction

theorem not_isEnd_of_callee (ho : Orderly flow) {m : Mark}
    (h : ∃ j, flow.Calls place j ∧ flow.Reaches j m.place) : m.isEnd place = false := by
  obtain ⟨j, call, reaches⟩ := h
  unfold Mark.isEnd
  split
  · -- no run comes back to its own activity
    refine decide_eq_false fun same => ?_
    rw [same] at reaches
    exact Flow.not_reaches_of_calls ho call reaches
  · rfl

theorem not_isEnd_opening (ho : Orderly flow) (ha : flow.arena[place]? = some a)
    {upTo : List Mark} (opening : Medley flow (OwnCall place) (RunsBefore a) upTo) :
    ∀ m ∈ upTo, m.isEnd place = false := by
  intro m hm
  rcases opening.among m hm with own | ⟨j, hj, reaches⟩
  · cases own <;> rfl
  · exact not_isEnd_of_callee ho ⟨j, ⟨a, ha, Activity.mem_callees.mpr (hj.imp_right .inl)⟩, reaches⟩

theorem not_isEnd_below (ho : Orderly flow) (ha : flow.arena[place]? = some a) {parent : Json}
    {previous : Option Json} {below : List Mark} {x : Except ActivityFailure Unit}
    (subs : Siblings flow parent a.subActivities previous below x t) :
    ∀ m ∈ below, m.isEnd place = false := by
  intro m hm
  obtain ⟨j, hj, reaches⟩ := subs.among m hm
  exact not_isEnd_of_callee ho
    ⟨j, ⟨a, ha, Activity.mem_callees.mpr (.inr (.inr hj))⟩, reaches⟩

/-- **A story says once that its activity has ended, if it ends well**, and not at all if it
fails. -/
theorem Story.tellsEnd (ho : Orderly flow) (ha : flow.arena[place]? = some a) {before : Inherited}
    {told : List Mark} {x : Except ActivityFailure Json}
    (story : Story flow place before told x t) : TellsEnd place a told x := by
  have settled : ∀ {upTo down : List Mark} (result : Json),
      (∀ m ∈ upTo, m.isEnd place = false) → (∀ m ∈ down, m.isEnd place = false) →
      ∀ m ∈ upTo ++ ⟨place, .settled result⟩ :: down, m.isEnd place = false :=
    fun _ first last => List.forall_mem_append.mpr ⟨first, List.forall_mem_cons.mpr ⟨rfl, last⟩⟩
  cases story with
  | @ended _ _ _ _ result _ hb ran =>
    obtain rfl := Option.some.inj (ha.symm.trans hb)
    cases ran with
    | @finished _ _ upTo _ _ _ opening dispatched handed =>
      cases handed with
      | @completed _ _ _ below _ _ subs =>
        have only := settled result (not_isEnd_opening ho ha opening) (not_isEnd_below ho ha subs)
        have inner : ∀ m ∈ ⟨place, .entered before⟩ :: (upTo ++ ⟨place, .settled result⟩ :: below),
            m.isEnd place = false := List.forall_mem_cons.mpr ⟨rfl, only⟩
        have shape : TellsEnd place a
            ((⟨place, .entered before⟩ :: (upTo ++ ⟨place, .settled result⟩ :: below))
              ++ [⟨place, .completed result⟩]) (.ok result) := by
          refine .well inner fun k hk => ?_
          obtain ⟨value, hv⟩ := subs.completed rfl k hk
          exact ⟨value, by simp [hv]⟩
        simpa using shape
  | failed hb ran =>
    obtain rfl := Option.some.inj (ha.symm.trans hb)
    refine .failed (List.forall_mem_cons.mpr ⟨rfl, List.forall_mem_append.mpr ⟨?_, ?_⟩⟩)
    · cases ran with
      | unsettled opening => exact not_isEnd_opening ho ha opening
      | unfinished opening dispatched handed =>
        refine settled _ (not_isEnd_opening ho ha opening) ?_
        cases handed with
        | unpresented subs => exact not_isEnd_below ho ha subs
        | stopped subs => exact not_isEnd_below ho ha subs
    · exact List.forall_mem_singleton.mpr rfl

/-- **Every run of an activity says once that it has ended, if it ends well**, whatever the answers
are and whatever others do while it waits. -/
theorem execute_tellsEnd (ho : Orderly flow) (ha : flow.arena[place]? = some a)
    (before : Inherited) (shows : Bool) (s : State) : (execute flow place before shows s).Tells
      (fun told x _ => TellsEnd place a told x) s :=
  (execute_tells ho place (List.getElem?_eq_some_iff.mp ha).1 before shows s).mono
    fun _ _ _ story => story.tellsEnd ho ha

end Pageflow.Run
