/-
  Pageflow.Proofs.Written — stores as a history.

  An entry of a store changes only where an activity that is no reference settles its result and
  its target is that entry.  So what an entry holds is told by the trail: it is the last result
  that a mark stored there, or else what the entry held before.  The stores after a run need not be
  followed step by step; they can be read off the marks that the run has added.

  Main definitions: `State.entry`, `Writes`, `lastWritten` and `Recorded`.
  Main statements: `lastWritten_append`, `recorded_step`, `recorded_steps` and `entry_steps`.
-/
import Pageflow.Proofs.Guarded

namespace Pageflow.Run

open Document (StoreScope)
open Pageflow.Flow (Activity)

/-! ## §1. Entries. -/

namespace State

/-- The service whose store a scope names; none is the store of the run. -/
def owner (s : State) (scope : StoreScope) (service : String) : Option String :=
  match scope with
  | .activity => none
  | .process => some Document.processService
  | .service => some (if (s.service? service).isSome then service else Document.processService)

theorem exists_owner (s : State) {scope : StoreScope} (h : scope ≠ .activity)
    (service : String) : ∃ name, s.owner scope service = some name := by
  cases scope with
  | activity => contradiction
  | process => exact ⟨_, rfl⟩
  | service => exact ⟨_, rfl⟩

/-- The entry of a store. -/
def entry (s : State) (owner : Option String) (key : String) : Option Json :=
  match owner with
  | none => s.scratch.get? key
  | some name => (s.service? name).bind fun service => service.store.get? key

@[simp] theorem service?_process (s : State) :
    s.service? Document.processService = some s.process := by
  simp [service?]

theorem get?_storeFor (s : State) (scope : StoreScope) (service key : String) :
    (s.storeFor scope service).get? key = s.entry (s.owner scope service) key := by
  cases scope with
  | activity => rfl
  | process => simp [storeFor, owner, entry]
  | service => cases h : s.service? service <;> simp [storeFor, owner, entry, h]

/-- The same services have stores, with the same entries. -/
structure SameEntries (s t : State) : Prop where
  owner : t.owner = s.owner
  entry : t.entry = s.entry

theorem SameEntries.of_eq {s t : State}
    (hservices : ∀ name, (t.service? name).map ServiceState.store
      = (s.service? name).map ServiceState.store)
    (hscratch : t.scratch = s.scratch) : SameEntries s t where
  owner := by
    funext scope service
    have h := congrArg Option.isSome (hservices service)
    rw [Option.isSome_map, Option.isSome_map] at h
    simp only [State.owner, h]
  entry := by
    funext owner key
    cases owner with
    | none => simp only [State.entry, hscratch]
    | some name =>
      have h := congrArg (fun store => store.bind fun store => store.get? key) (hservices name)
      simpa only [State.entry, Option.bind_map, Function.comp_def] using h

/-- A service changes, but not its store. -/
theorem sameEntries_modifyService (s : State) (name : String) {f : ServiceState → ServiceState}
    (hf : ∀ service, (f service).store = service.store) :
    SameEntries s (s.modifyService name f) := by
  refine .of_eq ?_ (scratch_modifyService ..)
  intro other
  rw [service?_modifyService]
  split
  next h =>
    subst h
    cases s.service? other <;> simp [hf]
  next => rfl

theorem sameEntries_emit (event : Event) (s : State) : SameEntries s (emit event s) :=
  .of_eq (fun name => by rw [service?_emit]) (scratch_emit event s)

/-- A store that a scope names is the one that is written, and no service comes or goes. -/
theorem owner_modifyStore (s : State) (scope : StoreScope) (service : String)
    (f : Store → Store) : (s.modifyStore scope service f).owner = s.owner := by
  have modified : ∀ name other,
      ((s.modifyService name fun state => { state with store := f state.store }).service?
        other).isSome = (s.service? other).isSome := by
    intro name other
    rw [service?_modifyService]
    split
    next h => rw [Option.isSome_map, h]
    next => rfl
  have same : ∀ other, ((s.modifyStore scope service f).service? other).isSome
      = (s.service? other).isSome := by
    intro other
    cases scope with
    | activity => rfl
    | process => exact modified _ other
    | service => exact modified _ other
  funext scope' service'
  cases scope' with
  | activity => rfl
  | process => rfl
  | service => simp only [owner, same]

theorem entry_write (s : State) (scope : StoreScope) (service key : String) (value : Json)
    (who : Option String) (other : String) :
    (s.modifyStore scope service fun store => store.write key value).entry who other
      = if who = s.owner scope service ∧ other = key then some value else s.entry who other := by
  have written : ∀ store : Store, (store.write key value).get? other
      = if other = key then some value else store.get? other := by
    intro store
    by_cases h : other = key
    · subst h
      simp [Store.write, Store.get?]
    · simp [Store.write, Store.get?, h, Dict.get?_insert_of_ne]
  have inService : ∀ name, (s.service? name).isSome = true →
      (s.modifyService name fun state =>
        { state with store := state.store.write key value }).entry who other
      = if who = some name ∧ other = key then some value else s.entry who other := by
    intro name hname
    obtain ⟨state, hstate⟩ := Option.isSome_iff_exists.mp hname
    cases who with
    | none => simp [entry, scratch_modifyService]
    | some name' =>
      simp only [entry, service?_modifyService, Option.some.injEq]
      by_cases h : name' = name
      · subst h
        simp [hstate, written]
      · simp [h]
  cases scope with
  | activity =>
    cases who with
    | none => simp [modifyStore, entry, owner, written]
    | some name => simp [modifyStore, entry, owner, service?]
  | process => exact inService _ (by simp)
  | service =>
    cases h : s.service? service with
    | none => simpa [modifyStore, owner, h] using inService Document.processService (by simp)
    | some state => simpa [modifyStore, owner, h] using inService service (by simp [h])

end State

theorem sameEntries_occupy (s : State) (service name : String) :
    State.SameEntries s (s.occupy service name) :=
  State.sameEntries_modifyService s service fun _ => rfl

/-- At the end of a run only its own store is emptied. -/
theorem entry_release (s : State) (service : String) : (s.release service).owner = s.owner
    ∧ ∀ name key, (s.release service).entry (some name) key = s.entry (some name) key := by
  have same : State.SameEntries s
      (s.modifyService service fun state => { state with running := none }) :=
    State.sameEntries_modifyService s service fun _ => rfl
  refine ⟨same.owner, ?_⟩
  intro name key
  exact congrFun (congrFun same.entry (some name)) key

/-! ## §2. What marks store. -/

/-- By this mark an activity that is no reference settles a result that it stores there. -/
def Writes (flow : Flow) (s : State) (who : Option String) (key : String) (m : Mark) : Prop :=
  ∃ a target result, flow.arena[m.place]? = some a ∧ m.stage = .settled result
    ∧ a.isReference = false ∧ a.storeResult = some target
    ∧ who = s.owner target.scope a.service ∧ key = target.key

/-- The entry in which an activity keeps its result: whose store it is in, and its key. -/
def State.slot? (s : State) (a : Activity) : Option (Option String × String) :=
  if a.isReference then none
  else a.storeResult.map fun target => (s.owner target.scope a.service, target.key)

/-- The result that a mark stores in an entry, if it does. -/
def Mark.written? (flow : Flow) (s : State) (who : Option String) (key : String) (m : Mark) :
    Option Json :=
  match m.stage with
  | .settled result =>
    if (flow.arena[m.place]?).bind s.slot? = some (who, key) then some result else none
  | _ => none

/-- The last result that these marks store in an entry, if one does. -/
def lastWritten (flow : Flow) (s : State) (who : Option String) (key : String)
    (marks : List Mark) : Option Json :=
  marks.reverse.findSome? (Mark.written? flow s who key)

variable {flow : Flow} {s t u : State} {who : Option String} {key : String} {place : Nat}
  {a : Activity} {allowed : Mark → Prop}

theorem State.slot?_eq_some : s.slot? a = some (who, key) ↔ a.isReference = false ∧
    ∃ target, a.storeResult = some target ∧ who = s.owner target.scope a.service
      ∧ key = target.key := by
  unfold State.slot?
  cases a.isReference with
  | true => simp
  | false => simp [Option.map_eq_some_iff, eq_comm (a := who), eq_comm (a := key)]

/-- A mark stores a result in an entry iff it writes the entry. -/
theorem isSome_written?_iff {m : Mark} :
    (m.written? flow s who key).isSome = true ↔ Writes flow s who key m := by
  unfold Mark.written? Writes
  cases m.stage with
  | settled result =>
    cases flow.arena[m.place]? with
    | none => simp
    | some a => simp [State.slot?_eq_some]
  | _ => simp

@[simp] theorem lastWritten_nil : lastWritten flow s who key [] = none := rfl

/-- **What is written later counts**; else what was written before. -/
theorem lastWritten_append (first last : List Mark) : lastWritten flow s who key (first ++ last)
    = (lastWritten flow s who key last).or (lastWritten flow s who key first) := by
  rw [lastWritten, List.reverse_append, List.findSome?_append, lastWritten, lastWritten]

theorem lastWritten_eq_none {marks : List Mark} (h : ∀ m ∈ marks, ¬ Writes flow s who key m) :
    lastWritten flow s who key marks = none := by
  refine List.findSome?_eq_none_iff.mpr fun m hm => ?_
  have unwritten := h m (List.mem_reverse.mp hm)
  rw [← isSome_written?_iff] at unwritten
  exact Option.not_isSome_iff_eq_none.mp unwritten

theorem written?_eq_some {m : Mark} {result : Json} :
    m.written? flow s who key = some result ↔
      Writes flow s who key m ∧ m.stage = .settled result := by
  rw [← isSome_written?_iff]
  unfold Mark.written?
  cases m.stage with
  | settled value =>
    simp only
    split <;> simp
  | _ => simp

/-- **The last result that is written counts.** -/
theorem lastWritten_eq_some {earlier later : List Mark} {m : Mark} {result : Json}
    (writes : Writes flow s who key m) (stage : m.stage = .settled result)
    (h : ∀ m ∈ later, ¬ Writes flow s who key m) :
    lastWritten flow s who key (earlier ++ m :: later) = some result := by
  have own : lastWritten flow s who key [m] = some result := by
    rw [lastWritten, List.reverse_singleton, List.findSome?_singleton]
    exact written?_eq_some.mpr ⟨writes, stage⟩
  rw [List.append_cons, lastWritten_append, lastWritten_eq_none h, Option.none_or,
    lastWritten_append, own, Option.some_or]

/-- Where results are stored depends only on which stores there are. -/
theorem written?_congr (h : t.owner = s.owner) :
    Mark.written? flow t = Mark.written? flow s := by
  have slots : t.slot? = s.slot? := by
    funext a
    rw [State.slot?, State.slot?, h]
  funext who key m
  rw [Mark.written?, Mark.written?, slots]

theorem lastWritten_congr (h : t.owner = s.owner) : lastWritten flow t = lastWritten flow s := by
  funext who key marks
  rw [lastWritten, lastWritten, written?_congr h]

/-! ## §3. What steps write. -/

/-- The trail grows by these marks, and each entry holds what they store there last, or else what
it held before. -/
structure Accounts (flow : Flow) (new : List Mark) (s t : State) : Prop where
  owner : t.owner = s.owner
  trail : t.trail = s.trail ++ new
  entry : ∀ who key, t.entry who key = (lastWritten flow s who key new).or (s.entry who key)

theorem Accounts.trans {new more : List Mark} (h : Accounts flow new s t)
    (h' : Accounts flow more t u) : Accounts flow (new ++ more) s u where
  owner := h'.owner.trans h.owner
  trail := by rw [h'.trail, h.trail, List.append_assoc]
  entry who key := by
    rw [h'.entry, h.entry, lastWritten_append, lastWritten_congr h.owner, Option.or_assoc]

/-- Nothing is marked, and no entry changes. -/
theorem accounts_of_same (htrail : t.trail = s.trail) (same : State.SameEntries s t) :
    Accounts flow [] s t where
  owner := same.owner
  trail := by rw [htrail, List.append_nil]
  entry who key := by rw [same.entry, lastWritten_nil, Option.none_or]

/-- A mark of another stage stores nothing. -/
theorem accounts_mark {stage : Stage} (h : ∀ result, stage ≠ .settled result)
    (htrail : t.trail = s.trail ++ [⟨place, stage⟩]) (same : State.SameEntries s t) :
    Accounts flow [⟨place, stage⟩] s t where
  owner := same.owner
  trail := htrail
  entry who key := by
    have nothing : Mark.written? flow s who key ⟨place, stage⟩ = none := by
      cases stage with
      | settled result => exact absurd rfl (h result)
      | _ => rfl
    simp [same.entry, lastWritten, nothing]

@[simp] theorem owner_settle (place : Nat) (a : Activity) (result : Json) (s : State) :
    (s.settle place a result).owner = s.owner := by
  unfold State.settle State.storeResult
  split
  · rfl
  split
  · rfl
  · exact State.owner_modifyStore ..

/-- A settled result is in the entry where the activity keeps it. -/
theorem entry_settle (place : Nat) (a : Activity) (result : Json) (s : State)
    (who : Option String) (key : String) : (s.settle place a result).entry who key
      = if s.slot? a = some (who, key) then some result else s.entry who key := by
  unfold State.settle State.storeResult State.slot?
  cases a.isReference with
  | true => cases a.storeResult <;> simp <;> rfl
  | false =>
    cases a.storeResult with
    | none => simp; rfl
    | some target =>
      refine (State.entry_write s target.scope a.service target.key result who key).trans ?_
      simp [eq_comm]

theorem accounts_settle (ha : flow.arena[place]? = some a) (result : Json) (s : State) :
    Accounts flow [⟨place, .settled result⟩] s (s.settle place a result) where
  owner := owner_settle ..
  trail := trail_settle ..
  entry who key := by
    rw [entry_settle]
    simp only [lastWritten, List.reverse_singleton, List.findSome?_singleton, Mark.written?, ha,
      Option.bind_some]
    split <;> rfl

/-- The trail grows by allowed marks, and the entries hold what these store. -/
def Recorded (flow : Flow) (allowed : Mark → Prop) (s t : State) : Prop :=
  ∃ new, Accounts flow new s t ∧ ∀ m ∈ new, allowed m

theorem recorded_of_same (htrail : t.trail = s.trail) (same : State.SameEntries s t) :
    Recorded flow allowed s t := ⟨[], accounts_of_same htrail same, by simp⟩

theorem recorded_chained (flow : Flow) (allowed : Mark → Prop) :
    Task.Chained (Recorded flow allowed) where
  refl _ := recorded_of_same rfl ⟨rfl, rfl⟩
  trans h h' := by
    obtain ⟨new, accounts, hallowed⟩ := h
    obtain ⟨more, accounts', hallowed'⟩ := h'
    exact ⟨new ++ more, accounts.trans accounts',
      List.forall_mem_append.mpr ⟨hallowed, hallowed'⟩⟩

/-- **What a step writes is what its mark says.** -/
theorem recorded_step (step : Step flow allowed s t) : Recorded flow allowed s t := by
  have marked : ∀ {place stage}, allowed ⟨place, stage⟩ → (∀ result, stage ≠ .settled result) →
      t.trail = s.trail ++ [⟨place, stage⟩] → State.SameEntries s t →
      Recorded flow allowed s t := by
    intro place stage h unsettled htrail same
    exact ⟨_, accounts_mark unsettled htrail same, by simpa using h⟩
  cases step with
  | note => exact recorded_of_same rfl ⟨rfl, rfl⟩
  | display => exact recorded_of_same rfl ⟨rfl, rfl⟩
  | enter h => exact marked h (by simp) rfl ⟨rfl, rfl⟩
  | letIn h => exact marked h (by simp) rfl ⟨rfl, rfl⟩
  | call h => exact marked h (by simp) rfl ⟨rfl, rfl⟩
  | settle h ha => exact ⟨_, accounts_settle ha _ s, by simpa using h⟩
  | @insert place a result ui _ _ _ _ =>
    -- inputs are added to the service, whose store stays as it is
    have same : State.SameEntries s (s.modifyService a.service fun state =>
        state.register a.service ui) := State.sameEntries_modifyService s _ fun _ => rfl
    exact recorded_of_same (State.trail_modifyService ..) ⟨same.owner, same.entry⟩
  | @complete place a result h _ =>
    refine marked h (by simp) (trail_complete ..) ?_
    unfold State.complete
    cases a.isGenerated with
    | true => exact ⟨rfl, rfl⟩
    | false =>
      have same := State.sameEntries_emit ⟨.completed, a.executed⟩
        { s.mark place (.completed result) with executed := State.remember a.executed s.executed }
      exact ⟨same.owner, same.entry⟩
  | fail h => exact marked h (by simp) rfl ⟨rfl, rfl⟩

/-- **What steps write is what the new marks say.** -/
theorem recorded_steps (steps : Steps flow allowed s t) : Recorded flow allowed s t := by
  have chained := recorded_chained flow allowed
  induction steps with
  | refl => exact chained.refl s
  | tail _ step ih => exact chained.trans ih (recorded_step step)

/-- **An entry stays as it is unless somebody writes it.** -/
theorem entry_steps (steps : Steps flow allowed s t) : t.owner = s.owner
    ∧ ∀ new, t.trail = s.trail ++ new → ∀ who key, (∀ m ∈ new, ¬ Writes flow s who key m) →
      t.entry who key = s.entry who key := by
  obtain ⟨marks, accounts, _⟩ := recorded_steps steps
  refine ⟨accounts.owner, ?_⟩
  intro new hnew who key h
  -- the new marks are the ones that account for what is written
  rw [accounts.trail] at hnew
  obtain rfl := List.append_cancel_left hnew
  rw [accounts.entry, lastWritten_eq_none h, Option.none_or]

end Pageflow.Run
