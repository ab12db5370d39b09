/-
  Pageflow.Proofs.Alerts — what a user is told of a run that ends well.

  An activity tells of its end, and of its failure.  Only what runs at the top tells of its end, and
  a failure below makes the activity above fail too, unless that has only asked for a value: a
  maker may fail, and the run goes on without the value.  So a run that ends well tells of its own
  end, once, and before that of makers only.

  A maker runs without an announcement of its end.  But it tells of a call that fails like any
  other activity, and so a run that ends well may tell of failures.

  Main definitions: `State.alerts`, `Misfire` and `Alerts`.
  Main statements: `execute_alerts`, `successful_run_alerts_its_end`, and
  `failed_maker_is_told_of` on what is left out.
-/
import Pageflow.Proofs.Rejection
import Pageflow.Proofs.Stored

namespace Pageflow.Run

open Pageflow.Flow (Activity IsBuilt IsMaker Materials Orderly Strategy)

/-! ## §1. Alerts. -/

/-- The message of an alert. -/
def Display.alert? : Display → Option String
  | .alert message => some message
  | _ => none

/-- The alerts that have been shown. -/
def State.alerts (s : State) : List String := s.displays.filterMap Display.alert?

variable {s t u : State} {flow : Flow} {place : Nat} {a : Activity}

@[simp] theorem alerts_display (d : Display) (s : State) :
    (s.display d).alerts = s.alerts ++ d.alert?.toList := by
  rw [State.alerts, State.display, List.filterMap_append]
  cases hd : d.alert? <;> simp [State.alerts, hd]

theorem Aloof.alerts {f : State → State} (hf : Aloof f) (s : State) : (f s).alerts = s.alerts :=
  congrArg (List.filterMap Display.alert?) (hf s s.displays).2

/-! ## §2. What only tells of makers. -/

/-- The message tells of a maker that is called and fails, by these marks. -/
def Misfire (flow : Flow) (marks : List Mark) (message : String) : Prop :=
  ∃ k b e, flow.arena[k]? = some b ∧ b.isGenerated = true
    ∧ ⟨k, .called⟩ ∈ marks ∧ ⟨k, .failed⟩ ∈ marks
    ∧ message = (failureOf flow b .execution e).alertText

theorem Misfire.mono {marks more : List Mark} {message : String} (h : Misfire flow marks message)
    (hm : marks ⊆ more) : Misfire flow more message := by
  obtain ⟨k, b, e, hb, generated, called, failed, rfl⟩ := h
  exact ⟨k, b, e, hb, generated, hm called, hm failed, rfl⟩

/-- The trail grows by marks.  Users are told of makers that are called and fail by these marks and
by `later` ones, and then `own`. -/
def Alerts (flow : Flow) (later : List Mark) (own : List String) (s t : State) : Prop :=
  ∃ new noise, t.trail = s.trail ++ new ∧ t.alerts = s.alerts ++ (noise ++ own)
    ∧ ∀ message ∈ noise, Misfire flow (new ++ later) message

/-- Users are told of makers only. -/
abbrev Quiet (flow : Flow) : State → State → Prop := Alerts flow [] []

variable {later : List Mark} {own : List String}

/-- Nothing is told but `own`. -/
theorem alerts_of_own {new : List Mark} (ht : t.trail = s.trail ++ new)
    (ha : t.alerts = s.alerts ++ own) : Alerts flow later own s t :=
  ⟨new, [], ht, ha, fun _ h => absurd h List.not_mem_nil⟩

theorem quiet_of_silent {new : List Mark} (ht : t.trail = s.trail ++ new)
    (ha : t.alerts = s.alerts) : Quiet flow s t :=
  alerts_of_own ht (ha.trans (List.append_nil _).symm)

theorem quiet_mark (place : Nat) (stage : Stage) (s : State) : Quiet flow s (s.mark place stage) :=
  quiet_of_silent (State.trail_mark place stage s) rfl

theorem Alerts.after (h' : Alerts flow later own t u) (h : Quiet flow s t) :
    Alerts flow later own s u := by
  obtain ⟨new, noise, ht, ha, told⟩ := h
  obtain ⟨more, noise', ht', ha', told'⟩ := h'
  refine ⟨new ++ more, noise ++ noise', ?_, ?_, ?_⟩
  · rw [ht', ht, List.append_assoc]
  · rw [ha', ha]
    simp only [List.append_nil, List.append_assoc]
  · intro message hm
    rcases List.mem_append.mp hm with hm | hm
    · exact (told message hm).mono (by simp [List.append_assoc])
    · exact (told' message hm).mono (by simp [List.append_assoc])

theorem alerts_of_quiet (h : Quiet flow s t) (later : List Mark) : Alerts flow later [] s t := by
  obtain ⟨new, noise, ht, ha, told⟩ := h
  refine ⟨new, noise, ht, ha, fun message hm => (told message hm).mono ?_⟩
  rw [List.append_nil]
  exact List.subset_append_left new later

/-- The marks that come later have come. -/
theorem Alerts.closing (h : Alerts flow later own s t) (ht : u.trail = t.trail ++ later)
    (ha : u.alerts = t.alerts) : Alerts flow [] own s u := by
  obtain ⟨new, noise, ht', ha', told⟩ := h
  refine ⟨new ++ later, noise, ?_, ha.trans ha', ?_⟩
  · rw [ht, ht', List.append_assoc]
  · rwa [List.append_nil]

theorem quiet_noting (flow : Flow) : Noting (Quiet flow) where
  refl _ := quiet_of_silent (List.append_nil _).symm rfl
  trans h h' := h'.after h
  note _ _ := quiet_of_silent (List.append_nil _).symm rfl

/-! ## §3. Up to the result. -/

/-- If the run ends well, `R` relates its start and its end. -/
def LeadsWell {σ ε α : Type} (R : σ → σ → Prop) (r : Run σ ε α) : Prop :=
  ∀ s a t, (r s).Ends (.ok a) t → R s t

theorem Leads.well {σ ε α : Type} {R : σ → σ → Prop} {r : Run σ ε α} (h : Leads R r) :
    LeadsWell R r := fun s _ t => h s _ t

variable {run : Executor} {strategy : Strategy} {before : Inherited} {shows : Bool} {result : Json}

/-- Who looks and notes is quiet. -/
theorem quiet_reading (flow : Flow) :
    Reading (fun _ _ => True) (Leads (Quiet flow) : Property State) :=
  (quiet_noting flow).leads _

theorem arguments_quiet (makers : ∀ k ∈ a.makers, Leads (Quiet flow) (run k {} false))
    (before : Inherited) (f : ExecutionError → ActivityFailure) :
    Leads (Quiet flow) ((argumentsOf run a before).mapError f) :=
  (quiet_reading flow).mapError
    (argumentsOf_closed (quiet_reading flow) (fun _ _ => trivial) makers)

theorem preProcessed_quiet (flow : Flow) (a : Activity) (arguments : Arguments) :
    Leads (Quiet flow) (preProcessed flow a arguments) :=
  preProcessed_closed (quiet_reading flow).toLogging flow arguments

/-- A strategy that is no reference tells nothing. -/
theorem callStrategy_quiet (h : strategy.target? = none) (arguments : Arguments) :
    Leads (Quiet flow) (callStrategy run strategy arguments) := by
  refine callStrategy_closed (quiet_reading flow) arguments ?_
  intro k before hk
  rw [h] at hk
  contradiction

theorem callStrategy_quiet_of_ok
    (target : ∀ k before, strategy.target? = some k → LeadsWell (Quiet flow) (run k before false))
    (arguments : Arguments) : LeadsWell (Quiet flow) (callStrategy run strategy arguments) := by
  cases strategy with
  | reference k =>
    intro s result t h
    obtain ⟨y, hy, h⟩ := ends_mapError.mp h
    cases y with
    | ok value => exact target k _ rfl s value t h
    | error e => contradiction
  | function | remote | capability => exact (callStrategy_quiet rfl arguments).well

/-- After the mark of a call comes the call. -/
theorem ends_dispatch {arguments : Arguments} {x : Except ExecutionError Json}
    (h : (dispatch run place a strategy arguments s).Ends x t) :
    ∃ u, u.trail = s.trail ++ [⟨place, .called⟩] ∧ u.alerts = s.alerts
      ∧ (callStrategy run strategy arguments u).Ends x t :=
  ⟨Journal.write _ (s.mark place .called), rfl, rfl, h⟩

theorem resultOf_quiet_of_ok
    (target : ∀ k before, strategy.target? = some k → LeadsWell (Quiet flow) (run k before false))
    (arguments : Arguments) :
    LeadsWell (Quiet flow) (resultOf flow run place a strategy arguments) := by
  intro s result t h
  unfold resultOf at h
  split at h
  · exact (quiet_reading flow).bind ((quiet_reading flow).note _)
      (fun _ => (quiet_reading flow).pure _) s _ t h
  · obtain ⟨outcome, u, hu, h⟩ := ends_bind_ok.mp h
    rw [ends_attempt_ok] at hu
    cases outcome with
    | ok value =>
      obtain ⟨v, trail, alerts, hu⟩ := ends_dispatch hu
      obtain ⟨_, rfl⟩ := h
      exact (callStrategy_quiet_of_ok target arguments v value u hu).after
        (quiet_of_silent trail alerts)
    | error e =>
      obtain ⟨_, _, _, h, _⟩ := ends_bind_ok.mp h
      contradiction

/-- **A call that fails is told of.**  If it is the call of a maker, that it fails too makes this a
misfire. -/
theorem resultOf_alerts_of_error (ha : flow.arena[place]? = some a) (made : a.isGenerated = true)
    (own : strategy.target? = none) {arguments : Arguments} {e : ActivityFailure}
    (h : (resultOf flow run place a strategy arguments s).Ends (.error e) t) :
    Alerts flow [⟨place, .failed⟩] [] s t := by
  unfold resultOf at h
  split at h
  · -- to note and to give a value does not fail
    rcases ends_bind_error.mp h with ⟨h, _⟩ | ⟨_, _, _, h, _⟩
    · contradiction
    · contradiction
  rcases ends_bind_error.mp h with h | ⟨outcome, u, hu, h⟩
  · exact absurd h not_ends_attempt_error
  rw [ends_attempt_ok] at hu
  cases outcome with
  | ok value => exact absurd h.1 (by simp)
  | error failure =>
    obtain ⟨v, trail, alerts, hu⟩ := ends_dispatch hu
    have call : Quiet flow v u := callStrategy_quiet own arguments v _ u hu
    obtain ⟨new, noise, trail', alerts', told⟩ := call
    have called : ⟨place, .called⟩ ∈ [⟨place, .called⟩] ++ new := List.mem_append_left _ (by simp)
    let own := (failureOf flow a .execution failure.message).alertText
    have told' : u.display (.alert own) = t := by
      rcases ends_bind_error.mp h with ⟨h, _⟩ | ⟨_, _, ⟨_, hw⟩, _, ht⟩
      · contradiction
      · exact hw.trans ht
    -- what the call itself tells of comes before its failure
    refine ⟨[⟨place, .called⟩] ++ new, noise ++ [own], ?_, ?_, ?_⟩
    · rw [← told', ← List.append_assoc, ← trail, ← trail']
      rfl
    · rw [← told', alerts_display, alerts', alerts]
      simp only [Display.alert?, Option.toList_some, List.append_nil, List.append_assoc]
    · intro message hm
      rcases List.mem_append.mp hm with hm | hm
      · exact (told message hm).mono (by simp)
      · rw [List.mem_singleton.mp hm]
        exact ⟨place, a, _, ha, made, List.mem_append_left _ called, by simp, rfl⟩

theorem ends_gate_ok (h : (gate flow place a s).Ends (.ok ()) t) : s.mark place .admitted = t := by
  unfold gate at h
  rw [get_bind_apply] at h
  cases hu : unmet? flow s a with
  | none =>
    rw [hu] at h
    exact h.2
  | some message =>
    rw [hu] at h
    obtain ⟨_, _, _, h, _⟩ := ends_bind_ok.mp h
    contradiction

theorem resultFor_quiet_of_ok (makers : ∀ k ∈ a.makers, Leads (Quiet flow) (run k {} false))
    (target : ∀ k before, strategy.target? = some k → LeadsWell (Quiet flow) (run k before false))
    (before : Inherited) : LeadsWell (Quiet flow) (resultFor flow run place a strategy before) := by
  intro s result t h
  obtain ⟨_, u, hgate, h⟩ := ends_bind_ok.mp h
  obtain ⟨found, v, hfound, h⟩ := ends_bind_ok.mp h
  obtain ⟨arguments, w, hpre, h⟩ := ends_bind_ok.mp h
  have called := resultOf_quiet_of_ok target arguments w result t h
  have seen := preProcessed_quiet flow a found v _ w hpre
  have found := arguments_quiet makers before _ u _ v hfound
  rw [← ends_gate_ok hgate] at found
  exact ((called.after seen).after found).after (quiet_mark place .admitted s)

/-- A maker requires nothing and has nothing look at its arguments: only its call can fail. -/
theorem resultFor_alerts_of_error (ha : flow.arena[place]? = some a) (maker : IsMaker a)
    (makers : ∀ k ∈ a.makers, Leads (Quiet flow) (run k {} false)) (own : strategy.target? = none)
    {e : ActivityFailure} (h : (resultFor flow run place a strategy before s).Ends (.error e) t) :
    Alerts flow [⟨place, .failed⟩] [] s t := by
  have entered : Quiet flow s (s.mark place .admitted) := quiet_mark place .admitted s
  rcases ends_bind_error.mp h with hgate | ⟨_, u, hgate, h⟩
  · rw [gate_of_requiring_nothing maker.required] at hgate
    exact absurd hgate.1 (by simp)
  rw [← ends_gate_ok hgate] at h
  rcases ends_bind_error.mp h with h | ⟨arguments, v, hfound, h⟩
  · have found := arguments_quiet makers before _ _ _ t h
    exact alerts_of_quiet (found.after entered) _
  have found := arguments_quiet makers before _ _ _ v hfound
  rw [preProcessed, maker.preProcess] at h
  exact ((resultOf_alerts_of_error ha maker.isGenerated own h).after found).after entered

/-! ## §4. From the result on. -/

/-- What an activity tells of its end. -/
def ending (a : Activity) (shows : Bool) : List String :=
  if announces a shows then ["Activity executed: " ++ a.title] else []

theorem cascade_quiet_of_ok {parent : Json} :
    ∀ (places : List Nat) (previous : Option Json),
      (∀ k ∈ places, ∀ before, LeadsWell (Quiet flow) (run k before shows)) →
      LeadsWell (Quiet flow) (cascade run parent shows places previous)
  | [], _, _ => ((quiet_reading flow).pure ()).well
  | k :: rest, previous, subs => by
      intro s x t h
      obtain ⟨result, u, hk, h⟩ := ends_bind_ok.mp h
      have others := cascade_quiet_of_ok rest (some result)
        (fun k hk => subs k (List.mem_cons_of_mem _ hk)) u x t h
      exact others.after (subs k List.mem_cons_self _ s result u hk)

/-- What is shown of a result is no alert. -/
theorem present_quiet (a : Activity) (result : Json) : Leads (Quiet flow) (present a result) := by
  have shown : ∀ {d : Display}, d.alert? = none → ∀ s : State, Quiet flow s (s.display d) := by
    intro d hd s
    refine quiet_of_silent (List.append_nil _).symm ?_
    rw [alerts_display, hd]
    exact List.append_nil _
  unfold present
  split
  · exact leads_modify (shown rfl)
  split
  · split
    next ui _ =>
      refine leads_modify fun s => (shown rfl _).after ?_
      exact quiet_of_silent ((State.trail_modifyService ..).trans (List.append_nil _).symm)
        ((aloof_modifyService _ _).alerts s)
    · exact (quiet_reading flow).fail _
  split
  · exact leads_modify (shown rfl)
  · exact (quiet_reading flow).pure ()

theorem conclude_alerts {x : Except ActivityFailure Unit}
    (h : (conclude place a result shows s).Ends x t) : Alerts flow [] (ending a shows) s t := by
  unfold conclude ending at *
  split at h
  next announced =>
    obtain ⟨_, rfl⟩ := h
    rw [if_pos announced]
    refine alerts_of_own (trail_complete place a result _) ?_
    rw [(aloof_complete place a result).alerts, alerts_display]
    rfl
  next silent =>
    obtain ⟨_, rfl⟩ := h
    rw [if_neg silent]
    exact quiet_of_silent (trail_complete place a result s)
      ((aloof_complete place a result).alerts s)

theorem handDown_alerts_of_ok
    (subs : ∀ k ∈ a.subActivities, ∀ before, LeadsWell (Quiet flow) (run k before shows))
    (h : (handDown flow run place a result shows s).Ends (.ok ()) t) :
    Alerts flow [] (ending a shows) s t := by
  obtain ⟨_, u, hc, h⟩ := ends_bind_ok.mp h
  obtain ⟨_, v, hp, h⟩ := ends_bind_ok.mp h
  obtain ⟨x, hx, hc⟩ := ends_mapError.mp hc
  cases x with
  | error e => contradiction
  | ok _ =>
    have cascade := cascade_quiet_of_ok a.subActivities none subs s _ u hc
    have present := (quiet_reading flow).mapError (present_quiet a result) u _ v hp
    exact ((conclude_alerts h).after present).after cascade

/-- **An activity that ends well tells of its end**, if those that it runs tell nothing. -/
theorem runActivity_alerts_of_ok
    (makers : ∀ k ∈ a.makers, Leads (Quiet flow) (run k {} false))
    (target : ∀ k before, a.target? = some k → LeadsWell (Quiet flow) (run k before false))
    (subs : ∀ k ∈ a.subActivities, ∀ before, LeadsWell (Quiet flow) (run k before shows))
    (h : (runActivity flow run place a before shows s).Ends (.ok result) t) :
    Alerts flow [] (ending a shows) s t := by
  obtain ⟨strategy, u, hs, hresult, hdown⟩ := ends_runActivity_ok h
  have own : ∀ k before, strategy.target? = some k →
      LeadsWell (Quiet flow) (run k before false) := by
    intro k before hk
    refine target k before ?_
    rw [Activity.target?, hs]
    exact hk
  have found := resultFor_quiet_of_ok makers own before s result u hresult
  have settled : Quiet flow u (u.settle place a result) :=
    quiet_of_silent (trail_settle place a result u) ((aloof_settle place a result).alerts u)
  exact ((handDown_alerts_of_ok subs hdown).after settled).after found

/-- **A maker that fails tells of nothing but misfires**, and its own is one if its call fails. -/
theorem runActivity_alerts_of_error (ha : flow.arena[place]? = some a) (maker : IsMaker a)
    (makers : ∀ k ∈ a.makers, Leads (Quiet flow) (run k {} false)) {e : ActivityFailure}
    (h : (runActivity flow run place a before shows s).Ends (.error e) t) :
    Alerts flow [⟨place, .failed⟩] [] s t := by
  rcases ends_runActivity_error h with ⟨_, rfl⟩ | ⟨strategy, hs, h⟩
  · exact alerts_of_quiet ((quiet_noting flow).refl s) _
  have own : strategy.target? = none := by
    have := Activity.target?_of_not_isReference maker.isReference
    rwa [Activity.target?, hs] at this
  rcases h with h | ⟨result, u, _, h⟩
  · exact resultFor_alerts_of_error ha maker makers own h
  · -- without sub-activities, and with nothing to show, nothing can fail after the call
    rw [handDown_of_bare maker.subActivities maker.presentation] at h
    unfold conclude at h
    split at h
    · obtain ⟨h, _⟩ := h
      contradiction
    · obtain ⟨h, _⟩ := h
      contradiction

/-! ## §5. Whole runs. -/

theorem traced_alerts_of_ok {r : Run State ActivityFailure Json}
    (run : ∀ s t, (r s).Ends (.ok result) t → Alerts flow [] own s t)
    (h : (traced place before r s).Ends (.ok result) t) : Alerts flow [] own s t :=
  (run _ t (ends_traced_ok.mp h)).after (quiet_mark place _ s)

theorem traced_quiet_of_error {r : Run State ActivityFailure Json} {e : ActivityFailure}
    (run : ∀ s t, (r s).Ends (.error e) t → Alerts flow [⟨place, .failed⟩] [] s t)
    (h : (traced place before r s).Ends (.error e) t) : Quiet flow s t := by
  obtain ⟨u, hu, rfl⟩ := ends_traced_error h
  have failed := (run _ u hu).after (quiet_mark place _ s)
  exact failed.closing (State.trail_mark place .failed u) rfl

/-- **A run that ends well tells of its end and of makers that misfire; a maker tells of no more
however it ends.** -/
theorem execute_alerts (ho : Orderly flow) : ∀ (place : Nat) (a : Activity),
    flow.arena[place]? = some a →
      (∀ before shows s result t, (execute flow place before shows s).Ends (.ok result) t →
        Alerts flow [] (ending a shows) s t)
      ∧ (IsMaker a → ∀ before, Leads (Quiet flow) (execute flow place before false)) := by
  intro place
  -- the callees of an activity come before it in the order of calls
  induction place using (Flow.calls_wellFounded ho).induction with
  | _ place ih =>
    intro a ha
    have placed := ho.placed place a ha
    have makers : ∀ k ∈ a.makers, Leads (Quiet flow) (execute flow k {} false) := by
      intro k hk
      obtain ⟨_, b, hb, maker, _⟩ := placed.maker k hk
      exact (ih k ⟨a, ha, Activity.mem_callees.mpr (.inl hk)⟩ b hb).2 maker {}
    have target : ∀ k before, a.target? = some k →
        LeadsWell (Quiet flow) (execute flow k before false) := by
      intro k before hk s result t h
      obtain ⟨_, b, hb, _⟩ := placed.target k hk
      have told := (ih k ⟨a, ha, Activity.mem_callees.mpr (.inr (.inl hk))⟩ b hb).1 before false
        s result t h
      rwa [ending, announces, Bool.and_false] at told
    have subs : ∀ shows, ∀ k ∈ a.subActivities, ∀ before,
        LeadsWell (Quiet flow) (execute flow k before shows) := by
      intro shows k hk before s result t h
      obtain ⟨_, b, hb, _, above, _⟩ := placed.sub k hk
      have told := (ih k ⟨a, ha, Activity.mem_callees.mpr (.inr (.inr hk))⟩ b hb).1 before shows
        s result t h
      rwa [ending, announces, above, Option.isNone_some] at told
    have well : ∀ before shows s result t,
        (execute flow place before shows s).Ends (.ok result) t →
          Alerts flow [] (ending a shows) s t := by
      intro before shows s result t h
      rw [execute_eq ho ha] at h
      exact traced_alerts_of_ok
        (fun s t h => runActivity_alerts_of_ok makers target (subs shows) h) h
    refine ⟨well, fun maker before s x t h => ?_⟩
    cases x with
    | ok result =>
      have told := well before false s result t h
      rwa [ending, announces, Bool.and_false] at told
    | error e =>
      rw [execute_eq ho ha] at h
      exact traced_quiet_of_error
        (fun s t h => runActivity_alerts_of_error ha maker makers h) h

/-- An activity at the top tells of its end, unless it is a reference, or is not to tell, or the
host does not want it to. -/
theorem ending_of_top (top : a.parent = none) : ending a shows
    = if shows && !a.isReference && a.presentation.alert ≠ some false
      then ["Activity executed: " ++ a.title] else [] := by
  unfold ending announces
  rw [top, Option.isNone_none, Bool.true_and, Bool.and_comm, Bool.and_assoc]

/-- **A run that ends well tells of its end, and else of makers that misfire.**  In every built
flow, when an operation that runs an activity has ended well, its user has been told of the end of
that activity, once and last, unless it is a reference or is not to tell.  Whatever else the user
has been told of is a maker which was called in this run and failed; so it is nothing at all if
there was none. -/
theorem successful_run_alerts_its_end {m : Materials} {page : Document.Page}
    {process : Document.Process} (hb : IsBuilt m page process flow) {service name : String}
    (known : knownActivity flow service name = .ok (place, a))
    (h : (executeActivity flow service name shows s).Ends (.ok result) t) :
    ∃ new noise, t.trail = s.trail ++ new
      ∧ t.alerts = s.alerts ++ (noise
        ++ if shows && !a.isReference && a.presentation.alert ≠ some false
          then ["Activity executed: " ++ a.title] else [])
      ∧ (∀ message ∈ noise, Misfire flow new message)
      ∧ ((∀ k b, flow.arena[k]? = some b → b.isGenerated = true → ⟨k, .called⟩ ∈ new →
        ⟨k, .failed⟩ ∉ new) → noise = []) := by
  obtain ⟨hfind, ha⟩ := getElem?_of_knownActivity known
  obtain ⟨b, hb', _, top, _⟩ := hb.orderly.top service name place hfind
  obtain rfl := Option.some.inj (ha.symm.trans hb')
  obtain ⟨_, u, hrun, rfl⟩ := ends_executeActivity_ok hfind h
  obtain ⟨new, noise, trail, alerts, told⟩ :=
    (execute_alerts hb.orderly place a ha).1 _ _ _ _ _ hrun
  rw [List.append_nil] at told
  rw [ending_of_top top] at alerts
  refine ⟨new, noise, ?_, ?_, told, ?_⟩
  · rw [State.trail_release, trail, State.trail_occupy]
  · have released : (u.release service).alerts = u.alerts := (aloof_release service).alerts u
    have occupied : (s.occupy service name).alerts = s.alerts :=
      (aloof_modifyService service _).alerts s
    rw [released, alerts, occupied]
  · intro none
    refine List.eq_nil_iff_forall_not_mem.mpr fun message hm => ?_
    obtain ⟨k, b, _, hk, generated, called, failed, _⟩ := told message hm
    exact none k b hk generated called failed

/-! ## §6. The shop. -/

/-- Where all goes well, loading the shop tells of nothing but its own end. -/
theorem successful_run_alerts_its_end_shop :
    IsBuilt shopMaterials {} shopProcess shopFlow
    ∧ ∃ t, (executeActivity shopFlow "shop" "load" true (initial shopFlow)).Ends
        (.ok (.integer 7)) t
      ∧ t.alerts = ["Activity executed: load"] := by
  have outcome : (loadedShop.map fun r =>
      (r.1, r.2.trail.all fun m => decide (m.stage ≠ .failed)))
        = some (.ok (.integer 7), true) := by
    decide +kernel
  have load : (knownActivity shopFlow "shop" "load").toOption.map (fun found =>
      (found.2.title, found.2.isReference, found.2.presentation.alert))
        = some ("load", false, none) := by
    decide +kernel
  obtain ⟨⟨result, t⟩, ht, hr⟩ := Option.map_eq_some_iff.mp outcome
  obtain ⟨rfl, well⟩ : result = .ok (.integer 7) ∧ _ := Prod.mk.inj hr
  have ends := Task.ends_of_finish sevenAnswers (Prod.ext ht rfl)
  cases known : knownActivity shopFlow "shop" "load" with
  | error e =>
    rw [known] at load
    contradiction
  | ok found =>
    rw [known] at load
    obtain ⟨title, own, alert⟩ := by simpa [Except.toOption] using load
    obtain ⟨new, noise, trail, alerts, _, none⟩ :=
      successful_run_alerts_its_end shopFlow_isBuilt known ends
    have quiet : noise = [] := by
      refine none fun k b _ _ _ failed => ?_
      have mark : ⟨k, .failed⟩ ∈ t.trail := by
        rw [trail]
        exact List.mem_append_right _ failed
      exact absurd rfl (of_decide_eq_true (List.all_eq_true.mp well _ mark))
    refine ⟨shopFlow_isBuilt, t, ends, ?_⟩
    rw [alerts, quiet, title, own, alert]
    rfl

/-- The first function that is called fails, and others give 7. -/
def stumblingAnswers : Task.Environment Bool
  | .call _ _, false => (.error (.failed "broken"), true)
  | q, stumbled => ((sevenAnswers q ()).1, stumbled)

/-- Where the key cannot be made, the shop is loaded without it; but its user is told of the
failure, and then of the end. -/
theorem failed_maker_is_told_of :
    IsBuilt shopMaterials {} shopProcess shopFlow
    ∧ ∃ t, (executeActivity shopFlow "shop" "load" true (initial shopFlow)).Ends
        (.ok (.integer 7)) t
      ∧ t.alerts = ["Activity-error (service: shop):PARAMETER-GENERATE-ACTIVITY-load_key : broken",
        "Activity executed: load"] := by
  have outcome : (((executeActivity shopFlow "shop" "load" true (initial shopFlow)).finish
      stumblingAnswers false).1.map fun r => (r.1, r.2.alerts)) = some (.ok (.integer 7),
        ["Activity-error (service: shop):PARAMETER-GENERATE-ACTIVITY-load_key : broken",
          "Activity executed: load"]) := by
    decide +kernel
  obtain ⟨⟨result, t⟩, ht, hr⟩ := Option.map_eq_some_iff.mp outcome
  obtain ⟨rfl, alerts⟩ : result = .ok (.integer 7) ∧ _ := Prod.mk.inj hr
  exact ⟨shopFlow_isBuilt, t, Task.ends_of_finish stumblingAnswers (Prod.ext ht rfl), alerts⟩

end Pageflow.Run
