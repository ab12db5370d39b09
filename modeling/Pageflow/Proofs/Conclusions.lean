/-
  Pageflow.Proofs.Conclusions — what operations report, and when they report a failure.

  A run of an activity reports and logs ends, and no failures.  A failure is reported by what a
  host does around the run: when an activity or a step of a sequence that was started at the top
  has failed, as the last thing that the operation does.  Operations that are refused, and
  external calls, report no failure.

  Main definitions: `Task.Concludes`, `Concluded` and `Operation.RunsAtTop`.
  Main statements: `execute_reports`, `runTop_concludes` and `Operation.concludes`.
-/
import Pageflow.Proofs.Errands
import Pageflow.Proofs.Reports

namespace Pageflow

/-! ## §1. How tasks conclude. -/

namespace Task

variable {σ α β : Type} {R : σ → σ → Prop} {E : α → σ → σ → Prop} {E' : β → σ → σ → Prop}

/-- The task ends; each of its stretches but the last relates the states by `R`, and the last one
by what `E` says of the value. -/
def Concludes (R : σ → σ → Prop) (E : α → σ → σ → Prop) : Task σ α → σ → Prop
  | .done a s', s => E a s s'
  | .endless, _ => False
  | .ask _ s' resume, s => R s s' ∧ ∀ answer t, (resume answer t).Concludes R E t

theorem Within.concludes (hE : ∀ a s t, R s t → E a s t) :
    ∀ {t : Task σ α} {s : σ}, t.Within R s → t.Concludes R E s
  | .done _ _, _, ht => hE _ _ _ ht
  | .endless, _, ht => ht
  | .ask _ _ _, _, ht => ⟨ht.1, fun answer t => (ht.2 answer t).concludes hE⟩

/-- A stretch may be prolonged at its start. -/
theorem Concludes.after (hR : Chained R) (hE : ∀ a s t u, R s t → E a t u → E a s u) {s s' : σ}
    (h : R s s') : ∀ {t : Task σ α}, t.Concludes R E s' → t.Concludes R E s
  | .done _ _, ht => hE _ _ _ _ h ht
  | .endless, ht => ht
  | .ask _ _ _, ht => ⟨hR.trans h ht.1, ht.2⟩

/-- What comes next goes on from the last stretch. -/
theorem Concludes.bind {next : α → σ → Task σ β}
    (hn : ∀ a s u, E a s u → (next a u).Concludes R E' s) :
    ∀ {t : Task σ α} {s : σ}, t.Concludes R E s → (t.bind next).Concludes R E' s
  | .done a u, s, ht => hn a s u ht
  | .endless, _, ht => ht
  | .ask _ _ _, _, ht => ⟨ht.1, fun answer t => (ht.2 answer t).bind hn⟩

end Task

namespace Run

open Pageflow.Flow (Activity Orderly)

variable {flow : Flow} {s t u : State} {α β : Type} {place : Nat} {a : Activity}
  {service name : String} {shows : Bool}

/-! ## §2. Runs of activities. -/

theorem reports_noting (flow : Flow) : Noting (Reports flow) where
  toChained := reports_chained flow
  note _ _ := ⟨[], reported_silent rfl rfl rfl rfl⟩

/-- **A run of an activity reports and logs ends, and no failures.** -/
theorem execute_reports (ho : Orderly flow) (ha : flow.arena[place]? = some a)
    (before : Inherited) (shows : Bool) :
    (execute flow place before shows).Within (Reports flow) := by
  have hlt := (List.getElem?_eq_some_iff.mp ha).1
  have steps : (execute flow place before shows).Within (Steps flow fun _ => True) :=
    execute_within ho (fun _ _ _ _ => trivial) (fun _ _ _ => trivial) place hlt trivial _ _
  exact fun s => (steps s).mono fun _ _ => reports_steps

/-- At its end a run of the activity at a place that fails puts the mark of that. -/
def RunEnds (flow : Flow) (place : Nat) (s t : State) : Except ActivityFailure Json → Prop
  | .ok _ => Reports flow s t
  | .error _ => ∃ new, Reported flow (new ++ [⟨place, .failed⟩]) [] s t

theorem traced_concludes {r : Run State ActivityFailure Json} (inside : r.Within (Reports flow))
    (before : Inherited) (s : State) : (traced place before r s).Concludes (Reports flow)
      (fun x s t => RunEnds flow place s t x) s := by
  have entered : Reports flow s (s.mark place (.entered before)) := ⟨_, reported_mark rfl s⟩
  have first := (inside (s.mark place (.entered before))).after (reports_chained flow) entered
  -- first the run, and then a look at how it has ended
  show (((r (s.mark place (.entered before))).bind fun x u => .done (Except.ok x) u).bind
    _).Concludes (Reports flow) _ s
  rw [Task.bind_assoc]
  refine (first.concludes fun _ _ _ h => h).bind ?_
  intro x v u h
  cases x with
  | ok result => exact h
  | error e =>
    obtain ⟨new, h⟩ := h
    exact ⟨new, h.trans (reported_mark rfl u)⟩

theorem execute_concludes (ho : Orderly flow) (ha : flow.arena[place]? = some a)
    (before : Inherited) (shows : Bool) (s : State) :
    (execute flow place before shows s).Concludes (Reports flow)
      (fun x s t => RunEnds flow place s t x) s := by
  have inside : (runActivity flow (execute flow) place a before shows).Within
      (Steps flow fun _ => True) := by
    refine runActivity_closed (steps_showing flow fun _ => True) (fun _ _ => trivial)
      (parts_within ha fun _ => trivial) ?_ before
    intro k hk before shows
    obtain ⟨b, hb⟩ := Flow.exists_of_calls ho ⟨a, ha, hk⟩
    exact execute_within ho (fun _ _ _ _ => trivial) (fun _ _ _ => trivial) k
      (List.getElem?_eq_some_iff.mp hb).1 trivial before shows
  rw [execute_eq ho ha]
  exact traced_concludes (fun s => (inside s).mono fun _ _ => reports_steps) before s

/-! ## §3. How operations conclude. -/

/-- The failure is that of a run that was started at the top. -/
def HostError.isOfRun : HostError → Bool
  | .activity _ => true
  | .autostart e => e.isOfRun
  | _ => false

theorem isOfRun_of_knownActivity {e : HostError} (h : knownActivity flow service name = .error e) :
    e.isOfRun = false := by
  unfold knownActivity at h
  simp only at h
  split at h
  · contradiction
  · obtain rfl := Except.error.inj h
    rfl

theorem isOfRun_of_knownService {e : HostError} (h : knownService flow service = .error e) :
    e.isOfRun = false := by
  unfold knownService at h
  split at h
  · contradiction
  · obtain rfl := Except.error.inj h
    rfl

theorem isOfRun_of_knownTop {e : HostError} (h : knownTop flow service name = .error e) :
    e.isOfRun = false := by
  unfold knownTop at h
  split at h
  · exact isOfRun_of_knownActivity h
  next hs =>
    obtain rfl := Except.error.inj h
    exact isOfRun_of_knownService hs

theorem isOfRun_of_knownSteps {e : HostError} (h : knownSteps flow service name = .error e) :
    e.isOfRun = false := by
  unfold knownSteps at h
  split at h
  · split at h
    · contradiction
    · obtain rfl := Except.error.inj h
      rfl
  next hs =>
    obtain rfl := Except.error.inj h
    exact isOfRun_of_knownService hs

/-- How an operation concludes that may run these activities at the top.  If one of them has failed
that was run, its failure is reported, after the mark of it and as the last event.  Whatever else
the operation comes to, it reports no failure. -/
inductive Concluded (flow : Flow) (top : String → String → Prop) :
    Except HostError α → State → State → Prop
  | well {x : α} {s t : State} (h : Reports flow s t) : Concluded flow top (.ok x) s t
  | apart {e : HostError} {s t : State} (he : e.isOfRun = false) (h : Reports flow s t) :
      Concluded flow top (.error e) s t
  | failed {e : HostError} {s t : State} {service name : String} {place : Nat} {a : Activity}
      {new : List Mark} (he : e.isOfRun = true) (ht : top service name)
      (known : knownActivity flow service name = .ok (place, a))
      (h : Reported flow (new ++ [⟨place, .failed⟩]) [⟨service, name, a.title⟩] s t) :
      Concluded flow top (.error e) s t

variable {top : String → String → Prop}

namespace Concluded

variable {x : Except HostError α}

theorem after (h : Reports flow s t) (h' : Concluded flow top x t u) :
    Concluded flow top x s u := by
  cases h' with
  | well h' => exact .well ((reports_chained flow).trans h h')
  | apart he h' => exact .apart he ((reports_chained flow).trans h h')
  | failed he ht known h' =>
    obtain ⟨first, h⟩ := h
    have both := h.trans h'
    rw [← List.append_assoc] at both
    exact .failed he ht known both

/-- What is silent may follow. -/
theorem silently (h : Concluded flow top x s t) (h' : Reported flow [] [] t u) :
    Concluded flow top x s u := by
  cases h with
  | well h =>
    obtain ⟨new, h⟩ := h
    exact .well ⟨new, h.silently h'⟩
  | apart he h =>
    obtain ⟨new, h⟩ := h
    exact .apart he ⟨new, h.silently h'⟩
  | failed he ht known h => exact .failed he ht known (h.silently h')

/-- A failure may be passed on in other words. -/
theorem error {e e' : HostError} (same : e'.isOfRun = e.isOfRun)
    (h : Concluded flow top (.error e : Except HostError α) s t) :
    Concluded flow top (.error e' : Except HostError β) s t := by
  cases h with
  | apart he h => exact .apart (same.trans he) h
  | failed he ht known h => exact .failed (same.trans he) ht known h

end Concluded

/-- The run concludes, whatever the state is in which it starts. -/
def Concludes (flow : Flow) (top : String → String → Prop) (r : Run State HostError α) : Prop :=
  ∀ s, (r s).Concludes (Reports flow) (Concluded flow top) s

/-- A task may conclude after more has been reported. -/
theorem concludes_after {task : Task State (Except HostError α)} (h : Reports flow s t)
    (ht : task.Concludes (Reports flow) (Concluded flow top) t) :
    task.Concludes (Reports flow) (Concluded flow top) s :=
  ht.after (E := Concluded flow top) (reports_chained flow)
    (fun _ _ _ _ h h' => Concluded.after h h') h

theorem concludes_pure (x : α) : Concludes flow top (pure x) :=
  fun s => .well ((reports_chained flow).refl s)

/-- What comes next concludes as it does, if there comes anything next. -/
theorem concludes_bind {r : Run State HostError α} {next : α → Run State HostError β}
    (hr : Concludes flow top r) (hn : ∀ x, Concludes flow top (next x)) :
    Concludes flow top (r >>= next) := by
  intro s
  refine (hr s).bind ?_
  intro x s u h
  cases x with
  | error e => exact h.error rfl
  | ok x =>
    cases h with
    | well h => exact concludes_after h (hn x u)

theorem concludes_ofExcept_bind {x : Except HostError α} {next : α → Run State HostError β}
    (he : ∀ e, x = .error e → e.isOfRun = false)
    (hn : ∀ y, x = .ok y → Concludes flow top (next y)) :
    Concludes flow top (ofExcept x >>= next) := by
  cases x with
  | ok y => exact hn y rfl
  | error e => exact fun s => .apart (he e rfl) ((reports_chained flow).refl s)

/-- Nothing is reported when a service starts or is released. -/
theorem guarded_concludes {r : Run State HostError α} (hr : Concludes flow top r) :
    Concludes flow top (guarded service name r) := by
  intro s
  cases hs : s.running? service with
  | some other =>
    rw [guarded_of_busy hs]
    exact .apart rfl ((reports_chained flow).refl s)
  | none =>
    rw [guarded_of_free hs]
    have occupied : Reports flow s (s.occupy service name) := ⟨_, reported_modifyService s _ _⟩
    refine (concludes_after occupied (hr (s.occupy service name))).bind ?_
    intro x s u h
    exact h.silently (reported_release u service)

/-- **A run at the top that fails reports its failure**, last of all. -/
theorem runTop_concludes (ho : Orderly flow)
    (known : knownActivity flow service name = .ok (place, a)) (ht : top service name) :
    Concludes flow top (runTop flow service name place a shows) := by
  intro s
  have ha := (getElem?_of_knownActivity known).2
  show (((execute flow place {} shows s).bind fun x u => .done (Except.ok x) u).bind
    _).Concludes (Reports flow) _ s
  rw [Task.bind_assoc]
  refine (execute_concludes ho ha {} shows s).bind ?_
  intro x s u h
  cases x with
  | ok result => exact .well h
  | error e =>
    obtain ⟨new, h⟩ := h
    have reported := h.trans (reported_recordFailed ⟨service, name, a.title⟩ u)
    rw [List.append_nil] at reported
    exact .failed rfl ht known reported

/-- **A sequence reports the failure of its last step**, if that has failed. -/
theorem runSteps_concludes (ho : Orderly flow) :
    ∀ names : List String, (∀ name ∈ names, top service name) →
      Concludes flow top (runSteps flow service names)
  | [], _ => concludes_pure []
  | name :: rest, ht => by
      refine concludes_ofExcept_bind (fun _ => isOfRun_of_knownActivity) ?_
      rintro ⟨place, a⟩ known
      refine concludes_bind (runTop_concludes ho known (ht name List.mem_cons_self)) fun _ => ?_
      refine concludes_bind (runSteps_concludes ho rest ?_) fun _ => concludes_pure _
      exact fun name hname => ht name (List.mem_cons_of_mem _ hname)

theorem executeActivity_concludes (ho : Orderly flow) (ht : top service name) :
    Concludes flow top (executeActivity flow service name shows) := by
  rw [executeActivity_eq]
  refine concludes_ofExcept_bind (fun _ => isOfRun_of_knownTop) ?_
  rintro ⟨place, a⟩ known
  exact guarded_concludes (runTop_concludes ho (knownActivity_of_knownTop known) ht)

theorem executeSequence_concludes (ho : Orderly flow)
    (ht : ∀ names, knownSteps flow service name = .ok names → ∀ step ∈ names, top service step) :
    Concludes flow top (executeSequence flow service name) := by
  rw [executeSequence_eq]
  refine concludes_ofExcept_bind (fun _ => isOfRun_of_knownSteps) ?_
  intro names known
  exact guarded_concludes (runSteps_concludes ho names (ht names known))

theorem concludes_note (n : Note) : Concludes flow top (note n) :=
  fun _ => .well ⟨[], reported_silent rfl rfl rfl rfl⟩

theorem concludes_mapError {r : Run State HostError α} (hr : Concludes flow top r)
    {f : HostError → HostError} (hf : ∀ e, (f e).isOfRun = e.isOfRun) :
    Concludes flow top (r.mapError f) := by
  intro s
  refine (hr s).bind ?_
  intro x s u h
  cases x with
  | ok x => exact h
  | error e => exact h.error (hf e)

/-- **Starting up reports the failure of the activity at which it stops.** -/
theorem autostart_concludes (ho : Orderly flow)
    (ht : ∀ known ∈ flow.allServices, ∀ name ∈ known.autostart, top known.name name) :
    Concludes flow top (autostart flow) := by
  have steps : ∀ service names, (∀ name ∈ names, top service name) →
      Concludes flow top (autostartSteps flow service names) := by
    intro service names
    induction names with
    | nil => exact fun _ => concludes_pure ()
    | cons name rest ih =>
      intro ht
      have run : Concludes flow top (executeActivity flow service name true) :=
        executeActivity_concludes ho (ht name List.mem_cons_self)
      refine concludes_bind (concludes_note _) fun _ => ?_
      refine concludes_bind (concludes_mapError run fun _ => rfl) fun _ => ?_
      exact ih fun name hname => ht name (List.mem_cons_of_mem _ hname)
  have services : ∀ services : List Flow.Service, (∀ known ∈ services,
      ∀ name ∈ known.autostart, top known.name name) →
      Concludes flow top (autostartServices flow services) := by
    intro services
    induction services with
    | nil => exact fun _ => concludes_pure ()
    | cons known rest ih =>
      intro ht
      refine concludes_bind ?_ fun _ => ih fun k hk => ht k (List.mem_cons_of_mem _ hk)
      unfold autostartService
      simp only
      split
      · exact steps _ _ (ht known List.mem_cons_self)
      · exact concludes_note _
  exact services _ ht

theorem callOnly_reports (ho : Orderly flow) (c : ExternalCall)
    (ha : flow.arena[place]? = some a) : (callOnly flow c place a).Within (Reports flow) := by
  have placed := ho.placed place a ha
  refine callOnly_closed ((reports_noting flow).reading fun _ _ => True) (fun _ _ => trivial) c
    (within_modify fun s => ⟨_, reported_mark rfl s⟩) ?_ ?_
  · intro k hk
    obtain ⟨_, b, hb, _⟩ := placed.maker k hk
    exact execute_reports ho hb _ _
  · intro k before hk
    obtain ⟨_, b, hb, _⟩ := placed.target k hk
    exact execute_reports ho hb _ _

/-- **An external call reports no failure**, whatever it comes to. -/
theorem externalCall_concludes (ho : Orderly flow) (c : ExternalCall) :
    Concludes flow top (externalCall flow c) := by
  have chained := reports_chained flow
  have inside : (callGuarded flow c).Within (Reports flow) := by
    refine callGuarded_of_callOnly (within_closed chained) c ?_ ?_ ?_
    · exact start_within chained fun s => ⟨_, reported_modifyService s _ _⟩
    · exact within_modify fun s => ⟨_, reported_release s _⟩
    · exact fun place a known => callOnly_reports ho c (getElem?_of_knownActivity known).2
  have worded : ∀ e, (callError c e).isOfRun = false := by
    intro e
    cases e <;> rfl
  intro s
  show (((callGuarded flow c s).bind fun x u => .done (Except.ok x) u).bind
    _).Concludes (Reports flow) _ s
  rw [Task.bind_assoc]
  refine ((inside s).concludes (E := fun _ => Reports flow) fun _ _ _ h => h).bind ?_
  intro x s u h
  cases x with
  | ok result => exact .well h
  | error e =>
    have told : Reports flow u (u.display (.alert (callError c e).message)) :=
      ⟨[], reported_silent rfl rfl rfl rfl⟩
    exact .apart (worded e) (chained.trans h told)

/-- The operation may run this activity at the top. -/
def Operation.RunsAtTop (flow : Flow) : Operation → String → String → Prop
  | activity service name _, service', name' => service' = service ∧ name' = name
  | sequence service name, service', name' => service' = service
    ∧ ∃ names, knownSteps flow service name = .ok names ∧ name' ∈ names
  | autostart, service', name' => ∃ s ∈ flow.allServices, s.name = service' ∧ name' ∈ s.autostart
  | call _, _, _ => False

/-- **Every operation reports the ends of activities while it goes on**, and the failure of one that
it has run at the top only when it ends by that. -/
theorem Operation.concludes (ho : Orderly flow) (op : Operation) :
    Concludes flow (op.RunsAtTop flow) (op.run flow) := by
  have thrown : ∀ {α : Type} {r : Run State HostError α} {top : String → String → Prop},
      Concludes flow top r → Concludes flow top (r >>= fun _ => pure ()) :=
    fun h => concludes_bind h fun _ => concludes_pure ()
  cases op with
  | activity service name shows => exact thrown (executeActivity_concludes ho ⟨rfl, rfl⟩)
  | sequence service name =>
    exact thrown (executeSequence_concludes ho fun names h step hs => ⟨rfl, names, h, hs⟩)
  | autostart =>
    exact autostart_concludes ho fun known hknown name hname => ⟨known, hknown, rfl, hname⟩
  | call c => exact thrown (externalCall_concludes ho c)

end Run

end Pageflow
