/-
  Pageflow.Proofs.Cascade — sub-activities run in a cascade, and in no other way.

  Once the result of an activity is settled its sub-activities run one after the other, in the
  order of the arena.  Each starts after the result above it and that of the one next to it, and
  none starts twice in one run of the activity above.  The first one that fails is the last: the
  activity above fails in turn, with nothing more than a mark.  Whatever was stored or logged by
  then stays: the stores hold what the marks so far have stored, and the log has what they say
  has ended well.

  Main definitions: `Kept` and `CascadeRun`.
  Main statements: `kept_steps` and `sub_activities_cascade`.
-/
import Mathlib.Data.List.Nodup
import Pageflow.Proofs.Declarations
import Pageflow.Proofs.Leading
import Pageflow.Proofs.Requirements
import Pageflow.Proofs.Starts
import Pageflow.Proofs.Stored

namespace Pageflow.Run

open Pageflow.Flow (Activity IsBuilt Materials Orderly Rising)

/-! ## §1. What is kept. -/

/-- The trail has grown by these marks, the entries of the stores hold what they have stored last,
and the log has in addition what they say has ended well. -/
structure Kept (flow : Flow) (new : List Mark) (s t : State) : Prop extends
    Accounts flow new s t where
  executed : s.executed <+: t.executed
  log : ∀ service name, t.isExecuted service name = true ↔
    s.isExecuted service name = true ∨ HasRun flow new service name

variable {flow : Flow} {allowed : Mark → Prop} {s t u : State} {new more : List Mark}

theorem Kept.trans (h : Kept flow new s t) (h' : Kept flow more t u) :
    Kept flow (new ++ more) s u where
  toAccounts := h.toAccounts.trans h'.toAccounts
  executed := h.executed.trans h'.executed
  log service name := by rw [h'.log, h.log, hasRun_append, or_assoc]

/-- The log stays as it is, and nothing is said to have ended. -/
theorem Kept.of_eq (accounts : Accounts flow new s t) (executed : t.executed = s.executed)
    (h : ∀ m ∈ new, ∀ result, m.stage ≠ .completed result) : Kept flow new s t where
  toAccounts := accounts
  executed := ⟨[], (List.append_nil _).trans executed.symm⟩
  log service name := by
    rw [State.isExecuted, executed, ← State.isExecuted]
    refine (or_iff_left ?_).symm
    rintro ⟨place, a, result, hm, _⟩
    exact h _ hm result rfl

theorem executed_complete (place : Nat) (a : Activity) (result : Json) (s : State) :
    s.executed <+: (s.complete place a result).executed := by
  unfold State.complete State.recordExecuted State.remember
  cases a.isGenerated with
  | true => exact List.prefix_refl _
  | false =>
    simp only [Bool.false_eq_true, if_false, State.executed_emit]
    split
    · exact List.prefix_refl _
    · exact List.prefix_append _ _

/-- **What a step stores and logs is what its mark says.** -/
theorem kept_step (step : Step flow allowed s t) : ∃ new, Kept flow new s t := by
  obtain ⟨new, accounts, _⟩ := recorded_step step
  refine ⟨new, ?_⟩
  -- the new marks are known from what the step adds to the trail
  have silent : t.trail = s.trail → new = [] := by
    intro h
    exact List.append_right_eq_self.mp (accounts.trail.symm.trans h)
  have marked : ∀ {m : Mark}, t.trail = s.trail ++ [m] → new = [m] := by
    intro m h
    exact List.append_cancel_left (accounts.trail.symm.trans h)
  cases step with
  | complete _ ha =>
    obtain rfl := marked (trail_complete ..)
    refine ⟨accounts, executed_complete .., ?_⟩
    intro service name
    rw [isExecuted_complete, hasRun_completed ha]
  | settle _ ha =>
    obtain rfl := marked (trail_settle ..)
    exact .of_eq accounts (executed_settle ..) (by simp)
  | insert ui _ ha _ =>
    obtain rfl := silent (State.trail_modifyService s _ _)
    exact .of_eq accounts (State.executed_modifyService s _ _) (by simp)
  | note | display =>
    obtain rfl := silent rfl
    exact .of_eq accounts rfl (by simp)
  | enter | letIn | call | fail =>
    obtain rfl := marked rfl
    exact .of_eq accounts rfl (by simp)

/-- **What steps store and log is what their marks say**, and nothing of it is undone. -/
theorem kept_steps (steps : Steps flow allowed s t) : ∃ new, Kept flow new s t := by
  induction steps with
  | refl => exact ⟨[], .of_eq (accounts_of_same rfl ⟨rfl, rfl⟩) rfl (by simp)⟩
  | tail _ step ih =>
    obtain ⟨new, kept⟩ := ih
    obtain ⟨more, kept'⟩ := kept_step step
    exact ⟨new ++ more, kept.trans kept'⟩

/-! ## §2. Cascades. -/

/-- What the run of the activity at place `p` tells: a story in which no sub-activity starts
twice. -/
structure CascadeRun (flow : Flow) (p : Nat) (before : Inherited) (told : List Mark)
    (outcome : Except ActivityFailure Json) (t : State) : Prop where
  story : Story flow p before told outcome t
  once : ∀ a, flow.arena[p]? = some a → ∀ k ∈ a.subActivities, starts k told ≤ 1

variable {m : Materials} {page : Document.Page} {process : Document.Process} {p : Nat}
  {a : Activity}

theorem cascadeRun_of_story (hb : IsBuilt m page process flow) {before : Inherited}
    {told : List Mark} {outcome : Except ActivityFailure Json}
    (story : Story flow p before told outcome t) : CascadeRun flow p before told outcome t where
  story := story
  once a ha k hk := by
    have distinct : a.subActivities.Nodup := (hb.subActivities_rising ha).imp Nat.ne_of_lt
    exact Nat.le_trans (story.starts_sub hb.orderly ha hk)
      (List.nodup_iff_count_le_one.mp distinct k)

/-- **Sub-activities run in a cascade, and in no other way.**  In a built flow the sub-activities
of an activity stand in the order of the arena.  Whatever a run of the activity comes to, it tells
a story in which they run in that order, none twice, and what the story says is stored and logged
is kept.  If others act while the run waits, the run tells such a story too, and each stretch of
it keeps what it stores and logs.  In every session, wherever the trail says that an activity
below another has started, it has started in a cascade of that one; and it has started wherever
the trail says anything else of it. -/
theorem sub_activities_cascade (hb : IsBuilt m page process flow) :
    (∀ p a, flow.arena[p]? = some a → Rising a.subActivities ∧ ∀ before shows s,
      (∀ outcome t, (execute flow p before shows s).Ends outcome t →
        ∃ told, CascadeRun flow p before told outcome t ∧ Kept flow told s t)
      ∧ (execute flow p before shows s).Tells (CascadeRun flow p before) s
      ∧ (execute flow p before shows s).Within (fun s t => ∃ told, Kept flow told s t) s)
    ∧ ∀ s v, s.trail = [] → Session.Reaches flow ⟨s, []⟩ v →
        ∀ earlier mark later, v.state.trail = earlier ++ mark :: later →
          ∀ b p, flow.arena[mark.place]? = some b → b.parent = some p →
            (∀ before, mark.stage = .entered before →
              InCascade flow earlier p mark.place before)
            ∧ ((∀ before, mark.stage ≠ .entered before) → HasStarted earlier mark.place) := by
  have ho := hb.orderly
  constructor
  · intro p a ha
    refine ⟨hb.subActivities_rising ha, ?_⟩
    intro before shows s
    have hlt := (List.getElem?_eq_some_iff.mp ha).1
    have tells : (execute flow p before shows s).Tells (CascadeRun flow p before) s :=
      (execute_tells ho p hlt before shows s).mono fun _ _ _ => cascadeRun_of_story hb
    have steps : (execute flow p before shows s).Within (Steps flow fun _ => True) s :=
      execute_within ho (fun _ _ _ _ => trivial) (fun _ _ _ => trivial) p hlt trivial before shows s
    refine ⟨?_, tells, steps.mono fun _ _ => kept_steps⟩
    intro outcome t ends
    obtain ⟨told, htold, run⟩ := tells.ends ends
    obtain ⟨new, kept⟩ :=
      kept_steps (Task.ends_of_within (steps_noting flow _).toChained steps ends)
    -- what the run tells is what is new on the trail
    obtain rfl := List.append_cancel_left (kept.trail.symm.trans htold)
    exact ⟨new, run, kept⟩
  · intro s v hs reaches earlier mark later htrail b p hb' hp
    have fresh : Session.IsLed flow ⟨s, []⟩ := by
      refine ⟨?_, fun o h => absurd h List.not_mem_nil⟩
      rw [hs]
      trivial
    have led := (Session.reaches_led ho fresh reaches).trail
    rw [htrail] at led
    exact led.led.of_sub ho hb' hp

/-! ## §3. The shop. -/

/-- Nothing can be made, and other functions give 7. -/
def unmadeAnswers : Task.Environment Unit
  | .call f arguments, world =>
    if f.name = "make" then (.error (.failed "broken"), world)
    else sevenAnswers (.call f arguments) world
  | q, world => nullAnswers q world

/-- The kind of the failure that an activity comes to, if it fails. -/
def failureKind? : Except ActivityFailure Json → Option FailureKind
  | .ok _ => none
  | .error e => some e.kind

/-- What loading the shop comes to with these answers. -/
def uncheckedShop : Option (Except ActivityFailure Json × State) :=
  ((execute shopFlow 0 {} true (initial shopFlow)).finish unmadeAnswers ()).1

/-- The shop is loaded, but the check fails: loading fails in turn and is not logged, and the stock
stays.  Where the shop has been loaded well, the check has started in the cascade of loading. -/
theorem sub_activities_cascade_shop :
    (∃ e t told, (execute shopFlow 0 {} true (initial shopFlow)).Ends (.error e) t
      ∧ e.kind = .execution ∧ CascadeRun shopFlow 0 {} told (.error e) t
      ∧ Kept shopFlow told (initial shopFlow) t ∧ starts 1 told = 1
      ∧ t.executed = [] ∧ t.entry (some "shop") "stock" = some (.integer 7))
    ∧ ∃ t earlier later, Session.Reaches shopFlow ⟨initial shopFlow, []⟩ ⟨t, []⟩
      ∧ t.trail = earlier ++ ⟨1, .entered ⟨some .null, none⟩⟩ :: later
      ∧ InCascade shopFlow earlier 0 1 ⟨some .null, none⟩ := by
  obtain ⟨runs, sessions⟩ := sub_activities_cascade shopFlow_isBuilt
  constructor
  · have outcome : (uncheckedShop.map fun r => (failureKind? r.1, starts 1 r.2.trail, r.2.executed,
          r.2.entry (some "shop") "stock"))
        = some (some .execution, 1, [], some (.integer 7)) := by decide +kernel
    obtain ⟨⟨result, t⟩, ht, hr⟩ := Option.map_eq_some_iff.mp outcome
    obtain ⟨failed, once, unlogged, stock⟩ := by simpa only [Prod.mk.injEq] using hr
    cases result with
    | ok value => contradiction
    | error e =>
      have ends := Task.ends_of_finish unmadeAnswers (Prod.ext ht rfl)
      obtain ⟨_, run⟩ := runs 0 _ (List.getElem?_eq_getElem (by decide +kernel : 0 < _))
      obtain ⟨told, cascade, kept⟩ := (run {} true (initial shopFlow)).1 _ t ends
      have trail : t.trail = told := kept.trail.trans (List.nil_append told)
      rw [trail] at once
      exact ⟨e, t, told, ends, Option.some.inj failed, cascade, kept, once, unlogged, stock⟩
  · have loaded := reaches_shopAfter (.activity "shop" "load" true) (initial shopFlow)
      (by decide +kernel)
    have checked : ⟨1, .entered ⟨some .null, none⟩⟩
        ∈ (shopAfter (.activity "shop" "load" true) (initial shopFlow)).trail := by
      decide +kernel
    obtain ⟨earlier, later, htrail⟩ := List.append_of_mem checked
    have check : (shopFlow.arena[1]?).map Activity.parent = some (some 0) := by decide +kernel
    obtain ⟨b, hb, above⟩ := Option.map_eq_some_iff.mp check
    have cascade := (sessions _ _ rfl loaded earlier _ later htrail b 0 hb above).1
    exact ⟨_, earlier, later, loaded, htrail, cascade _ rfl⟩

end Pageflow.Run
