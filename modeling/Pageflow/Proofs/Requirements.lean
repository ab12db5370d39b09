/-
  Pageflow.Proofs.Requirements — nothing is let in before what it requires has run.

  The log of executed activities is accounted for by the trail: an activity is logged iff the
  trail says that one of its service and name, declared and not made for a value, has ended well.
  Every step keeps that, also those of runs that fail later.  So where the trail says that an
  activity was let in, it says before that what the activity requires has ended well.  Nothing is
  ever struck from the log, so requirements that are met once are met from then on.

  Main definitions: `HasRun` and `Accounted`.
  Main statements: `accounted_hostStep` and `requirements_sound`.
-/
import Pageflow.Proofs.Session
import Pageflow.Proofs.Termination

namespace Pageflow.Run

open Pageflow.Flow (Activity IsBuilt Materials Orderly)

/-! ## §1. What has run. -/

/-- The trail says that an activity of this service and name has ended well, and not one that
makes a generated value. -/
def HasRun (flow : Flow) (trail : List Mark) (service name : String) : Prop :=
  ∃ place a result, ⟨place, .completed result⟩ ∈ trail ∧ flow.arena[place]? = some a
    ∧ a.isGenerated = false ∧ a.service = service ∧ a.name = name

/-- The trail says so of everything that an activity requires. -/
def RequiredHaveRun (flow : Flow) (trail : List Mark) (a : Activity) : Prop :=
  ∀ r ∈ a.required, HasRun flow trail (r.serviceName.getD a.service) r.activityName

variable {flow : Flow} {trail : List Mark} {service name : String}

theorem hasRun_append {more : List Mark} : HasRun flow (trail ++ more) service name ↔
    HasRun flow trail service name ∨ HasRun flow more service name := by
  constructor
  · rintro ⟨place, a, result, hm, h⟩
    rcases List.mem_append.mp hm with hm | hm
    · exact .inl ⟨place, a, result, hm, h⟩
    · exact .inr ⟨place, a, result, hm, h⟩
  · rintro (⟨place, a, result, hm, h⟩ | ⟨place, a, result, hm, h⟩)
    · exact ⟨place, a, result, List.mem_append_left _ hm, h⟩
    · exact ⟨place, a, result, List.mem_append_right _ hm, h⟩

/-- A mark of another stage says of nothing that it has run. -/
theorem not_hasRun_singleton {place : Nat} {stage : Stage}
    (h : ∀ result, stage ≠ .completed result) : ¬ HasRun flow [⟨place, stage⟩] service name := by
  rintro ⟨_, _, result, hm, _⟩
  rw [List.mem_singleton, Mark.mk.injEq] at hm
  exact h result hm.2.symm

theorem hasRun_completed {place : Nat} {a : Activity} {result : Json}
    (ha : flow.arena[place]? = some a) : HasRun flow [⟨place, .completed result⟩] service name ↔
      a.isGenerated = false ∧ a.service = service ∧ a.name = name := by
  constructor
  · rintro ⟨_, b, _, hm, hb, h⟩
    rw [List.mem_singleton, Mark.mk.injEq] at hm
    obtain ⟨rfl, _⟩ := hm
    obtain rfl := Option.some.inj (ha.symm.trans hb)
    exact h
  · intro h
    exact ⟨place, a, result, List.mem_singleton.mpr rfl, ha, h⟩

/-! ## §2. The log and the trail. -/

/-- The requirements of an activity are met iff all that it requires is logged. -/
theorem unmet?_eq_none {s : State} {a : Activity} : unmet? flow s a = none ↔
    ∀ r ∈ a.required, s.isExecuted (r.serviceName.getD a.service) r.activityName = true := by
  unfold unmet?
  rw [List.findSome?_eq_none_iff]
  -- the first one that is missing gives the message
  refine forall₂_congr fun r _ => ?_
  cases h : s.isExecuted (r.serviceName.getD a.service) r.activityName <;> simp [h]

/-- The trail accounts for the log, and for every activity that was let in. -/
structure Accounted (flow : Flow) (s : State) : Prop where
  log : ∀ service name, s.isExecuted service name = true ↔ HasRun flow s.trail service name
  admitted : ∀ before place behind, s.trail = before ++ ⟨place, .admitted⟩ :: behind →
    ∃ a, flow.arena[place]? = some a ∧ RequiredHaveRun flow before a

variable {s t : State}

theorem Accounted.requiredHaveRun (h : Accounted flow s) {a : Activity}
    (met : unmet? flow s a = none) : RequiredHaveRun flow s.trail a := by
  intro r hr
  rw [← h.log]
  exact unmet?_eq_none.mp met r hr

theorem Accounted.of_eq (h : Accounted flow s) (htrail : t.trail = s.trail)
    (hexecuted : t.executed = s.executed) : Accounted flow t where
  log service name := by
    rw [htrail, ← h.log, State.isExecuted, hexecuted, State.isExecuted]
  admitted before place behind ht := h.admitted before place behind (htrail.symm.trans ht)

/-- A mark behind a trail is in front of nothing. -/
theorem eq_of_append_singleton {m x : Mark} {before behind : List Mark}
    (h : trail ++ [m] = before ++ x :: behind) :
    (trail = before ∧ m = x) ∨ ∃ behind', trail = before ++ x :: behind' := by
  rcases List.eq_nil_or_concat behind with rfl | ⟨behind', y, rfl⟩
  · obtain ⟨rfl, hm⟩ := List.append_inj' h rfl
    exact .inl ⟨rfl, (List.cons.inj hm).1⟩
  · rw [List.concat_eq_append, ← List.cons_append, ← List.append_assoc] at h
    exact .inr ⟨behind', (List.append_inj' h rfl).1⟩

/-- A mark may follow if it accounts for what is logged, and for an activity let in. -/
theorem Accounted.mark (h : Accounted flow s) {place : Nat} {stage : Stage}
    (htrail : t.trail = s.trail ++ [⟨place, stage⟩])
    (hlog : ∀ service name, t.isExecuted service name = true ↔
      s.isExecuted service name = true ∨ HasRun flow [⟨place, stage⟩] service name)
    (hadmitted : stage = .admitted →
      ∃ a, flow.arena[place]? = some a ∧ RequiredHaveRun flow s.trail a) : Accounted flow t where
  log service name := by
    rw [hlog, htrail, hasRun_append, h.log]
  admitted := by
    intro before place' behind ht
    rw [htrail] at ht
    rcases eq_of_append_singleton ht with ⟨hbefore, hmark⟩ | ⟨behind', ht⟩
    · obtain ⟨rfl, rfl⟩ := Mark.mk.inj hmark
      rw [← hbefore]
      exact hadmitted rfl
    · exact h.admitted before place' behind' ht

/-- A mark of a stage that is not the end of a run leaves the log as it is. -/
theorem Accounted.pass (h : Accounted flow s) {place : Nat} {stage : Stage}
    (hstage : ∀ result, stage ≠ .completed result)
    (htrail : t.trail = s.trail ++ [⟨place, stage⟩]) (hexecuted : t.executed = s.executed)
    (hadmitted : stage = .admitted →
      ∃ a, flow.arena[place]? = some a ∧ RequiredHaveRun flow s.trail a) : Accounted flow t := by
  refine h.mark htrail ?_ hadmitted
  intro service name
  rw [State.isExecuted, hexecuted, ← State.isExecuted]
  exact (or_iff_left (not_hasRun_singleton hstage)).symm

/-! ## §3. Steps. -/

theorem isExecuted_complete (place : Nat) (a : Activity) (result : Json) (s : State)
    (service name : String) : (s.complete place a result).isExecuted service name = true ↔
      s.isExecuted service name = true
        ∨ a.isGenerated = false ∧ a.service = service ∧ a.name = name := by
  unfold State.complete
  cases hg : a.isGenerated with
  | true => simp [State.isExecuted, State.mark]
  | false =>
    simp only [Bool.false_eq_true, if_false, State.isExecuted_recordExecuted, Bool.or_eq_true,
      Document.Executed.isAbout_iff, true_and]
    rfl

@[simp] theorem executed_modifyStore (s : State) (scope : Document.StoreScope) (service : String)
    (f : Store → Store) : (s.modifyStore scope service f).executed = s.executed := by
  cases scope <;> simp [State.modifyStore]

theorem executed_settle (place : Nat) (a : Activity) (result : Json) (s : State) :
    (s.settle place a result).executed = s.executed := by
  unfold State.settle State.storeResult State.mark
  cases a.storeResult <;> cases a.isReference <;> simp

theorem accounted_step (h : Accounted flow s) {allowed : Mark → Prop}
    (step : Step flow allowed s t) : Accounted flow t := by
  -- only the end of a run is logged, and only letting in has something to account for
  cases step with
  | note n => exact h.of_eq rfl rfl
  | display d => exact h.of_eq rfl rfl
  | enter _ => exact h.pass (by simp) rfl rfl (by simp)
  | letIn _ ha _ met =>
    refine h.pass (by simp) rfl rfl ?_
    intro _
    exact ⟨_, ha, h.requiredHaveRun met⟩
  | call _ => exact h.pass (by simp) rfl rfl (by simp)
  | settle _ ha => exact h.pass (by simp) (trail_settle ..) (executed_settle ..) (by simp)
  | insert ui _ ha _ =>
    refine h.of_eq ?_ ?_
    · exact State.trail_modifyService s _ _
    · exact State.executed_modifyService s _ _
  | @complete place a result _ ha =>
    refine h.mark (trail_complete ..) ?_ (by simp)
    intro service name
    rw [isExecuted_complete, hasRun_completed ha]
  | fail _ => exact h.pass (by simp) rfl rfl (by simp)

/-- **The trail accounts for the log after every step.** -/
theorem accounted_hostStep (h : Accounted flow s) (step : HostStep flow s t) :
    Accounted flow t := by
  cases step with
  | run step => exact accounted_step h step
  -- the steps of the host touch neither the trail nor the log
  | start service name =>
    exact h.of_eq (State.trail_modifyService ..) (State.executed_modifyService ..)
  | release service =>
    exact h.of_eq (State.trail_modifyService ..) (State.executed_modifyService ..)
  | failed e => exact h.of_eq (State.trail_emit ..) (State.executed_emit ..)
  | lend => exact h.of_eq rfl rfl

theorem accounted_hostSteps (h : Accounted flow s) (steps : HostSteps flow s t) :
    Accounted flow t := by
  induction steps with
  | refl => exact h
  | tail _ step ih => exact accounted_hostStep ih step

theorem accounted_initial (flow : Flow) : Accounted flow (initial flow) where
  log service name := by
    constructor
    · intro h
      exact absurd h (by simp [initial, State.isExecuted])
    · rintro ⟨_, _, _, hm, _⟩
      exact absurd hm List.not_mem_nil
  admitted before place behind h := by
    have length := congrArg List.length h
    simp [initial] at length

/-! ## §4. What is met stays met. -/

theorem isExecuted_hostStep (step : HostStep flow s t)
    (h : s.isExecuted service name = true) : t.isExecuted service name = true := by
  have same : t.executed = s.executed → t.isExecuted service name = true := by
    intro he
    rw [State.isExecuted, he]
    exact h
  cases step with
  | run step =>
    cases step with
    | settle _ ha => exact same (executed_settle ..)
    | insert ui _ ha _ => exact same (State.executed_modifyService s _ _)
    | complete _ ha => exact (isExecuted_complete ..).mpr (.inl h)
    | _ => exact same rfl
  | start => exact same (State.executed_modifyService ..)
  | release => exact same (State.executed_modifyService ..)
  | failed => exact same (State.executed_emit ..)
  | lend => exact same rfl

theorem unmet?_hostSteps (steps : HostSteps flow s t) {a : Activity}
    (h : unmet? flow s a = none) : unmet? flow t a = none := by
  induction steps with
  | refl => exact h
  | tail _ step ih =>
    rw [unmet?_eq_none] at ih ⊢
    intro r hr
    exact isExecuted_hostStep step (ih r hr)

/-! ## §5. Sessions. -/

variable {m : Materials} {page : Document.Page} {process : Document.Process}

/-- **Requirements are sound.**  In every session with a built flow, whatever its operations are,
whatever comes of them and however they take turns: where an activity was let in, whatever it
requires had ended well before; and requirements that are met stay met. -/
theorem requirements_sound (hb : IsBuilt m page process flow) {v : Session}
    (hv : Session.Reaches flow ⟨initial flow, []⟩ v) :
    (∀ before place behind, v.state.trail = before ++ ⟨place, .admitted⟩ :: behind →
      ∃ a, flow.arena[place]? = some a ∧
        ∀ r ∈ a.required, HasRun flow before (r.serviceName.getD a.service) r.activityName)
    ∧ ∀ w, Session.Reaches flow v w →
        ∀ a, unmet? flow v.state a = none → unmet? flow w.state a = none := by
  have fresh : Session.Proceeds flow ⟨initial flow, []⟩ := by
    intro o ho
    exact absurd ho List.not_mem_nil
  obtain ⟨steps, proceeds⟩ := Session.reaches_hostSteps hb.orderly fresh hv
  refine ⟨(accounted_hostSteps (accounted_initial flow) steps).admitted, ?_⟩
  intro w hw a met
  exact unmet?_hostSteps (Session.reaches_hostSteps hb.orderly proceeds hw).1 met

/-! ## §6. The shop. -/

/-- Functions give `null`; there are no files and no network. -/
def nullAnswers : Task.Environment Unit
  | .call _ _, _ => (.ok (.value .null), ())
  | .send _, _ => (.error (.network ""), ())
  | .fileBytes _, _ => (.error .notFound, ())
  | .fileSize _, _ => (.error .notFound, ())
  | .fetch _, _ => (.error "", ())

/-- The state of the shop after an operation with these answers. -/
def shopAfter (op : Operation) (s : State) : State :=
  ((((op.run shopFlow s).finish nullAnswers ()).1).map Prod.snd).getD s

theorem reaches_shopAfter (op : Operation) (s : State)
    (h : (((op.run shopFlow s).finish nullAnswers ()).1).isSome = true) :
    Session.Reaches shopFlow ⟨s, []⟩ ⟨shopAfter op s, []⟩ := by
  obtain ⟨⟨result, t⟩, ht⟩ := Option.isSome_iff_exists.mp h
  have after : shopAfter op s = t := by rw [shopAfter, ht, Option.map_some, Option.getD_some]
  rw [after]
  exact Session.reaches_of_ends op [] (Task.ends_of_finish nullAnswers (Prod.ext ht rfl))

/-- The state of the shop after loading and then selling. -/
def soldOnce : State :=
  shopAfter (.activity "shop" "sell" true)
    (shopAfter (.activity "shop" "load" true) (initial shopFlow))

/-- When something is sold, the shop has been loaded. -/
theorem requirements_sound_shop :
    Session.Reaches shopFlow ⟨initial shopFlow, []⟩ ⟨soldOnce, []⟩
    ∧ ∃ before behind, soldOnce.trail = before ++ ⟨2, .admitted⟩ :: behind
      ∧ HasRun shopFlow before "shop" "load" := by
  have loaded : Session.Reaches shopFlow ⟨initial shopFlow, []⟩ ⟨_, []⟩ :=
    reaches_shopAfter (.activity "shop" "load" true) _ (by decide +kernel)
  have sold : Session.Reaches shopFlow _ ⟨soldOnce, []⟩ :=
    loaded.trans (reaches_shopAfter (.activity "shop" "sell" true) _ (by decide +kernel))
  have admitted : ⟨2, .admitted⟩ ∈ soldOnce.trail := by decide +kernel
  obtain ⟨before, behind, htrail⟩ := List.append_of_mem admitted
  obtain ⟨a, ha, ran⟩ := (requirements_sound shopFlow_isBuilt sold).1 before 2 behind htrail
  have sells : (shopFlow.arena[2]?).map (fun a => (a.service, a.required))
      = some ("shop", [{ activityName := "load" }]) := by decide +kernel
  rw [ha, Option.map_some, Option.some.injEq, Prod.mk.injEq] at sells
  have load := ran { activityName := "load" } (by rw [sells.2]; exact List.mem_singleton_self _)
  rw [sells.1] at load
  exact ⟨sold, before, behind, htrail, load⟩

end Pageflow.Run
