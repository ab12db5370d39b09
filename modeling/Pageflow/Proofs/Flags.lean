/-
  Pageflow.Proofs.Flags — dynamic flags make no difference to what an activity comes to.

  A run takes the same parts in the flows of documents that differ in their dynamic flags only:
  twins are let in on the same condition, called with arguments that nobody tells apart, and what
  they come to is stored, handed down, shown and recorded alike.  Only their makers may be run in
  another order; but these change nothing that lasts.  So, by the order of calls, runs of twins come
  to the same as long as no selected file is unreadable.

  Main definition: `MatchingRuns`.
  Main statements: `matchingRuns_execute` and `dynamic_flags_change_no_result`.
-/
import Pageflow.Proofs.Drawing
import Pageflow.Proofs.Honest
import Pageflow.Proofs.Untouched

namespace Pageflow.Run

open Document (Executed Ui)
open Pageflow.Flow (Activity IsBuilt IsMaker Materials Orderly Strategy Twins)

/-! ## §1. Files stay readable. -/

namespace State

variable (s : State) (name : String)

theorem file?_modifyService (f : ServiceState → ServiceState) :
    (s.modifyService name f).file? = s.file? := by
  funext service input
  unfold file?
  rw [(lent_modifyService s name f).1]

/-- What leaves the inputs of a service alone leaves all inputs alone. -/
theorem input?_modifyService {f : ServiceState → ServiceState}
    (h : ∀ state, (f state).inputs = state.inputs) :
    (s.modifyService name f).input? = s.input? := by
  funext service input
  unfold input?
  rw [service?_modifyService]
  split
  next same =>
    rw [same, Option.bind_map]
    exact congrArg _ (funext fun state => by simp only [Function.comp_apply, h])
  next => rfl

end State

variable {answers : Answers} {flow flow' : Flow} {s t : State} {a b : Activity}

namespace FilesReadable

/-- It is enough that every selected file can be read in whatever way. -/
theorem of_forall (h : ∀ service name path, s.file? service name = some path →
    ∀ f, CanRead answers f path) : FilesReadable answers flow s where
  now _ _ i f path _ _ hf := h i.service i.name path hf f
  later service _ name path hf := h service name path hf

theorem modifyService (h : FilesReadable answers flow s) (name : String)
    {f : ServiceState → ServiceState} (hf : ∀ state, (f state).inputs = state.inputs) :
    FilesReadable answers flow (s.modifyService name f) :=
  h.of_eq (s.input?_modifyService name hf) (s.file?_modifyService name f)

theorem emit (h : FilesReadable answers flow s) (event : Event) :
    FilesReadable answers flow (s.emit event) := by
  unfold State.emit
  cases s.listener <;> exact h.of_eq rfl rfl

theorem settle (h : FilesReadable answers flow s) (place : Nat) (a : Activity) (result : Json) :
    FilesReadable answers flow (s.settle place a result) := by
  have stored : FilesReadable answers flow (s.storeResult a result) := by
    unfold State.storeResult
    split
    · exact h
    split
    · exact h
    next target _ _ =>
      have inService (name : String) : FilesReadable answers flow (s.modifyService name
          fun service => { service with store := service.store.write target.key result }) :=
        h.modifyService name fun _ => rfl
      unfold State.modifyStore
      cases target.scope with
      | activity => exact h.of_eq rfl rfl
      | process => exact inService _
      | service => exact inService _
  exact stored.of_eq rfl rfl

theorem complete (h : FilesReadable answers flow s) (place : Nat) (a : Activity) (result : Json) :
    FilesReadable answers flow (s.complete place a result) := by
  unfold State.complete
  cases a.isGenerated with
  | true => exact h.of_eq rfl rfl
  | false =>
    show FilesReadable answers flow (State.emit _ _)
    refine FilesReadable.emit ?_ _
    exact h.of_eq rfl rfl

/-- **A file stays readable when a result declares its input anew**: that was provided for. -/
theorem insertInputs (h : FilesReadable answers flow s) (ha : a ∈ flow.arena)
    (dynamic : a.presentation.resultAsDynamicUi = true) (ui : Ui) :
    FilesReadable answers flow (insertInputs a.service ui s) := by
  have files : (Run.insertInputs a.service ui s).file? = s.file? :=
    s.file?_modifyService a.service fun state => state.register a.service ui
  refine ⟨fun service name i f path hi hk hf => ?_, fun service redeclared => ?_⟩
  · rw [files] at hf
    have hi : (s.modifyService a.service fun state =>
        state.register a.service ui).input? service name = some i := hi
    obtain ⟨state, hs, hi⟩ := Option.bind_eq_some_iff.mp hi
    rw [State.service?_modifyService] at hs
    split at hs
    next same =>
      obtain ⟨old, hold, rfl⟩ := Option.map_eq_some_iff.mp hs
      by_cases hn : name ∈ Dict.keys (Flow.inputsOf a.service ui)
      · -- the input is a new one, so it belongs to the service of the activity
        obtain ⟨i', hm, hget⟩ := Dict.exists_get?_insertAll (d := old.inputs) hn
        obtain rfl := Option.some.inj (hi.symm.trans hget)
        have own : i.service = a.service := service_of_inputsOf hm
        rw [own] at hf
        exact h.later a.service ⟨a, ha, rfl, dynamic⟩ i.name path hf f
      · have hi : (old.inputs.insertAll (Flow.inputsOf a.service ui)).get? name = some i := hi
        rw [Dict.get?_insertAll_of_not_mem hn] at hi
        exact h.now a.service name i f path (Option.bind_eq_some_iff.mpr ⟨old, hold, hi⟩) hk hf
    next => exact h.now service name i f path (Option.bind_eq_some_iff.mpr ⟨state, hs, hi⟩) hk hf
  · rw [files]
    exact h.later service redeclared

theorem release (h : FilesReadable answers flow s) (service : String) :
    FilesReadable answers flow (s.release service) := by
  have free : FilesReadable answers flow (s.setRunning service none) :=
    h.modifyService service fun _ => rfl
  exact free.of_eq rfl rfl

end FilesReadable

/-! ## §2. Makers change nothing that lasts. -/

theorem lasting_step {flow : Flow}
    (step : Step flow (fun m => MakerAt flow m.place) s t) : SameLasting s t := by
  have isMaker {k : Nat} {c : Activity} (h : MakerAt flow k) (hc : flow.arena[k]? = some c) :
      IsMaker c := by
    obtain ⟨c', hc', maker⟩ := h
    obtain rfl := Option.some.inj (hc.symm.trans hc')
    exact maker
  cases step with
  | @settle k c result h hc _ =>
    have nothing : s.storeResult c result = s := by
      rw [State.storeResult, (isMaker h hc).storeResult]
    rw [State.settle, nothing]
    exact lasting_mark ..
  | @insert k c result ui h hc dynamic _ =>
    rw [(isMaker h hc).presentation] at dynamic
    contradiction
  | @complete k c result h hc _ =>
    rw [State.complete, (isMaker h hc).isGenerated]
    exact lasting_mark ..
  | _ => rfl

/-- **The run of a maker changes nothing that lasts.** -/
theorem lasting_of_makerAt (ho : Orderly flow) {k : Nat} (hm : MakerAt flow k) (before : Inherited)
    (shows : Bool) : (execute flow k before shows).Within SameLasting := by
  have hlt : k < flow.arena.length := by
    obtain ⟨c, hc, _⟩ := hm
    exact (List.getElem?_eq_some_iff.mp hc).1
  have within : (execute flow k before shows).Within (Steps flow fun m => MakerAt flow m.place) :=
    execute_within ho (fun _ _ => makerAt_of_calls ho) (fun _ _ h => h) k hlt hm before shows
  intro s
  refine (within s).mono fun s t steps => ?_
  induction steps with
  | refl => rfl
  | tail _ step ih => exact (lasting_step step).trans ih

/-! ## §3. Matching runs. -/

theorem lasting_complete_place (place place' : Nat) (a : Activity) (result : Json) (s : State) :
    (s.complete place a result).lasting = (s.complete place' a result).lasting := by
  unfold State.complete
  cases a.isGenerated with
  | true => rfl
  | false =>
    unfold State.recordExecuted State.emit
    cases hl : s.listener <;> simp only [State.mark, hl] <;> rfl

/-- Who else is run makes no difference to a strategy that is no reference. -/
theorem callStrategy_of_own {strategy : Strategy} (own : strategy.isReference = false)
    (run run' : Executor) (arguments : Arguments) :
    callStrategy run strategy arguments = callStrategy run' strategy arguments := by
  cases strategy with
  | reference target => contradiction
  | _ => rfl

/-- However the activities at these places are run, they come to the same. -/
def MatchingRuns (answers : Answers) (flow : Flow) (run run' : Executor) (k k' : Nat) : Prop :=
  ∀ before shows, Matching answers flow (run k before shows) (run' k' before shows)

/-- The same change may be made in both, if it depends on what lasts and keeps files readable. -/
theorem corresponds_modify_same {ε : Type} {f g : State → State} (hf : Lasting f)
    (same : ∀ s, (g s).lasting = (f s).lasting)
    (keeps : ∀ s, FilesReadable answers flow s → FilesReadable answers flow (f s)) :
    Matching answers flow (modify f : Run State ε Unit) (modify g) := by
  refine corresponds_modify fun s t hst hs => ⟨?_, ?_⟩
  · rw [same, hf.congr hst]
  · exact (keeps s (hs.of_eq rfl rfl)).of_eq rfl rfl

variable {run run' : Executor} {place place' : Nat} {strategy : Strategy}

/-- The strategy of twins is called with the same effect, whoever else is run. -/
theorem corresponds_dispatch (hs : a.strategy = some strategy) {x y : Arguments}
    (h : SameArguments a x y)
    (target : ∀ k, a.target? = some k → MatchingRuns answers flow run run' k k) :
    Matching answers flow (dispatch run place a strategy x)
      (dispatch run' place' b strategy y) := by
  -- a reference passes its arguments on; for anybody else it does not matter who is run
  have call : Matching answers flow (callStrategy run strategy x)
      (callStrategy run' strategy y) := by
    cases hr : strategy.isReference with
    | true =>
      have isReference : a.isReference = true := by
        rw [Activity.isReference, hs]
        exact hr
      obtain rfl := h.passed isReference
      cases strategy with
      | reference k =>
        refine (target k ?_ _ _).mapError _
        rw [Activity.target?, hs]
        rfl
      | _ => contradiction
    | false =>
      obtain ⟨parameters, body⟩ := x
      obtain ⟨parameters', body'⟩ := y
      obtain rfl : body = body' := h.body
      rw [h.values.callStrategy hr, callStrategy_of_own hr run run']
      refine callStrategy_closed (corresponds_showing answers _ fun _ _ => True).toReading _ ?_
      intro k before hk
      cases strategy <;> contradiction
  refine (corresponds_mark place place' .called .called).bind fun _ _ _ => ?_
  exact (corresponds_note _ _).bind fun _ _ _ => call

/-- Sub-activities are run one after the other in both. -/
theorem corresponds_cascade (parent : Json) (shows : Bool) :
    ∀ (places : List Nat) (previous : Option Json),
      (∀ k ∈ places, MatchingRuns answers flow run run' k k) →
      Matching answers flow
        (cascade run parent shows places previous) (cascade run' parent shows places previous)
  | [], _, _ => corresponds_pure rfl
  | k :: rest, previous, h => by
    refine (h k List.mem_cons_self _ _).bind ?_
    rintro result _ rfl
    exact corresponds_cascade parent shows rest _ fun k hk => h k (List.mem_cons_of_mem _ hk)

/-- What is known by a name is not generated. -/
theorem isGenerated_of_findAny? (ho : Orderly flow) {service name : String} {k : Nat}
    (h : flow.findAny? service name = some k) :
    ∃ a, flow.arena[k]? = some a ∧ a.isGenerated = false := by
  rcases Option.or_eq_some_iff.mp h with top | ⟨_, inside⟩
  · obtain ⟨a, ha, _, _, own⟩ := ho.top service name k top
    exact ⟨a, ha, own⟩
  · obtain ⟨hk, named, _⟩ := List.findIdx?_eq_some_iff_getElem.mp inside
    refine ⟨_, List.getElem?_eq_getElem hk, ?_⟩
    simp only [Bool.and_eq_true, Bool.not_eq_true'] at named
    exact named.1.1

section Parts

variable {m : Materials} {page page' : Document.Page} {process process' : Document.Process}
  (twins : Twins m page page' process process' flow flow')
include twins

theorem serviceTitle_eq (service : String) :
    flow'.serviceTitle service = flow.serviceTitle service := by
  unfold Flow.serviceTitle
  rw [twins.find?.1]

/-- A user is told the same about a required activity. -/
theorem requirementMessage_eq (service : String) (r : Document.Required) :
    requirementMessage flow' service r = requirementMessage flow service r := by
  have title : ((flow'.findAny? service r.activityName).bind fun place =>
        flow'.arena[place]?).map Activity.title
      = ((flow.findAny? service r.activityName).bind fun place =>
        flow.arena[place]?).map Activity.title := by
    rw [twins.findAny?]
    cases hf : flow.findAny? service r.activityName with
    | none => rfl
    | some place =>
      obtain ⟨a, ha, own⟩ := isGenerated_of_findAny? twins.left.orderly hf
      obtain ⟨b, hb, twin⟩ := twins.declared ha own
      simp only [Option.bind_some, ha, hb, Option.map_some, twin.title]
  unfold requirementMessage
  rw [title, serviceTitle_eq twins]

variable (twin : a.Twin b)
include twin

theorem failureOf_eq : failureOf flow' b = failureOf flow a := by
  funext kind message
  rw [failureOf, failureOf, serviceTitle_eq twins, twin.service, twin.title]

/-- Twins are let in on the same condition. -/
theorem unmet?_eq (executed : t.executed = s.executed) : unmet? flow' t b = unmet? flow s a := by
  rw [twin.eq]
  unfold unmet? State.isExecuted
  simp only [requirementMessage_eq twins, executed]

theorem corresponds_gate (place place' : Nat) :
    Matching answers flow (gate flow place a) (gate flow' place' b) := by
  intro s t same hs
  have executed : t.executed = s.executed := (congrArg State.executed same :)
  unfold gate
  rw [get_bind_apply, get_bind_apply, unmet?_eq twins twin executed]
  cases unmet? flow s a with
  | none => exact corresponds_mark place place' .admitted .admitted s t same hs
  | some message =>
    rw [failureOf_eq twins twin, twin.title]
    exact (corresponds_alert _).bind (fun _ _ _ => corresponds_fail _) s t same hs

/-- What a function makes of the arguments is no easier to tell apart. -/
theorem corresponds_preProcessed {x y : Arguments} (h : SameArguments a x y) :
    Corresponds answers (FilesReadable answers flow) (SameArguments a) (preProcessed flow a x)
      (preProcessed flow' b y) := by
  have preProcess : b.preProcess = a.preProcess := by rw [twin.eq]
  unfold preProcessed
  rw [preProcess]
  cases a.preProcess with
  | none => exact corresponds_pure h
  | some f =>
    have called : Matching answers flow
        (callNamed f x.parameters x.body : Run State _ _) (callNamed f y.parameters y.body) := by
      have arguments : f.arguments y.parameters y.body = f.arguments x.parameters x.body := by
        rw [h.values.arguments, h.body]
      unfold callNamed
      rw [arguments]
      exact call_closed (corresponds_showing answers _ fun _ _ => True).toClosed f _
    refine called.attempt.bind ?_
    rintro outcome _ rfl
    split
    next overrides =>
      refine corresponds_pure ⟨h.values.insertAll overrides, h.body, fun hr => ?_⟩
      rw [h.passed hr]
    · exact corresponds_pure h
    · exact (corresponds_note _ _).bind fun _ _ _ => corresponds_pure h
    · rw [failureOf_eq twins twin]
      exact corresponds_fail _

theorem corresponds_resultOf (hs : a.strategy = some strategy) {x y : Arguments}
    (h : SameArguments a x y)
    (target : ∀ k, a.target? = some k → MatchingRuns answers flow run run' k k) :
    Matching answers flow (resultOf flow run place a strategy x)
      (resultOf flow' run' place' b strategy y) := by
  have skips : b.skips = a.skips := by
    rw [twin.eq]
    rfl
  have skipped : skippedResult a = skippedResult b := by
    rw [twin.eq]
    rfl
  unfold resultOf
  rw [skips]
  cases a.skips with
  | true => exact (corresponds_note _ _).bind fun _ _ _ => corresponds_pure skipped
  | false =>
    refine (corresponds_dispatch hs h target).attempt.bind ?_
    rintro outcome _ rfl
    cases outcome with
    | ok result => exact corresponds_pure rfl
    | error e =>
      rw [failureOf_eq twins twin]
      exact (corresponds_alert _).bind fun _ _ _ => corresponds_fail _

theorem corresponds_handDown (ha : flow.arena[place]? = some a) (result : Json) (shows : Bool)
    (subs : ∀ k ∈ a.subActivities, MatchingRuns answers flow run run' k k) :
    Matching answers flow
      (handDown flow run place a result shows) (handDown flow' run' place' b result shows) := by
  have showing := corresponds_showing answers (FilesReadable answers flow) fun _ _ => True
  have same : b.subActivities = a.subActivities ∧ present b result = present a result
      ∧ announces b shows = announces a shows := by
    rw [twin.eq]
    exact ⟨rfl, rfl, rfl⟩
  obtain ⟨sameSubs, samePresent, sameAnnounces⟩ := same
  have presented : Matching answers flow (present a result) (present a result) := by
    refine present_closed showing fun dynamic ui => ?_
    exact corresponds_modify_same (lasting_of_insertInputs a.service ui) (fun _ => rfl)
      fun s h => h.insertInputs (List.mem_of_getElem? ha) dynamic ui
  have completed : Matching answers flow
      (modify (State.complete place a result) : Run State ActivityFailure Unit)
      (modify (State.complete place' b result)) := by
    refine corresponds_modify_same (lasting_of_complete place a result) (fun s => ?_)
      fun s h => h.complete place a result
    rw [twin.eq]
    exact lasting_complete_place place' place a result s
  unfold handDown
  rw [sameSubs, samePresent, failureOf_eq twins twin]
  refine ((corresponds_cascade result shows _ _ subs).mapError _).bind fun _ _ _ => ?_
  refine (presented.mapError _).bind fun _ _ _ => ?_
  unfold conclude
  rw [sameAnnounces, twin.title]
  cases announces a shows with
  | true => exact (corresponds_alert _).bind fun _ _ _ => completed
  | false => exact completed

/-- **Runs of twins match if those of whom they call do.** -/
theorem corresponds_runActivity (ha : flow.arena[place]? = some a)
    (hb : flow'.arena[place']? = some b)
    (makers : ∀ c, FilesReadable answers flow c → MakersAgree answers c flow flow' run run' a)
    (target : ∀ k, a.target? = some k → MatchingRuns answers flow run run' k k)
    (subs : ∀ k ∈ a.subActivities, MatchingRuns answers flow run run' k k) (before : Inherited)
    (shows : Bool) :
    Matching answers flow (runActivity flow run place a before shows)
      (runActivity flow' run' place' b before shows) := by
  have arguments := corresponds_argumentsOf makers twin twins ha hb before
  unfold runActivity
  rw [twin.strategy, failureOf_eq twins twin]
  cases hs : a.strategy with
  | none => exact corresponds_fail _
  | some strategy =>
    have result : Matching answers flow (resultFor flow run place a strategy before)
        (resultFor flow' run' place' b strategy before) := by
      unfold resultFor
      rw [failureOf_eq twins twin]
      refine (corresponds_gate twins twin place place').bind fun _ _ _ => ?_
      refine (arguments.mapError _).bind fun x y h => ?_
      refine (corresponds_preProcessed twins twin h).bind fun x y h => ?_
      exact corresponds_resultOf twins twin hs h target
    refine result.bind ?_
    rintro result _ rfl
    have settled : Matching answers flow
        (modify (State.settle place a result) : Run State ActivityFailure Unit)
        (modify (State.settle place' b result)) := by
      refine corresponds_modify_same (lasting_of_settle place a result) (fun s => ?_)
        fun s h => h.settle place a result
      rw [twin.eq]
      rfl
    have rest : Matching answers flow
        (settle flow run place a result shows) (settle flow' run' place' b result shows) :=
      settled.bind fun _ _ _ => corresponds_handDown twins twin ha result shows subs
    exact rest.bind fun _ _ _ => corresponds_pure rfl

end Parts

/-! ## §4. Whole runs. -/

theorem corresponds_start (service name : String) :
    Matching answers flow (start service name) (start service name) := by
  intro s t same hs
  have running : t.running? service = s.running? service :=
    (congrArg (fun s => s.running? service) same :)
  cases free : s.running? service with
  | none =>
    rw [start_of_free free, start_of_free (running.trans free)]
    have occupied : Matching answers flow
        (modify (fun s => s.occupy service name) : Run State HostError Unit)
        (modify fun s => s.occupy service name) :=
      corresponds_modify_same (lasting_of_modifyService service _) (fun _ => rfl)
        fun s h => h.modifyService service fun _ => rfl
    exact occupied s t same hs
  | some other =>
    rw [start_of_busy free, start_of_busy (running.trans free)]
    exact .error same hs

theorem corresponds_guarded {α : Type} (service name : String) {r r' : Run State HostError α}
    (h : Matching answers flow r r') :
    Matching answers flow (guarded service name r) (guarded service name r') := by
  have released : Matching answers flow (modify (State.release service) : Run State HostError Unit)
      (modify (State.release service)) :=
    corresponds_modify_same (lasting_of_release service) (fun _ => rfl) fun s h => h.release service
  refine (corresponds_start service name).bind fun _ _ _ => ?_
  refine h.attempt.bind ?_
  rintro outcome _ rfl
  refine released.bind fun _ _ _ => ?_
  exact ofExcept_closed (corresponds_showing answers _ fun _ _ => True).toClosed outcome

/-- Runs that match do so with their starts and failures on the trail. -/
theorem corresponds_traced (place place' : Nat) (before : Inherited)
    {r r' : Run State ActivityFailure Json} (h : Matching answers flow r r') :
    Matching answers flow (traced place before r) (traced place' before r') := by
  refine (corresponds_mark _ _ _ _).bind fun _ _ _ => ?_
  refine h.attempt.bind ?_
  rintro outcome _ rfl
  cases outcome with
  | ok result => exact corresponds_pure rfl
  | error e => exact (corresponds_mark _ _ _ _).bind fun _ _ _ => corresponds_fail e

section Whole

variable {m : Materials} {page page' : Document.Page} {process process' : Document.Process}
  (twins : Twins m page page' process process' flow flow')
include twins

/-- Makers agree if their runs match, for these change nothing that lasts. -/
theorem makersAgree_execute {place : Nat} (ha : flow.arena[place]? = some a)
    (h : ∀ k ∈ a.makers, ∀ k' d d', flow.arena[k]? = some d → flow'.arena[k']? = some d' →
      d.Twin d' → MatchingRuns answers flow (execute flow) (execute flow') k k')
    {c : State} (hc : FilesReadable answers flow c) :
    MakersAgree answers c flow flow' (execute flow) (execute flow') a := by
  have ho := twins.left.orderly
  have ho' := twins.right.orderly
  intro k hk k' d d' hd hd' twin
  obtain ⟨d₀, hd₀, maker⟩ := makerAt_of_mem_makers ho ha hk
  obtain rfl := Option.some.inj (hd.symm.trans hd₀)
  -- the twin of a maker is generated, and so a maker
  have maker' : IsMaker d' :=
    (ho'.placed k' d' hd').generated (twin.isGenerated.trans maker.isGenerated)
  have run := h k hk k' d d' hd hd' twin {} false
  exact run.amountsTo (lasting_of_makerAt ho ⟨d, hd, maker⟩ {} false)
    (lasting_of_makerAt ho' ⟨d', hd', maker'⟩ {} false) (hc.of_eq rfl rfl)

/-- **Runs of twins match.** -/
theorem matchingRuns_execute (answers : Answers) : ∀ (place place' : Nat) (a b : Activity),
    flow.arena[place]? = some a → flow'.arena[place']? = some b → a.Twin b →
    MatchingRuns answers flow (execute flow) (execute flow') place place' := by
  have ho := twins.left.orderly
  intro place
  -- the callees of an activity come before it in the order of calls
  induction place using (Flow.calls_wellFounded ho).induction with
  | _ place ih =>
    intro place' a b ha hb twin before shows
    have callee {k : Nat} (hk : k ∈ a.callees) := ih k ⟨a, ha, hk⟩
    -- whom it calls by place is declared, and has its twin at the same place
    have declared {k : Nat} (hk : k ∈ a.callees) {c : Activity} (hc : flow.arena[k]? = some c)
        (own : c.isGenerated = false) :
        MatchingRuns answers flow (execute flow) (execute flow') k k := by
      obtain ⟨d, hd, twinCallee⟩ := twins.declared hc own
      exact callee hk k c d hc hd twinCallee
    have placed := ho.placed place a ha
    rw [execute_eq ho ha, execute_eq twins.right.orderly hb]
    refine corresponds_traced place place' before ?_
    refine corresponds_runActivity twins twin ha hb ?_ ?_ ?_ before shows
    · intro c hc
      refine makersAgree_execute twins ha (fun k hk => ?_) hc
      exact callee (Activity.mem_callees.mpr (.inl hk))
    · intro k hk
      obtain ⟨_, c, hc, isDeclared, _⟩ := placed.target k hk
      exact declared (Activity.mem_callees.mpr (.inr (.inl hk))) hc isDeclared.isGenerated
    · intro k hk
      obtain ⟨_, c, hc, isDeclared, _⟩ := placed.sub k hk
      exact declared (Activity.mem_callees.mpr (.inr (.inr hk))) hc isDeclared.isGenerated

/-- **An activity is executed with the same effect** in both flows. -/
theorem corresponds_executeActivity (answers : Answers) (service name : String) (shows : Bool) :
    Matching answers flow (executeActivity flow service name shows)
      (executeActivity flow' service name shows) := by
  obtain ⟨services, find⟩ := twins.find?
  unfold executeActivity knownService
  rw [services]
  cases flow.service? service with
  | none => exact corresponds_fail _
  | some known =>
    show Matching answers flow
      (ofExcept (knownActivity flow service name) >>= fun found =>
        guarded service name (runTop flow service name found.1 found.2 shows))
      (ofExcept (knownActivity flow' service name) >>= fun found =>
        guarded service name (runTop flow' service name found.1 found.2 shows))
    unfold knownActivity
    rw [find]
    cases hf : flow.find? service name with
    | none => exact corresponds_fail _
    | some place =>
      obtain ⟨a, ha, _, _, own⟩ := twins.left.orderly.top service name place hf
      obtain ⟨b, hb, twin⟩ := twins.declared ha own
      simp only [Option.bind_some, ha, hb, Option.map_some]
      refine corresponds_guarded service name ?_
      have failed (e : Executed) : Matching answers flow
          (modify (State.recordFailed e) : Run State HostError Unit)
          (modify (State.recordFailed e)) :=
        corresponds_modify_same (lasting_of_emit _) (fun _ => rfl) fun s h => h.emit _
      have run := matchingRuns_execute twins answers place place a b ha hb twin {} shows
      refine run.attempt.bind ?_
      rintro outcome _ rfl
      cases outcome with
      | ok result => exact corresponds_pure rfl
      | error e =>
        rw [twin.title]
        exact (failed _).bind fun _ _ _ => corresponds_fail _

end Whole

/-- **Dynamic flags change no result.**  Let two flows be built of the same materials, from
documents that differ in the dynamic flags of their definitions only, and let every question have
one answer.  Then, from a state in which no selected file is unreadable, an activity comes to the
same outcome in both, and leaves the same stores and the same log of executed activities; whatever
else lasts is the same too, and only what was shown, noted and put on the trail may differ. -/
theorem dynamic_flags_change_no_result {m : Materials} {page page' : Document.Page}
    {process process' : Document.Process} {ω : Type} {environment : Task.Environment ω}
    (hb : IsBuilt m page process flow) (hb' : IsBuilt m page' process' flow')
    (samePage : page.steady = page'.steady) (sameProcess : process.steady = process'.steady)
    (consistent : Consistent environment answers) (readable : FilesReadable answers flow s)
    (service name : String) (shows : Bool) (world world' : ω) :
    ∃ outcome t t',
      ((executeActivity flow service name shows s).finish environment world).1 = some (outcome, t)
      ∧ ((executeActivity flow' service name shows s).finish environment world').1
        = some (outcome, t')
      ∧ (∀ scope owner, t'.storeFor scope owner = t.storeFor scope owner)
      ∧ t'.executed = t.executed ∧ t'.lasting = t.lasting := by
  have corresponds := corresponds_executeActivity ⟨hb, hb', samePage, sameProcess⟩ answers service
    name shows
  obtain ⟨outcome, t, t', hx, hy, same⟩ :=
    corresponds.finish consistent (readable.of_eq rfl rfl) world world'
  refine ⟨outcome, t, t', hx, hy, fun scope owner => ?_, (congrArg State.executed same :), same⟩
  exact (congrArg (fun s => s.storeFor scope owner) same :)

/-! ## §5. The desk. -/

open Pageflow.Flow (assemble? deskFlow deskFlow_isBuilt deskMaterials deskPage deskProcess
  isBuilt_getD)

/-- The flow of a desk whose papers get their numbers without a flag. -/
def steadyDeskFlow : Flow :=
  (assemble? deskMaterials deskPage deskProcess.steady).value.getD default

theorem steadyDeskFlow_isBuilt :
    IsBuilt deskMaterials deskPage deskProcess.steady steadyDeskFlow :=
  isBuilt_getD (by decide +kernel)

/-- Functions give back what they are called with, and every file is empty. -/
def echoes : Answers
  | .call _ arguments => .ok (.value (.array arguments))
  | .send _ => .error (.network "")
  | .fileBytes _ => .ok []
  | .fileSize _ => .ok 0
  | .fetch _ => .error ""

/-- Whoever answers like this. -/
def echoing : Task.Environment Unit := fun q world => (echoes q, world)

theorem canRead_echoes (f : Document.FileInput) (path : String) : CanRead echoes f path := by
  unfold CanRead
  split
  · exact ⟨0, rfl⟩
  · exact ⟨[], rfl, .inr rfl⟩

/-- The state of a desk with a paper on it. -/
def deskState : State := (initial deskFlow).setFile "desk" "scan" "paper"

/-- What filing the paper comes to: the title, a number and the scan are handed to the function, and
what nobody gives is `null`. -/
def filed : Except HostError Json :=
  .ok (.array [.integer 0, .null, .null, .null, .string "", .array [], .null])

/-- The number is dynamic in one flow and not in the other; filing comes to the same. -/
theorem dynamic_flags_change_no_result_desk :
    (deskFlow.arena[0]?).map (fun a => a.dynamicParameters.keys) = some ["number"]
    ∧ (steadyDeskFlow.arena[0]?).map (fun a => a.dynamicParameters.keys) = some []
    ∧ deskProcess.steady = deskProcess.steady.steady
    ∧ Consistent echoing echoes ∧ FilesReadable echoes deskFlow deskState
    ∧ deskState.file? "desk" "scan" = some "paper"
    ∧ ∃ t t' : State,
      ((executeActivity deskFlow "desk" "file" true deskState).finish echoing ()).1
        = some (filed, t)
      ∧ ((executeActivity steadyDeskFlow "desk" "file" true deskState).finish echoing ()).1
        = some (filed, t')
      ∧ t'.executed = t.executed ∧ t'.lasting = t.lasting := by
  have sameProcess : deskProcess.steady = deskProcess.steady.steady := rfl
  have consistent : Consistent echoing echoes := fun _ _ => rfl
  have readable : FilesReadable echoes deskFlow deskState :=
    .of_forall fun _ _ path _ f => canRead_echoes f path
  refine ⟨by decide +kernel, by decide +kernel, sameProcess, consistent, readable,
    by decide +kernel, ?_⟩
  obtain ⟨outcome, t, t', hx, hy, -, executed, same⟩ := dynamic_flags_change_no_result
    deskFlow_isBuilt steadyDeskFlow_isBuilt rfl sameProcess consistent readable "desk" "file" true
    () ()
  have result : (((executeActivity deskFlow "desk" "file" true deskState).finish echoing
      ()).1).map Prod.fst = some filed := by
    decide +kernel
  rw [hx] at result
  obtain rfl : outcome = filed := Option.some.inj result
  exact ⟨t, t', hx, hy, executed, same⟩

end Pageflow.Run
