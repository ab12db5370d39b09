/-
  Pageflow.Proofs.Overriding — activities whose call is skipped.

  An override puts a result in place of the call of an activity.  Then no operation calls its
  strategy, however the activity is reached: at the top, in a sequence, below another activity or
  through a reference.  So it does not matter which strategy it is, and all operations go as they
  would with any other one.  Only an external call does not ask for the override: it calls the
  strategy of the activity that it names.

  Main definitions: `Uncalled`, `Operation.CallsAt`, `Sparing` and `Flow.recast`.
  Main statements: `overridden_strategy_stays_idle`, and `external_call_ignores_override` on what
  is left out.
-/
import Pageflow.Proofs.Alike
import Pageflow.Proofs.Stored

namespace Pageflow

namespace Run

open Pageflow.Flow (Activity IsBuilt Materials Orderly Strategy)

/-! ## §1. No call on the trail. -/

/-- Nothing calls the activity at place `p`. -/
def Uncalled (p : Nat) (s t : State) : Prop := ⟨p, .called⟩ ∈ t.trail → ⟨p, .called⟩ ∈ s.trail

variable {p : Nat} {s t : State} {flow : Flow} {ε : Type}

/-- What puts only other marks on the trail does not call it. -/
theorem uncalled_of_append {new : List Mark} (h : t.trail = s.trail ++ new)
    (others : ∀ m ∈ new, m ≠ ⟨p, .called⟩) : Uncalled p s t := by
  intro called
  rw [h] at called
  rcases List.mem_append.mp called with called | called
  · exact called
  · exact absurd rfl (others _ called)

theorem uncalled_of_eq (h : t.trail = s.trail) : Uncalled p s t := by
  intro called
  rwa [h] at called

theorem uncalled_mark {place : Nat} {stage : Stage} (h : (⟨place, stage⟩ : Mark) ≠ ⟨p, .called⟩)
    (s : State) : Uncalled p s (s.mark place stage) := by
  refine uncalled_of_append (State.trail_mark place stage s) ?_
  intro m hm
  rw [List.mem_singleton.mp hm]
  exact h

theorem uncalled_noting (p : Nat) : Noting (Uncalled p) where
  refl _ := id
  trans h h' := fun called => h (h' called)
  note _ _ := id

theorem uncalled_showing (p : Nat) :
    Showing (fun _ _ => True) (fun r => r.Within (Uncalled p) : Property State) where
  toReading := (uncalled_noting p).reading _
  display _ := within_modify fun _ => uncalled_of_eq rfl

theorem mark_uncalled {place : Nat} {stage : Stage}
    (h : (⟨place, stage⟩ : Mark) ≠ ⟨p, .called⟩) :
    (mark place stage : Run State ε Unit).Within (Uncalled p) :=
  within_modify (uncalled_mark h)

theorem gate_uncalled (p place : Nat) (a : Activity) :
    (gate flow place a).Within (Uncalled p) := by
  have chained := (uncalled_noting p).toChained
  apply within_get_bind
  intro s
  cases unmet? flow s a with
  | none => exact mark_uncalled (by simp) s
  | some message =>
    exact within_bind chained (alert_closed (uncalled_showing p) _)
      (fun _ => within_fail chained _) s

/-- **The run of an activity does not call another one, and not even itself if its call is
skipped.** -/
theorem parts_uncalled {place : Nat} {a : Activity} (h : place = p → a.skips = true) :
    Parts flow (fun r => r.Within (Uncalled p) : Property State) place a where
  enter _ := mark_uncalled (by simp)
  gate _ := gate_uncalled p place a
  call own := by
    refine mark_uncalled ?_
    rintro ⟨⟩
    rw [h rfl] at own
    contradiction
  settle result :=
    within_modify fun s => uncalled_of_append (trail_settle place a result s) (by simp)
  insert _ _ := within_modify fun _ => uncalled_of_eq (State.trail_modifyService _ _ _)
  complete result :=
    within_modify fun s => uncalled_of_append (trail_complete place a result s) (by simp)
  fail := mark_uncalled (by simp)

section Operations

variable {a : Activity}

theorem execute_uncalled (ho : Orderly flow) (ha : flow.arena[p]? = some a)
    (skips : a.skips = true) {place : Nat} {b : Activity} (hb : flow.arena[place]? = some b)
    (before : Inherited) (shows : Bool) :
    (execute flow place before shows).Within (Uncalled p) := by
  refine execute_closed ho (uncalled_showing p) (fun _ _ _ _ => trivial) ?_ place
    (List.getElem?_eq_some_iff.mp hb).1 trivial before shows
  intro place b _ hb
  refine ⟨fun _ _ => trivial, parts_uncalled ?_⟩
  rintro rfl
  obtain rfl := Option.some.inj (ha.symm.trans hb)
  exact skips

/-- The operation is an external call of the activity at place `p`. -/
def Operation.CallsAt (flow : Flow) (p : Nat) : Operation → Prop
  | .call c => flow.find? c.service c.activity = some p
  | _ => False

instance (flow : Flow) (p : Nat) : ∀ op : Operation, Decidable (op.CallsAt flow p)
  | .activity _ _ _ => inferInstanceAs (Decidable False)
  | .sequence _ _ => inferInstanceAs (Decidable False)
  | .autostart => inferInstanceAs (Decidable False)
  | .call _ => inferInstanceAs (Decidable (_ = _))

/-- **Only an external call of the activity itself calls it**, if its call is skipped. -/
theorem Operation.uncalled (ho : Orderly flow) (ha : flow.arena[p]? = some a)
    (skips : a.skips = true) {op : Operation} (h : ¬ op.CallsAt flow p) :
    (op.run flow).Within (Uncalled p) := by
  have showing := uncalled_showing p
  have closed := showing.toClosed
  have start : ∀ service name, (start service name).Within (Uncalled p) := fun service name =>
    start_within (uncalled_noting p).toChained fun s => uncalled_of_eq (State.trail_occupy s _ _)
  have release : ∀ service,
      (modify (State.release service) : Run State HostError Unit).Within (Uncalled p) :=
    fun service => within_modify fun s => uncalled_of_eq (State.trail_release s service)
  have failed : ∀ e, (modify (State.recordFailed e) : Run State HostError Unit).Within
      (Uncalled p) :=
    fun e => within_modify fun s => uncalled_of_eq (State.trail_emit _ s)
  have activity : ∀ service name shows,
      (executeActivity flow service name shows).Within (Uncalled p) := by
    intro service name shows
    refine executeActivity_of_known closed service name (start _ _) (release _) failed ?_
    intro place b known
    exact execute_uncalled ho ha skips (getElem?_of_knownActivity known).2 {} shows
  cases op with
  | activity service name shows =>
    exact closed.bind (activity service name shows) fun _ => closed.pure _
  | sequence service name =>
    refine closed.bind ?_ fun _ => closed.pure _
    refine executeSequence_of_known closed service name (start _ _) (release _) failed ?_
    intro name place b known
    exact execute_uncalled ho ha skips (getElem?_of_knownActivity known).2 {} true
  | autostart =>
    exact autostart_closed showing.toLogging fun service name => activity service name true
  | call c =>
    refine closed.bind ?_ fun _ => closed.pure _
    refine externalCall_of_callOnly showing c (start _ _) (release _) ?_
    intro place b known
    obtain ⟨found, hb⟩ := getElem?_of_knownActivity known
    have placed := ho.placed place b hb
    -- it calls the activity that it names, and that is another one
    have other : (⟨place, .called⟩ : Mark) ≠ ⟨p, .called⟩ := by
      rintro ⟨⟩
      exact h found
    refine callOnly_closed showing.toReading (fun _ _ => trivial) c (mark_uncalled other) ?_ ?_
    · intro k hk
      obtain ⟨_, b', hb', _⟩ := placed.maker k hk
      exact execute_uncalled ho ha skips hb' {} false
    · intro k before hk
      obtain ⟨_, b', hb', _⟩ := placed.target k hk
      exact execute_uncalled ho ha skips hb' before false

end Operations

/-! ## §2. Sessions. -/

/-- Sessions with a flow in which no external call names the activity at place `p`: operations
start and get their answers in any order, and the host gives some up and lends what it likes. -/
inductive Sparing (flow : Flow) (p : Nat) : Session → Prop
  | opening : Sparing flow p ⟨initial flow, []⟩
  | begin {v w : Session} (hv : Sparing flow p v) (op : Operation) (spares : ¬ op.CallsAt flow p)
      (h : Session.after v.waiting (op.run flow v.state) = some w) : Sparing flow p w
  | answer {v w : Session} {before behind : List Waiting} {o : Waiting} (hv : Sparing flow p v)
      (ho : v.waiting = before ++ o :: behind) (answer : o.query.Answer)
      (h : Session.after (before ++ behind) (o.resume answer v.state) = some w) :
      Sparing flow p w
  | abandon {v : Session} {before behind : List Waiting} {o : Waiting} (hv : Sparing flow p v)
      (ho : v.waiting = before ++ o :: behind) (service : String) :
      Sparing flow p ⟨v.state.release service, before ++ behind⟩
  | lend {v : Session} (hv : Sparing flow p v) (query : Dict String) (values : Dict (Dict Json))
      (files : Dict (Dict String)) (listener : Listener) :
      Sparing flow p ⟨{ v.state with query, values, files, listener }, v.waiting⟩

/-- So far the activity has not been called, and those that wait will not call it. -/
structure Idle (p : Nat) (v : Session) : Prop where
  trail : ⟨p, .called⟩ ∉ v.state.trail
  waiting : ∀ o ∈ v.waiting, ∀ answer s, (o.resume answer s).Within (Uncalled p) s

theorem Idle.after {others : List Waiting} {task : Task State (Except HostError Unit)}
    {w : Session} (hs : ⟨p, .called⟩ ∉ s.trail) (ht : task.Within (Uncalled p) s)
    (hothers : ∀ o ∈ others, ∀ answer s, (o.resume answer s).Within (Uncalled p) s)
    (h : Session.after others task = some w) : Idle p w := by
  cases task with
  | done result t =>
    obtain rfl := Option.some.inj h
    exact ⟨fun called => hs (ht called), hothers⟩
  | endless => contradiction
  | ask query t resume =>
    obtain rfl := Option.some.inj h
    refine ⟨fun called => hs (ht.1 called), ?_⟩
    intro o ho
    rcases List.mem_cons.mp ho with rfl | ho
    · exact ht.2
    · exact hothers o ho

theorem Sparing.idle (orderly : Orderly flow) {a : Activity} (ha : flow.arena[p]? = some a)
    (skips : a.skips = true) {v : Session} (h : Sparing flow p v) : Idle p v := by
  induction h with
  | opening => exact ⟨List.not_mem_nil, fun o ho => absurd ho List.not_mem_nil⟩
  | begin _ op spares hw ih =>
    exact .after ih.trail (op.uncalled orderly ha skips spares _) ih.waiting hw
  | @answer v w before behind o _ ho answer hw ih =>
    have mine : o ∈ v.waiting := by
      rw [ho]
      exact List.mem_append_right _ List.mem_cons_self
    exact .after ih.trail (ih.waiting o mine answer _)
      (fun o' ho' => ih.waiting o' (Session.waiting_subset ho ho')) hw
  | abandon _ ho service ih =>
    refine ⟨?_, fun o' ho' => ih.waiting o' (Session.waiting_subset ho ho')⟩
    rw [State.trail_release]
    exact ih.trail
  | lend _ _ _ _ _ ih => exact ⟨ih.trail, ih.waiting⟩

end Run

/-! ## §3. Another strategy in its place. -/

namespace Flow

/-- The activity with another strategy; one that is inactive stays so. -/
def Activity.recast (σ : Strategy) (a : Activity) : Activity :=
  { a with strategy := a.strategy.map fun _ => σ }

/-- The flow with another strategy for the activity at place `p`. -/
def recast (flow : Flow) (p : Nat) (σ : Strategy) : Flow :=
  { flow with arena := flow.arena.modify p (Activity.recast σ) }

variable {flow : Flow} {p : Nat} {σ : Strategy}

theorem getElem?_recast (place : Nat) : (flow.recast p σ).arena[place]?
    = (flow.arena[place]?).map fun a => if p = place then a.recast σ else a := by
  show (flow.arena.modify p (Activity.recast σ))[place]? = _
  rw [List.getElem?_modify]
  rfl

/-- Everything but its strategy shows in the same way. -/
theorem map_recast {β : Type} (key : Activity → β) (h : ∀ a, key (a.recast σ) = key a) :
    (flow.recast p σ).arena.map key = flow.arena.map key := by
  refine List.ext_getElem? ?_
  intro place
  rw [List.getElem?_map, List.getElem?_map, getElem?_recast, Option.map_map]
  congr 1
  funext a
  simp only [Function.comp_apply]
  split
  · exact h a
  · rfl

theorem findAny?_recast (service name : String) :
    (flow.recast p σ).findAny? service name = flow.findAny? service name := by
  have inside : ∀ f : Flow, f.arena.findIdx?
      (fun a => !a.isGenerated && a.service = service && a.name = name)
        = (f.arena.map fun a => !a.isGenerated && a.service = service && a.name = name).findIdx?
          id := by
    intro f
    rw [List.findIdx?_map]
    rfl
  rw [findAny?, findAny?, inside, inside flow, map_recast _ fun _ => rfl]
  rfl

end Flow

namespace Run

open Pageflow.Flow (Activity IsBuilt Materials Orderly Strategy)

variable {flow : Flow} {p : Nat} {σ : Strategy} {a : Activity} {run : Executor}

theorem requirementMessage_recast (service : String) (r : Document.Required) :
    requirementMessage (flow.recast p σ) service r = requirementMessage flow service r := by
  have titles : ∀ place : Nat, ((flow.recast p σ).arena[place]?).map Activity.title
      = (flow.arena[place]?).map Activity.title := by
    intro place
    rw [← List.getElem?_map, ← List.getElem?_map, Flow.map_recast _ fun _ => rfl]
  have title : ((flow.findAny? service r.activityName).bind fun place =>
      (flow.recast p σ).arena[place]?).map Activity.title
        = ((flow.findAny? service r.activityName).bind fun place =>
          flow.arena[place]?).map Activity.title := by
    rw [Option.map_bind, Option.map_bind]
    exact congrArg _ (funext titles)
  unfold requirementMessage
  rw [Flow.findAny?_recast, title]
  rfl

theorem gate_recast (place : Nat) (a : Activity) :
    gate (flow.recast p σ) place a = gate flow place a := by
  have unmet : ∀ s, unmet? (flow.recast p σ) s a = unmet? flow s a := by
    intro s
    simp only [unmet?, requirementMessage_recast]
  simp only [gate, unmet]
  rfl

/-- The other activities run in it as they do without the change. -/
theorem runActivity_recast (place : Nat) (a : Activity) (before : Inherited) (shows : Bool) :
    runActivity (flow.recast p σ) run place a before shows
      = runActivity flow run place a before shows := by
  unfold runActivity
  split
  · rfl
  · simp only [resultFor, gate_recast]
    rfl

/-! ### The activity itself. -/

theorem argumentsOf_recast (before : Inherited) :
    argumentsOf run (a.recast σ) before = argumentsOf run a before := by
  refine (argumentsOf_congr rfl ?_).symm
  intro source _
  cases source <;> rfl

theorem isReference_recast (same : σ.isReference = a.isReference) :
    (a.recast σ).isReference = a.isReference := by
  unfold Activity.isReference Activity.recast at *
  cases hs : a.strategy with
  | none => rfl
  | some strategy =>
    rw [hs] at same
    exact same

/-- **If its call is skipped, the activity runs in the same way with another strategy.** -/
theorem runActivity_recast_self (skips : a.skips = true) (same : σ.isReference = a.isReference)
    (place : Nat) (before : Inherited) (shows : Bool) :
    runActivity flow run place (a.recast σ) before shows
      = runActivity flow run place a before shows := by
  have reference := isReference_recast same
  -- it matters whether the strategy is a reference, for what is stored and announced; else it is
  -- only looked at to call it
  have stored : State.settle place (a.recast σ) = State.settle place a := by
    funext result s
    unfold State.settle State.storeResult
    rw [reference]
    rfl
  have concluded : ∀ result,
      (conclude place (a.recast σ) result shows : Run State ActivityFailure _)
        = conclude place a result shows := by
    intro result
    unfold conclude announces
    rw [reference]
    rfl
  have result : ∀ strategy : Strategy,
      resultFor flow run place (a.recast σ) σ before
        = resultFor flow run place a strategy before := by
    intro strategy
    have skipped : ∀ arguments, resultOf flow run place (a.recast σ) σ arguments
        = resultOf flow run place a strategy arguments := by
      intro arguments
      unfold resultOf
      rw [if_pos skips, if_pos (show (a.recast σ).skips = true from skips)]
      rfl
    unfold resultFor
    simp only [argumentsOf_recast, skipped]
    rfl
  unfold runActivity
  cases hs : a.strategy with
  | none =>
    simp only [Activity.recast, hs, Option.map_none]
    rfl
  | some strategy =>
    simp only [show (a.recast σ).strategy = some σ by rw [Activity.recast, hs]; rfl,
      result strategy, settle, stored, handDown, concluded]
    rfl

/-! ### Operations. -/

theorem knownActivity_recast (service name : String) :
    knownActivity (flow.recast p σ) service name
      = (knownActivity flow service name).map fun found =>
        (found.1, if p = found.1 then found.2.recast σ else found.2) := by
  unfold knownActivity
  rw [show (flow.recast p σ).find? service name = flow.find? service name from rfl]
  cases flow.find? service name with
  | none => rfl
  | some place =>
    simp only [Option.bind_some, Flow.getElem?_recast]
    cases flow.arena[place]? <;> rfl

/-- What a value is made into before a run may be left to the run. -/
theorem ofExcept_map_bind {α β γ ε : Type} (x : Except ε α) (f : α → β)
    (next : β → Run State ε γ) :
    (ofExcept (x.map f) >>= next) = (ofExcept x >>= fun a => next (f a)) := by
  cases x <;> rfl

section Operations

variable (ha : flow.arena[p]? = some a) (skips : a.skips = true)
  (same : σ.isReference = a.isReference)

include ha skips same

theorem executeTo_recast : ∀ depth, executeTo (flow.recast p σ) depth = executeTo flow depth
  | 0 => rfl
  -- what an activity runs is the same one step less deep; so only its own strategy is different
  | depth + 1 => by
      funext place before shows
      simp only [executeTo, Flow.getElem?_recast, executeTo_recast depth]
      cases hb : flow.arena[place]? with
      | none => rfl
      | some b =>
        by_cases hp : p = place
        · subst hp
          obtain rfl := Option.some.inj (ha.symm.trans hb)
          simp only [Option.map_some, if_pos]
          rw [runActivity_recast, runActivity_recast_self skips same]
        · simp only [Option.map_some, if_neg hp]
          rw [runActivity_recast]

theorem execute_recast : execute (flow.recast p σ) = execute flow := by
  unfold execute
  rw [executeTo_recast ha skips same, Flow.recast, List.length_modify]

theorem runTop_recast (service name : String) (place : Nat) (b : Activity) (shows : Bool) :
    runTop (flow.recast p σ) service name place (if p = place then b.recast σ else b) shows
      = runTop flow service name place b shows := by
  unfold runTop
  rw [execute_recast ha skips same]
  split <;> rfl

theorem executeActivity_recast (service name : String) (shows : Bool) :
    executeActivity (flow.recast p σ) service name shows
      = executeActivity flow service name shows := by
  unfold executeActivity
  simp only [knownActivity_recast, ofExcept_map_bind, runTop_recast ha skips same]
  rfl

theorem runSteps_recast (service : String) :
    ∀ names, runSteps (flow.recast p σ) service names = runSteps flow service names
  | [] => rfl
  | name :: rest => by
      simp only [runSteps, knownActivity_recast, ofExcept_map_bind,
        runTop_recast ha skips same, runSteps_recast service rest]

theorem executeSequence_recast (service name : String) :
    executeSequence (flow.recast p σ) service name = executeSequence flow service name := by
  unfold executeSequence
  simp only [runSteps_recast ha skips same]
  rfl

theorem autostart_recast : autostart (flow.recast p σ) = autostart flow := by
  have steps : ∀ service names,
      autostartSteps (flow.recast p σ) service names = autostartSteps flow service names := by
    intro service names
    induction names with
    | nil => rfl
    | cons name rest ih => simp only [autostartSteps, executeActivity_recast ha skips same, ih]
  have services : ∀ services,
      autostartServices (flow.recast p σ) services = autostartServices flow services := by
    intro services
    induction services with
    | nil => rfl
    | cons s rest ih =>
      simp only [autostartServices, autostartService, steps, ih]
      rfl
  exact services _

theorem callOnly_recast (c : ExternalCall) (place : Nat) (b : Activity) :
    callOnly (flow.recast p σ) c place b = callOnly flow c place b := by
  have arguments : callArguments (flow.recast p σ) c b = callArguments flow c b := by
    unfold callArguments
    rw [execute_recast ha skips same]
  have failure : callFailure (flow.recast p σ) = callFailure flow := rfl
  unfold callOnly
  rw [arguments, failure, execute_recast ha skips same]

theorem callGuarded_recast {c : ExternalCall} (h : flow.find? c.service c.activity ≠ some p) :
    callGuarded (flow.recast p σ) c = callGuarded flow c := by
  have service : knownService (flow.recast p σ) c.service = knownService flow c.service := rfl
  unfold callGuarded
  rw [service, knownActivity_recast, ofExcept_map_bind]
  cases hk : knownActivity flow c.service c.activity with
  | error e => rfl
  | ok found =>
    obtain ⟨place, b⟩ := found
    have other : p ≠ place := by
      rintro rfl
      exact h (getElem?_of_knownActivity hk).1
    have opened : ∀ next : Nat × Activity → Run State HostError Json,
        (ofExcept (.ok (place, b)) >>= next) = next (place, b) := fun _ => rfl
    simp only [opened, if_neg other, callOnly_recast ha skips same]

theorem externalCall_recast {c : ExternalCall} (h : flow.find? c.service c.activity ≠ some p) :
    externalCall (flow.recast p σ) c = externalCall flow c := by
  unfold externalCall
  rw [callGuarded_recast ha skips same h]

/-- **Operations go as they would with any other strategy**, unless one calls the activity. -/
theorem Operation.run_recast {op : Operation} (h : ¬ op.CallsAt flow p) :
    op.run (flow.recast p σ) = op.run flow := by
  cases op with
  | activity service name shows =>
    simp only [Operation.run, executeActivity_recast ha skips same]
  | sequence service name => simp only [Operation.run, executeSequence_recast ha skips same]
  | autostart => simp only [Operation.run, autostart_recast ha skips same]
  | call c => simp only [Operation.run, externalCall_recast ha skips same h]

end Operations

/-! ## §4. Built flows. -/

/-- **If the call of an activity is skipped, nothing calls its strategy but an external call of
the activity itself.**  In every session without such a call, whatever the operations are and
however they take turns, no call of it is on the trail; and every other operation asks the same
questions, whatever strategy stands in its place, and does the same with the answers. -/
theorem overridden_strategy_stays_idle {m : Materials} {page : Document.Page}
    {process : Document.Process} (hb : IsBuilt m page process flow)
    (ha : flow.arena[p]? = some a) (skips : a.skips = true) :
    (∀ v, Sparing flow p v → ⟨p, .called⟩ ∉ v.state.trail)
    ∧ ∀ σ : Strategy, σ.isReference = a.isReference → ∀ op : Operation, ¬ op.CallsAt flow p →
        op.run (flow.recast p σ) = op.run flow :=
  ⟨fun _ hv => (hv.idle hb.orderly ha skips).trail,
    fun _ same _ spares => Operation.run_recast ha skips same spares⟩

end Run

/-! ## §5. A kiosk. -/

/-- The name of the function that a question calls. -/
def Query.function? : Query → Option String
  | .call f _ => some f.name
  | _ => none

namespace Run

open Pageflow.Flow (Activity IsBuilt Materials Orderly Strategy)

/-- A kiosk that quotes 5 without asking, shows the quote, and can be had to do so again. -/
def kioskProcess : Document.Process where
  services := [("kiosk",
    { activities := [
        ("quote",
          { moduleFunction := some "fetch"
            debug := some { execute := some false, resultData := some (.integer 5) }
            subActivities := [
              ("show",
                { moduleFunction := some "echo"
                  parameters := [("value", { parent := true })] })] })] })]
  common :=
    { activities := [("again", .reference { serviceName := "kiosk", activityName := "quote" })] }

def kioskMaterials : Materials where
  functions := [("fetch", ⟨"kiosk", "fetch", []⟩), ("echo", ⟨"kiosk", "echo", ["value"]⟩)]
  bridges := []

def kioskFlow : Flow := (Flow.assemble? kioskMaterials {} kioskProcess).value.getD default

theorem kioskFlow_isBuilt : IsBuilt kioskMaterials {} kioskProcess kioskFlow :=
  Flow.isBuilt_getD (by decide +kernel)

/-- The quote is handed down through the reference, and waits to be shown; nothing has fetched it,
and nothing would if a capability or another function stood in its place. -/
theorem overridden_strategy_stays_idle_kiosk :
    IsBuilt kioskMaterials {} kioskProcess kioskFlow
    ∧ (∃ a, kioskFlow.arena[0]? = some a ∧ a.skips = true)
    ∧ (∃ v, Sparing kioskFlow 0 v ∧ ⟨0, .settled (.integer 5)⟩ ∈ v.state.trail
      ∧ v.waiting.filterMap (fun o => o.query.function?) = ["echo"]
      ∧ ⟨0, .called⟩ ∉ v.state.trail)
    ∧ (Operation.activity "kiosk" "quote" true).run
        (kioskFlow.recast 0 (.function ⟨"other", "burn", []⟩))
      = (Operation.activity "kiosk" "quote" true).run kioskFlow := by
  have place : (kioskFlow.arena[0]?).map (fun a => (a.skips, a.isReference))
      = some (true, false) := by
    decide +kernel
  obtain ⟨a, ha, overridden⟩ := Option.map_eq_some_iff.mp place
  obtain ⟨skips, own⟩ := Prod.mk.inj overridden
  have waits : (Session.after [] ((Operation.activity "process" "again" true).run kioskFlow
      (initial kioskFlow))).any (fun v => decide (⟨0, .settled (.integer 5)⟩ ∈ v.state.trail)
        && v.waiting.filterMap (fun o => o.query.function?) = ["echo"]) = true := by
    decide +kernel
  obtain ⟨v, hv, seen⟩ := (Option.any_eq_true _ _).mp waits
  obtain ⟨settled, asks⟩ := Bool.and_eq_true_iff.mp seen
  have sparing : Sparing kioskFlow 0 v :=
    .begin .opening (.activity "process" "again" true) (by decide) hv
  obtain ⟨idle, same⟩ := overridden_strategy_stays_idle kioskFlow_isBuilt ha skips
  exact ⟨kioskFlow_isBuilt, ⟨a, ha, skips⟩,
    ⟨v, sparing, of_decide_eq_true settled, of_decide_eq_true asks, idle v sparing⟩,
    same (.function ⟨"other", "burn", []⟩) own.symm (.activity "kiosk" "quote" true) (by decide)⟩

/-- An external call of the quote fetches it all the same: the function of its strategy is called,
and gives 7. -/
theorem external_call_ignores_override :
    IsBuilt kioskMaterials {} kioskProcess kioskFlow
    ∧ (∃ a, kioskFlow.arena[0]? = some a ∧ a.skips = true)
    ∧ ((externalCall kioskFlow { service := "kiosk", activity := "quote" }
        (initial kioskFlow)).asked sevenAnswers ()).filterMap Query.function? = ["fetch"]
    ∧ ∃ t, (externalCall kioskFlow { service := "kiosk", activity := "quote" }
        (initial kioskFlow)).Ends (.ok (.integer 7)) t ∧ ⟨0, .called⟩ ∈ t.trail := by
  have place : (kioskFlow.arena[0]?).map Activity.skips = some true := by decide +kernel
  obtain ⟨a, ha, skips⟩ := Option.map_eq_some_iff.mp place
  have outcome : (((externalCall kioskFlow { service := "kiosk", activity := "quote" }
      (initial kioskFlow)).finish sevenAnswers ()).1.map fun r =>
        (r.1, decide (⟨0, .called⟩ ∈ r.2.trail))) = some (.ok (.integer 7), true) := by
    decide +kernel
  obtain ⟨⟨result, t⟩, ht, hr⟩ := Option.map_eq_some_iff.mp outcome
  obtain ⟨rfl, called⟩ : result = .ok (.integer 7) ∧ _ := Prod.mk.inj hr
  exact ⟨kioskFlow_isBuilt, ⟨a, ha, skips⟩, by decide +kernel, t,
    Task.ends_of_finish sevenAnswers (Prod.ext ht rfl), of_decide_eq_true called⟩

end Run

end Pageflow
