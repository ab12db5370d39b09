/-
  Pageflow.Proofs.Hooks — functions that change results.

  A capability may declare a function of the support module that changes its results.  However the
  capability is resolved, to an operation, to a function of the client module or to one of the
  support module, that function comes with it, if the support module has it.  Then no activity that
  the capability stands behind has any other result than the output of that function, but for the
  result that stands in for a call that is skipped.

  Main definitions: `BoundTo` and `ThroughHook`.
  Main statements: `declared_hook_is_applied`, and `hooks_passed_over` on what is left out.
-/
import Pageflow.Proofs.Backing
import Pageflow.Proofs.Forest
import Pageflow.Proofs.Outcomes
import Pageflow.Proofs.Related
import Pageflow.Proofs.Replies

namespace Pageflow

/-! ## §1. Capabilities. -/

/-- A capability as the strategy of an activity. -/
def Capability.strategy : Capability → Flow.Strategy
  | .remote o => .remote o
  | .module c => .capability c

theorem Capability.isReference_strategy (c : Capability) : c.strategy.isReference = false := by
  cases c <;> rfl

theorem Noted.value_mapM {α β : Type} (f : α → Noted β) :
    ∀ as : List α, (as.mapM f).value = as.map fun a => (f a).value
  | [] => rfl
  | a :: rest => by
      rw [List.mapM_cons, List.map_cons, ← value_mapM f rest]
      rfl

namespace Bridge

variable {name : String} {definition : Document.Capability} {support : Option Module}

/-- The function of the support module that a definition declares. -/
theorem value_postProcess : (postProcess name definition support).value
    = definition.postProcess.bind fun hook => support.bind fun m => m.get? hook := by
  unfold postProcess
  cases definition.postProcess with
  | none => rfl
  | some hook =>
    rw [Option.bind_some]
    dsimp only
    split
    next f found => exact found.symm
    next missing => exact missing.symm

/-- The capability of a name is what its definition is resolved to. -/
theorem get?_ofDefinitions (service : String) (definitions : Dict Document.Capability)
    (resolve : String → Document.Capability → Noted (Except Unavailable Capability))
    (name : String) :
    (ofDefinitions service definitions resolve).value.capabilities.get? name
      = (definitions.get? name).map fun definition => (resolve name definition).value := by
  show Dict.get? (definitions.mapM fun (name, definition) => do
    return (name, ← resolve name definition)).value name = _
  rw [Noted.value_mapM]
  exact Dict.get?_map (fun name definition => (resolve name definition).value) definitions name

/-- The function that a definition declares comes with a function as a capability. -/
theorem postProcess_of_functionCapability {f : Function} :
    (functionCapability name definition support f).value.strategy.postProcess
      = (postProcess name definition support).value := rfl

/-- **The function that a definition declares comes with the operation**, or with the function that
stands in for it. -/
theorem postProcess_of_remoteCapability {document : Json} {backend : Remote.Backend}
    {c : Capability}
    (h : (remoteCapability document backend support name definition).value = .ok c) :
    c.strategy.postProcess = (postProcess name definition support).value := by
  unfold remoteCapability at h
  split at h
  next => rw [← Except.ok.inj h]; rfl
  next =>
    split at h
    next =>
      rw [← Except.ok.inj h]
      exact postProcess_of_functionCapability
    next => contradiction

/-- **The function that a definition declares comes with the function of the client module**, or
with the one that stands in for it. -/
theorem postProcess_of_moduleCapability {client : Module} {c : Capability}
    (h : (moduleCapability client support name definition).value = .ok c) :
    c.strategy.postProcess = (postProcess name definition support).value := by
  unfold moduleCapability at h
  dsimp only at h
  split at h
  next =>
    rw [← Except.ok.inj h]
    exact postProcess_of_functionCapability
  next => contradiction

end Bridge

/-- **A capability of a loaded bridge is unavailable, or the function that its definition declares
comes with it.** -/
theorem Load.hook_of_bridgeOf {service : String} {binding : Document.Binding}
    {document : Document.Bridge} {support : Option Module} {server : Server} {name : String}
    {definition : Document.Capability} (hd : document.capabilities.get? name = some definition) :
    (∃ reason, (bridgeOf service binding document support server).value.capability name
        = .error (.unavailable name reason))
      ∨ ∃ c, (bridgeOf service binding document support server).value.capability name = .ok c
        ∧ c.strategy.postProcess
          = definition.postProcess.bind fun hook => support.bind fun m => m.get? hook := by
  have resolved {resolve : String → Document.Capability → Noted (Except Unavailable Capability)}
      (hooked : ∀ c, (resolve name definition).value = .ok c →
        c.strategy.postProcess = (Bridge.postProcess name definition support).value) :
      (∃ reason, (Bridge.ofDefinitions service document.capabilities resolve).value.capability name
          = .error (.unavailable name reason))
        ∨ ∃ c, (Bridge.ofDefinitions service document.capabilities resolve).value.capability name
            = .ok c
          ∧ c.strategy.postProcess
            = definition.postProcess.bind fun hook => support.bind fun m => m.get? hook := by
    unfold Bridge.capability
    rw [Bridge.get?_ofDefinitions, hd, Option.map_some]
    cases h : (resolve name definition).value with
    | error reason => exact .inl ⟨reason, rfl⟩
    | ok c => exact .inr ⟨c, rfl, (hooked c h).trans Bridge.value_postProcess⟩
  cases server with
  | openApi openApi => exact resolved fun _ => Bridge.postProcess_of_remoteCapability
  | client client => exact resolved fun _ => Bridge.postProcess_of_moduleCapability

/-! ## §2. Activities behind which a capability stands. -/

namespace Flow

open Document (processService)

/-- The activity of a built flow is made from a definition that names this capability of the
service: it is declared, or it makes a generated value. -/
inductive BoundTo (m : Materials) (page : Document.Page) (process : Document.Process)
    (service capability : String) : Activity → Prop
  | declared {address : Document.Address} {name : String} {a : Document.Activity}
      {parent : Option Nat} {places : List Nat} {b : Activity}
      (hd : process.declaration? address = some ⟨service, name, .definition a⟩)
      (names : a.bridgeCapability = some capability)
      (stands : Retains (rootOf (unplaced m.functions service name a (m.bridges.get? service))
        parent places) b) :
      BoundTo m page process service capability b
  | made {a b : Activity} {parameter : String} {p : Document.Parameter} {g : Document.Generate}
      (origin : IsOrigin (mappingOf m page process) (Flow.declared m page process).value.arena a)
      (own : a.service = service) (defines : Defines (mappingOf m page process) a p)
      (generates : p.generate = some g) (names : g.bridgeCapability = some capability)
      (stands : Retains (generatorOf (mappingOf m page process) a.service a.name parameter g).value
        b) :
      BoundTo m page process service capability b

/-- A strategy for a capability is that capability of the bridge. -/
theorem capability_of_capabilityStrategy {service name capability : String}
    {bridge : Option Bridge} {s : Strategy}
    (h : (capabilityStrategy service name capability bridge).value = some s) :
    ∃ b c, bridge = some b ∧ b.capability capability = .ok c ∧ s = c.strategy := by
  unfold capabilityStrategy at h
  split at h
  next => contradiction
  next =>
    split at h
    next => contradiction
    next b =>
      split at h
      next o found => exact ⟨b, .remote o, rfl, found, (Option.some.inj h).symm⟩
      next c found => exact ⟨b, .module c, rfl, found, (Option.some.inj h).symm⟩
      next => contradiction

theorem capability_of_unplaced {functions : Module} {service name capability : String}
    {a : Document.Activity} {bridge : Option Bridge} {s : Strategy}
    (names : a.bridgeCapability = some capability)
    (h : (unplaced functions service name a bridge).strategy = some s) :
    ∃ b c, bridge = some b ∧ b.capability capability = .ok c ∧ s = c.strategy := by
  have named := strategy_of_preProcessOf h
  rw [strategyOf, names] at named
  exact capability_of_capabilityStrategy named

variable {m : Materials} {page : Document.Page} {process : Document.Process} {flow : Flow}
  {service capability : String}

/-- **Behind an activity stands the capability that it names**, or it is inactive. -/
theorem BoundTo.strategy {b : Activity} (h : BoundTo m page process service capability b)
    {s : Strategy} (hs : b.strategy = some s) :
    ∃ bridge c, m.bridges.get? service = some bridge ∧ bridge.capability capability = .ok c
      ∧ s = c.strategy := by
  cases h with
  | declared _ names stands =>
    rw [stands.strategy] at hs
    exact capability_of_unplaced names hs
  | @made a _ parameter _ g _ own _ _ names stands =>
    rw [stands.strategy, own] at hs
    have maker : (Document.Generate.toActivity g (generatorName a.name parameter)).bridgeCapability
        = some capability := by
      cases g
      exact names
    exact capability_of_unplaced maker hs

/-- What is declared and names a capability is bound to it. -/
theorem IsBuilt.exists_boundTo (hb : IsBuilt m page process flow) {address : Document.Address}
    {name : String} {a : Document.Activity}
    (hd : process.declaration? address = some ⟨service, name, .definition a⟩)
    (names : a.bridgeCapability = some capability) :
    ∃ b ∈ flow.arena, b.name = name ∧ BoundTo m page process service capability b := by
  obtain ⟨place, forest⟩ := hb.forest
  obtain ⟨parent, places, b, hplace, stands, _⟩ := forest.stands _ _ hd
  exact ⟨b, List.mem_of_getElem? hplace, stands.name, .declared hd names stands⟩

end Flow

namespace Run

open Pageflow.Flow (Activity BoundTo IsBuilt Materials)

variable {m : Materials} {page : Document.Page} {process : Document.Process} {flow : Flow}

/-! ## §3. Results. -/

/-- The chronicle ends with the call of the activity at a place, the replies that lead its strategy
to a value, and the output of the function for this value, which carries the result. -/
def ThroughHook (f : Function) (place : Nat) (a : Activity) (result : Json)
    (moves : List Move) : Prop :=
  ∃ (strategy : Flow.Strategy) (earlier : List Move) (first : List Reply) (value : Json)
    (output : Output), a.strategy = some strategy ∧ Unwraps strategy first value
      ∧ output.result = .ok result
      ∧ moves = earlier ++ .mark ⟨place, .called⟩
        :: (first ++ [(⟨.call f [value], .ok output⟩ : Reply)]).map .reply

/-- The output of a function that changes results is an answer to a call with one argument. -/
theorem ThroughHook.mem {f : Function} {place : Nat} {a : Activity} {result : Json}
    {moves : List Move} (h : ThroughHook f place a result moves) :
    ∃ value answer, .reply ⟨.call f [value], answer⟩ ∈ moves := by
  obtain ⟨_, earlier, first, value, output, _, _, _, rfl⟩ := h
  refine ⟨value, .ok output, List.mem_append.mpr (.inr (List.mem_cons_of_mem _ ?_))⟩
  exact List.mem_map_of_mem (List.mem_append.mpr (.inr (List.mem_singleton.mpr rfl)))

/-- A call that comes to a result comes to it through the function that changes the results of the
strategy, if there is one. -/
theorem throughHook_of_goes {f : Function} {a : Activity} {place : Nat} {result : Json}
    {earlier : List Move} {replies : List Reply} (own : a.isReference = false)
    (hooked : ∀ s, a.strategy = some s → s.postProcess = some f)
    (goes : CallGoes flow a replies (.ok result)) :
    ThroughHook f place a result
      (earlier ++ .mark ⟨place, .called⟩ :: replies.map .reply) := by
  obtain ⟨strategy, arguments, u, t, hs, goes⟩ := goes
  have own : strategy.isReference = false := by
    rwa [Activity.isReference, hs] at own
  obtain ⟨unwraps, hook⟩ := yields_of_goes own goes
  rw [hooked strategy hs] at hook
  cases hook with
  | output carried => exact ⟨strategy, earlier, _, _, _, hs, unwraps, carried, rfl⟩

/-- **A declared function that changes results is applied to all of them**, if the support module
has it.  The capability is unavailable, and what names it is inactive; or whatever a host does, a
result of an activity behind which the capability stands is the output of the function for the
value of its strategy.  Only the result that stands in for a call that is skipped is not. -/
theorem declared_hook_is_applied (hb : IsBuilt m page process flow) {registry : Registry}
    {service : String} {binding : Document.Binding} {base : Load.Location} {b : Bridge}
    {document : Document.Bridge} {server : Load.Server}
    (stems : Load.Stems registry service binding base b document server)
    (loaded : m.bridges.get? service = some b) {name hook : String}
    {definition : Document.Capability}
    (hd : document.capabilities.get? name = some definition)
    (declares : definition.postProcess = some hook) {support : Module} {f : Function}
    (supports : Load.support registry document = .ok (some support))
    (provides : support.get? hook = some f) :
    ((∃ reason, b.capability name = .error (.unavailable name reason))
        ∧ ∀ a, BoundTo m page process service name a → a.strategy = none)
      ∨ ∀ place a, flow.arena[place]? = some a → BoundTo m page process service name a →
          (a.skips = false → ∀ op s, (Operation.run flow op s).Chronicles (fun moves _ _ =>
            ∀ before result rest, moves = before ++ .mark ⟨place, .settled result⟩ :: rest →
              ThroughHook f place a result before) s)
          ∧ ∀ c s, knownActivity flow c.service c.activity = .ok (place, a) →
              (externalCall flow c s).Chronicles (fun moves x _ =>
                ∀ result, x = .ok result → ThroughHook f place a result moves) s := by
  obtain ⟨_, given, rfl⟩ := stems.made
  obtain rfl := Except.ok.inj (given.symm.trans supports)
  -- the capability of whatever is bound to it is the one that was loaded
  have bound {a : Activity} (ha : BoundTo m page process service name a) {s : Flow.Strategy}
      (hs : a.strategy = some s) :
      ∃ c, (Load.bridgeOf service binding document (some support) server).value.capability name
        = .ok c ∧ s = c.strategy := by
    obtain ⟨b, c, hb, hc, h⟩ := ha.strategy hs
    obtain rfl := Option.some.inj (hb.symm.trans loaded)
    exact ⟨c, hc, h⟩
  rcases Load.hook_of_bridgeOf hd with ⟨reason, unavailable⟩ | ⟨c, available, hooked⟩
  · refine .inl ⟨⟨reason, unavailable⟩, fun a ha => ?_⟩
    cases hs : a.strategy with
    | none => rfl
    | some s =>
      obtain ⟨c, hc, _⟩ := bound ha hs
      rw [unavailable] at hc
      contradiction
  · refine .inr fun place a ha bounded => ?_
    have capability {s : Flow.Strategy} (hs : a.strategy = some s) : s = c.strategy := by
      obtain ⟨c', hc, h⟩ := bound bounded hs
      obtain rfl := Except.ok.inj (hc.symm.trans available)
      exact h
    have hooked : ∀ s, a.strategy = some s → s.postProcess = some f := by
      intro s hs
      rw [capability hs, hooked, declares]
      exact provides
    have own : a.isReference = false := by
      rw [Activity.isReference]
      cases hs : a.strategy with
      | none => rfl
      | some s =>
        rw [capability hs]
        exact c.isReference_strategy
    refine ⟨fun called op s => ?_, fun call s known => ?_⟩
    · refine (operation_accounts hb.orderly op s).mono ?_
      rintro _ x _ accounted before result rest rfl
      obtain ⟨more, whole⟩ := accounted.exists_accounted
      obtain ⟨earlier, replies, goes, rfl⟩ :=
        whole.cause ha own called (List.append_assoc before _ more)
      exact throughHook_of_goes own hooked goes
    · refine (externalCall_accounts hb.orderly call known s).mono ?_
      intro moves x _ accounted result hx
      obtain ⟨earlier, replies, goes, rfl⟩ := accounted.result own hx
      exact throughHook_of_goes own hooked goes

/-! ## §4. An auction. -/

def auctionClient : Module := [("fetch", ⟨"client", "fetch", []⟩)]

def auctionSupport : Module := [("pick", ⟨"support", "pick", ["value"]⟩)]

def auctionRegistry : Registry :=
  [("mod:client", auctionClient), ("mod:support", auctionSupport)]

/-- Bids are fetched, and then changed by this function. -/
def auctionDocument (hook : String) : Document.Bridge where
  execute := { clientModuleUri := some "mod:client" }
  supportModuleUri := some "mod:support"
  capabilities := [("bid", { functionName := some "fetch", postProcess := some hook })]

def auctionBinding (hook : String) : Document.Binding where
  source := { inline := some (auctionDocument hook) }

def auctionBridge (hook : String) : Bridge :=
  (Load.bridgeOf "auction" (auctionBinding hook) (auctionDocument hook) (some auctionSupport)
    (.client auctionClient)).value

theorem auctionBridge_stems (hook : String) :
    Load.Stems auctionRegistry "auction" (auctionBinding hook) (.file "page.json")
      (auctionBridge hook) (auctionDocument hook) (.client auctionClient) where
  found := ⟨.file "page.json", [], [], [], [], ⟨rfl, rfl⟩, ⟨rfl, rfl⟩⟩
  made := ⟨some auctionSupport, rfl, rfl⟩

/-- An auction shows the bid, if it is not told to skip that. -/
def auctionProcess (overrides : Option Document.Overrides) : Document.Process where
  services := [("auction",
    { activities := [("show", { bridgeCapability := some "bid", debug := overrides })] })]

def auctionMaterials (hook : String) : Materials where
  functions := []
  bridges := [("auction", auctionBridge hook)]

def auctionFlow (hook : String) (overrides : Option Document.Overrides) : Flow :=
  (Flow.assemble? (auctionMaterials hook) {} (auctionProcess overrides)).value.getD default

/-- The only activity of the auction shows the bid. -/
theorem auctionFlow_boundTo {hook : String} {overrides : Option Document.Overrides}
    (hb : IsBuilt (auctionMaterials hook) {} (auctionProcess overrides)
      (auctionFlow hook overrides))
    {a : Activity} (only : (auctionFlow hook overrides).arena = [a]) :
    BoundTo (auctionMaterials hook) {} (auctionProcess overrides) "auction" "bid" a := by
  have declared : (auctionProcess overrides).declaration? [0, 0] = some ⟨"auction", "show",
      .definition { bridgeCapability := some "bid", debug := overrides }⟩ := rfl
  obtain ⟨b, hmem, _, bound⟩ := hb.exists_boundTo declared rfl
  rw [only] at hmem
  rwa [← List.mem_singleton.mp hmem]

/-- The bid is 7, and what changes it doubles it. -/
def auctionAnswers : Task.Environment Unit
  | .call f _, _ => (.ok (.value (.integer (if f.name = "pick" then 14 else 7))), ())
  | q, world => nullAnswers q world

def fetchReply : Reply := ⟨.call ⟨"client", "fetch", []⟩ [], .ok (.value (.integer 7))⟩

def pickReply : Reply :=
  ⟨.call ⟨"support", "pick", ["value"]⟩ [.integer 7], .ok (.value (.integer 14))⟩

/-- What showing the bid comes to: the chronicle, the outcome and the state at the end. -/
def shownBid (hook : String) (overrides : Option Document.Overrides) :
    Option (List Move × Except HostError Unit × State) :=
  ((Operation.activity "auction" "show" true).run (auctionFlow hook overrides)
    (initial (auctionFlow hook overrides))).record auctionAnswers
      (initial (auctionFlow hook overrides)) ()

/-- What the bridge offers is what the bid is fetched and changed with: the result is the output
of the function for the bid. -/
theorem declared_hook_is_applied_auction :
    IsBuilt (auctionMaterials "pick") {} (auctionProcess none) (auctionFlow "pick" none)
    ∧ (auctionMaterials "pick").bridges.get? "auction" = some (auctionBridge "pick")
    ∧ (auctionDocument "pick").capabilities.get? "bid"
      = some { functionName := some "fetch", postProcess := some "pick" }
    ∧ Load.support auctionRegistry (auctionDocument "pick") = .ok (some auctionSupport)
    ∧ auctionSupport.get? "pick" = some ⟨"support", "pick", ["value"]⟩
    ∧ ∃ a, (auctionFlow "pick" none).arena[0]? = some a
      ∧ BoundTo (auctionMaterials "pick") {} (auctionProcess none) "auction" "bid" a
      ∧ ∃ moves x t before rest, shownBid "pick" none = some (moves, x, t)
        ∧ moves = before ++ .mark ⟨0, .settled (.integer 14)⟩ :: rest
        ∧ ThroughHook ⟨"support", "pick", ["value"]⟩ 0 a (.integer 14) before := by
  have built : IsBuilt (auctionMaterials "pick") {} (auctionProcess none)
      (auctionFlow "pick" none) := Flow.isBuilt_getD (by decide +kernel)
  have loaded : (auctionMaterials "pick").bridges.get? "auction" = some (auctionBridge "pick") :=
    rfl
  have declared : (auctionDocument "pick").capabilities.get? "bid"
      = some { functionName := some "fetch", postProcess := some "pick" } := rfl
  have provides : auctionSupport.get? "pick" = some ⟨"support", "pick", ["value"]⟩ := rfl
  have single : (auctionFlow "pick" none).arena.length = 1 := by decide +kernel
  obtain ⟨a, only⟩ := List.length_eq_one_iff.mp single
  have ha : (auctionFlow "pick" none).arena[0]? = some a := by rw [only]; rfl
  have state : (auctionFlow "pick" none).arena.map (fun a => (a.skips, a.strategy.isSome))
      = [(false, true)] := by
    decide +kernel
  rw [only, List.map_singleton] at state
  obtain ⟨called, active⟩ := Prod.mk.inj (List.singleton_inj.mp state)
  have chronicle : (shownBid "pick" none).map Prod.fst
      = some ([.mark ⟨0, .entered {}⟩, .mark ⟨0, .admitted⟩, .mark ⟨0, .called⟩,
        .reply fetchReply, .reply pickReply]
        ++ .mark ⟨0, .settled (.integer 14)⟩ :: [.mark ⟨0, .completed (.integer 14)⟩]) := by
    decide +kernel
  obtain ⟨⟨moves, x, t⟩, hrecord, rfl⟩ := Option.map_eq_some_iff.mp chronicle
  have bound := auctionFlow_boundTo built only
  refine ⟨built, loaded, declared, rfl, provides, a, ha, bound, _, x, t, _, _, hrecord, rfl, ?_⟩
  rcases declared_hook_is_applied built (auctionBridge_stems "pick") loaded declared rfl rfl
    provides with ⟨_, inactive⟩ | applied
  · rw [inactive a bound] at active
    contradiction
  · have told := ((applied 0 a ha bound).1 called _ _).of_record hrecord
    exact told _ _ _ rfl

/-- Though the definition of the capability declares a function that changes results, and the
capability is available, the bid is shown with a result that no such function gives. -/
def PassedOver (hook : String) (overrides : Option Document.Overrides) (result : Json) : Prop :=
  IsBuilt (auctionMaterials hook) {} (auctionProcess overrides) (auctionFlow hook overrides)
  ∧ (auctionDocument hook).capabilities.get? "bid"
    = some { functionName := some "fetch", postProcess := some hook }
  ∧ (∃ c, (auctionBridge hook).capability "bid" = .ok c)
  ∧ ∃ a moves t before rest, (auctionFlow hook overrides).arena[0]? = some a
    ∧ BoundTo (auctionMaterials hook) {} (auctionProcess overrides) "auction" "bid" a
    ∧ shownBid hook overrides = some (moves, .ok (), t)
    ∧ moves = before ++ .mark ⟨0, .settled result⟩ :: rest
    ∧ ∀ f, ¬ ThroughHook f 0 a result before

theorem passedOver_of_chronicle {hook : String} {overrides : Option Document.Overrides}
    {result : Json} {before rest : List Move}
    (assembled : (Flow.assemble? (auctionMaterials hook) {}
      (auctionProcess overrides)).value.isSome = true)
    (single : (auctionFlow hook overrides).arena.length = 1)
    (chronicle : (shownBid hook overrides).map (fun r => (r.1, r.2.1.isOk))
      = some (before ++ .mark ⟨0, .settled result⟩ :: rest, true))
    (unchanged : ∀ f value answer, .reply ⟨.call f [value], answer⟩ ∉ before) :
    PassedOver hook overrides result := by
  have built : IsBuilt (auctionMaterials hook) {} (auctionProcess overrides)
      (auctionFlow hook overrides) := Flow.isBuilt_getD assembled
  obtain ⟨a, only⟩ := List.length_eq_one_iff.mp single
  have ha : (auctionFlow hook overrides).arena[0]? = some a := by rw [only]; rfl
  obtain ⟨⟨moves, x, t⟩, hrecord, seen⟩ := Option.map_eq_some_iff.mp chronicle
  obtain ⟨hmoves, ended⟩ := Prod.mk.inj seen
  refine ⟨built, rfl, ⟨_, rfl⟩, a, moves, t, before, rest, ha, auctionFlow_boundTo built only, ?_,
    hmoves, ?_⟩
  · cases x with
    | ok _ => exact hrecord
    | error e => contradiction
  · intro f through
    obtain ⟨value, answer, fed⟩ := through.mem
    exact unchanged f value answer fed

/-- A bid of 5 that stands in for the call is not changed, though the support module has the
function; and if it does not have the function, the capability is available all the same, and the
bid stays as it is fetched. -/
theorem hooks_passed_over :
    PassedOver "pick" (some { execute := some false, resultData := some (.integer 5) })
        (.integer 5)
      ∧ PassedOver "lost" none (.integer 7) := by
  have fetched : (shownBid "lost" none).map (fun r => (r.1, r.2.1.isOk))
      = some ([.mark ⟨0, .entered {}⟩, .mark ⟨0, .admitted⟩, .mark ⟨0, .called⟩,
        .reply fetchReply]
        ++ .mark ⟨0, .settled (.integer 7)⟩ :: [.mark ⟨0, .completed (.integer 7)⟩], true) := by
    decide +kernel
  have stood : (shownBid "pick"
        (some { execute := some false, resultData := some (.integer 5) })).map
          (fun r => (r.1, r.2.1.isOk))
      = some ([.mark ⟨0, .entered {}⟩, .mark ⟨0, .admitted⟩]
        ++ .mark ⟨0, .settled (.integer 5)⟩ :: [.mark ⟨0, .completed (.integer 5)⟩], true) := by
    decide +kernel
  refine ⟨passedOver_of_chronicle (by decide +kernel) (by decide +kernel) stood ?_,
    passedOver_of_chronicle (by decide +kernel) (by decide +kernel) fetched ?_⟩
  · intro f value answer fed
    simp at fed
  · intro f value answer fed
    have fetch : Move.reply ⟨.call f [value], answer⟩ = .reply fetchReply := by simpa using fed
    have arguments := (Query.call.inj (congrArg Sigma.fst (Move.reply.inj fetch))).2
    contradiction

end Run

end Pageflow
