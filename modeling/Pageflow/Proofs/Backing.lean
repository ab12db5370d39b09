/-
  Pageflow.Proofs.Backing — whose bridge an activity calls, and what a reference passes on.

  What an activity is made with, it is made with where it is laid out: its own service, and the
  bridge of that service.  So what holds of every activity however it may be laid out, and of
  every maker of a generated value, holds throughout a built flow as long as it does not depend on
  how parameters are mapped.  This says that an activity calls no bridge but that of its service,
  and that a reference has nothing to pass on.

  Main definitions: `Laying`, `Materials.Owned` and `Activity.Backed`.
  Main statements: `Laying.built`, `IsBuilt.backed`, `IsBuilt.bare` and `owned_of_ends`.
-/
import Pageflow.Proofs.Loading

namespace Pageflow

namespace Flow

open Document (processService)

/-! ## §1. What holds wherever an activity is laid out. -/

section One

variable {functions : Module} {service : String} {bridge : Option Bridge} {P : Activity → Prop}

mutual

theorem layout_all
    (own : ∀ name a parent places,
      P (rootOf (unplaced functions service name a bridge) parent places))
    (parent : Option Nat) (place : Nat) (name : String) :
    ∀ a : Document.Activity, ∀ b ∈ (layout functions service bridge parent place name a).value, P b
  | ⟨title, preProcess, bridgeCapability, moduleFunction, parameters, requestBody,
      requiredActivities, subActivities, storeResult, priority, ui, debug⟩, b, h => by
      rw [layout_value] at h
      rcases List.mem_cons.mp h with rfl | h
      · exact own _ _ _ _
      · exact layoutAll_all own (some place) (place + 1) subActivities b h

theorem layoutAll_all
    (own : ∀ name a parent places,
      P (rootOf (unplaced functions service name a bridge) parent places))
    (parent : Option Nat) (place : Nat) :
    ∀ siblings : List (String × Document.Activity),
      ∀ b ∈ (layoutAll functions service bridge parent place siblings).value.1, P b
  | [], _, h => by contradiction
  | (name, a) :: rest, b, h => by
      rcases List.mem_append.mp h with h | h
      · exact layout_all own parent place name a b h
      · exact layoutAll_all own parent _ rest b h

end

theorem layoutTop_all
    (own : ∀ name a parent places,
      P (rootOf (unplaced functions service name a bridge) parent places)) :
    ∀ (entries : List (String × Document.Activity)) (arena : List Activity),
      (∀ b ∈ arena, P b) → ∀ b ∈ (layoutTop functions service bridge arena entries).value.1, P b
  | [], _, before, b, h => before b h
  | (name, a) :: rest, arena, before, b, h => by
      refine layoutTop_all own rest _ ?_ b h
      intro c hc
      rcases List.mem_append.mp hc with hc | hc
      · exact before c hc
      · exact layout_all own none arena.length name (arranged a) c hc

end One

/-- It holds of the activities of services and of the process, of references, and of what makes
generated values, before their parameters are mapped. -/
structure Laying (m : Materials) (P : Activity → Prop) : Prop where
  own : ∀ service name a parent places,
    P (rootOf (unplaced m.functions service name a (m.bridges.get? service)) parent places)
  common : ∀ name a parent places,
    P (rootOf (unplaced m.functions processService name a none) parent places)
  forwards : ∀ services arena name r places,
    P (rootOf (forwarding services arena name r) none places)
  made : ∀ service name a,
    P { unplaced m.functions service name a (m.bridges.get? service) with isGenerated := true }

variable {m : Materials} {page : Document.Page} {process : Document.Process} {flow : Flow}
  {P : Activity → Prop}

namespace Laying

theorem services (hP : Laying m P) :
    ∀ (entries : List (String × Document.Service)) (arena : List Activity),
      (∀ b ∈ arena, P b) → ∀ b ∈ (layoutServices m page arena entries).value.1, P b
  | [], _, before, b, h => before b h
  | (name, s) :: rest, arena, before, b, h =>
      services hP rest _ (layoutTop_all (hP.own name) s.activities arena before) b h

theorem entry (hP : Laying m P) (services : Dict Service) (arena : List Activity) (name : String)
    (entry : Document.CommonActivity) :
    ∀ b ∈ (layoutEntry m.functions services arena name entry).value, P b := by
  intro b h
  cases entry with
  | definition a => exact layout_all hP.common none arena.length name (arranged a) b h
  | reference r =>
    rw [layoutEntry, layoutReference_value] at h
    rcases List.mem_cons.mp h with rfl | h
    · exact hP.forwards _ _ _ _ _
    · exact layoutAll_all hP.common _ _ _ b h

theorem commons (hP : Laying m P) (services : Dict Service) :
    ∀ (entries : List (String × Document.CommonActivity)) (arena : List Activity),
      (∀ b ∈ arena, P b) → ∀ b ∈ (layoutCommon m.functions services arena entries).value.1, P b
  | [], _, before, b, h => before b h
  | (name, e) :: rest, arena, before, b, h => by
      refine commons hP services rest _ ?_ b h
      intro c hc
      rcases List.mem_append.mp hc with hc | hc
      · exact before c hc
      · exact hP.entry services arena name e c hc

/-- It holds of all activities before their parameters are mapped. -/
theorem declared (hP : Laying m P) : ∀ b ∈ (Flow.declared m page process).value.arena, P b :=
  hP.commons _ process.common.activities _
    (hP.services process.services [] fun _ h => absurd h List.not_mem_nil)

/-- **What holds of activities wherever they are laid out, and of makers, holds throughout a built
flow** if it does not depend on how parameters are mapped. -/
theorem built (hP : Laying m P) (hb : IsBuilt m page process flow)
    (stays : ∀ a b, Retains a b → P a → P b) {b : Activity} (h : b ∈ flow.arena) : P b := by
  -- an activity of the flow is one as laid out, or a maker, with its parameters mapped
  obtain ⟨a, origin, mapsTo⟩ := hb.exists_origin h
  refine stays a b mapsTo.retains ?_
  cases origin with
  | declared ha => exact hP.declared a ha
  | made _ made =>
    obtain ⟨parameter, p, g, _, _, rfl⟩ := made
    exact hP.made _ _ _

end Laying

/-! ## §2. Bridges of services. -/

/-- Every operation of a bridge belongs to the service that has the bridge. -/
def Materials.Owned (m : Materials) : Prop :=
  ∀ service b, m.bridges.get? service = some b →
    ∀ name o, b.capability name = .ok (.remote o) → o.backend.service = service

/-- It calls no remote operation but those of its own service. -/
def Activity.Backed (a : Activity) : Prop :=
  ∀ o, a.strategy = some (.remote o) → o.backend.service = a.service

/-- **A remote operation is called for a capability of the bridge at hand.** -/
theorem capability_of_strategyOf {functions : Module} {service name : String}
    {a : Document.Activity} {bridge : Option Bridge} {o : Remote.Operation}
    (h : (strategyOf functions service name a bridge).value = some (.remote o)) :
    ∃ b capability, bridge = some b ∧ b.capability capability = .ok (.remote o) := by
  unfold strategyOf at h
  split at h
  -- only a capability leads to a bridge, and only a resolved one to an operation
  next capability _ =>
    unfold capabilityStrategy at h
    split at h
    next => contradiction
    next =>
      split at h
      next => contradiction
      next b =>
        split at h
        next o' hc =>
          obtain rfl := Strategy.remote.inj (Option.some.inj h)
          exact ⟨b, capability, rfl, hc⟩
        next => exact absurd h (by simp)
        next => contradiction
  next function _ =>
    unfold functionStrategy at h
    split at h
    next => exact absurd h (by simp)
    next => contradiction
  next => contradiction

theorem strategy_of_preProcessOf {functions : Module} {service name : String}
    {a : Document.Activity} {strategy : Option Strategy} {s : Strategy}
    (h : (preProcessOf functions service name a strategy).value.1 = some s) :
    strategy = some s := by
  unfold preProcessOf at h
  split at h
  next => exact h
  next =>
    split at h
    next => exact h
    next => contradiction

theorem backed_unplaced {functions : Module} {service : String} {bridge : Option Bridge}
    (owned : ∀ b, bridge = some b →
      ∀ name o, b.capability name = .ok (.remote o) → o.backend.service = service)
    (name : String) (a : Document.Activity) :
    (unplaced functions service name a bridge).Backed := by
  intro o ho
  obtain ⟨b, capability, hb, hc⟩ := capability_of_strategyOf (strategy_of_preProcessOf ho)
  exact owned b hb capability o hc

theorem laying_backed (owned : m.Owned) : Laying m Activity.Backed where
  own service name a _ _ := backed_unplaced (owned service) name a
  common name a _ _ := backed_unplaced (by intro b hb; contradiction) name a
  -- a reference has its target run, and calls no operation
  forwards services arena name r places o ho := by
    obtain ⟨target, _, h⟩ := Option.map_eq_some_iff.mp ho
    contradiction
  made service name a := backed_unplaced (owned service) name a

/-- **An activity of a built flow calls no bridge but that of its service.** -/
theorem IsBuilt.backed (hb : IsBuilt m page process flow) (owned : m.Owned) {a : Activity}
    (ha : a ∈ flow.arena) : a.Backed := by
  refine (laying_backed owned).built hb ?_ ha
  intro a b retains backed o ho
  rw [retains.service]
  exact backed o (retains.strategy ▸ ho)

/-! ## §3. References. -/

/-- A reference has no parameters of its own, and no function looks at them. -/
structure Activity.Bare (a : Activity) : Prop where
  unmapped : IsUnmapped a
  preProcess : a.preProcess = none

/-- **What holds of references as they are laid out holds of the references of a built flow**, if it
does not depend on how parameters are mapped. -/
theorem IsBuilt.reference (hb : IsBuilt m page process flow) {P : Activity → Prop}
    (forwards : ∀ services arena name r places,
      P (rootOf (forwarding services arena name r) none places))
    (stays : ∀ a b, Retains a b → P a → P b) {a : Activity} (ha : a ∈ flow.arena)
    (reference : a.isReference = true) : P a := by
  -- only a reference is a reference
  have other : ∀ a : Activity, a.isReference = false → a.isReference = true → P a := by
    intro a own h
    rw [own] at h
    contradiction
  have laying : Laying m fun a => a.isReference = true → P a := by
    refine ⟨?_, ?_, fun _ _ _ _ _ _ => forwards _ _ _ _ _, ?_⟩
    · intro service name a parent places
      exact other _ (isReference_unplaced m.functions service name a (m.bridges.get? service))
    · intro name a parent places
      exact other _ (isReference_unplaced m.functions processService name a none)
    · intro service name a
      exact other _ (isReference_unplaced m.functions service name a (m.bridges.get? service))
  refine laying.built hb ?_ ha reference
  intro a b retains h reference
  exact stays a b retains (h (retains.isReference ▸ reference))

/-- **A reference of a built flow passes nothing on.** -/
theorem IsBuilt.bare (hb : IsBuilt m page process flow) {a : Activity} (ha : a ∈ flow.arena)
    (reference : a.isReference = true) : a.Bare where
  unmapped := by
    obtain ⟨b, _, mapsTo⟩ := hb.exists_origin ha
    exact mapsTo.reference (mapsTo.retains.isReference ▸ reference)
  preProcess := by
    have stays : ∀ a b : Activity, Retains a b → a.preProcess = none → b.preProcess = none := by
      intro a b retains h
      rw [retains]
      exact h
    exact hb.reference (fun _ _ _ _ _ => rfl) stays ha reference

end Flow

/-! ## §4. Loaded bridges. -/

theorem Noted.mem_mapM {α β : Type} {f : α → Noted β} :
    ∀ {as : List α} {b : β}, b ∈ (as.mapM f).value → ∃ a ∈ as, (f a).value = b
  | [], _, h => by contradiction
  | a :: rest, b, h => by
      rw [List.mapM_cons] at h
      rcases List.mem_cons.mp h with rfl | h
      · exact ⟨a, List.mem_cons_self, rfl⟩
      · obtain ⟨a', ha', h⟩ := mem_mapM h
        exact ⟨a', List.mem_cons_of_mem _ ha', h⟩

namespace Load

open Pageflow.Flow (IsBuilt Materials)

/-- A capability of a bridge is what its definition was resolved to. -/
theorem resolved_of_capability {service : String} {definitions : Dict Document.Capability}
    {resolve : String → Document.Capability → Noted (Except Unavailable Capability)}
    {name : String} {c : Capability}
    (h : (Bridge.ofDefinitions service definitions resolve).value.capability name = .ok c) :
    ∃ key definition, (resolve key definition).value = .ok c := by
  unfold Bridge.capability at h
  split at h
  next c' hc =>
    obtain rfl := Except.ok.inj h
    obtain ⟨⟨key, definition⟩, _, resolved⟩ := Noted.mem_mapM (Dict.mem_of_get? hc)
    exact ⟨key, definition, (Prod.mk.inj resolved).2⟩
  next => contradiction
  next => contradiction

theorem backend_of_remoteCapability {document : Json} {backend : Remote.Backend}
    {support : Option Module} {name : String} {definition : Document.Capability}
    {o : Remote.Operation}
    (h : (Bridge.remoteCapability document backend support name definition).value
      = .ok (.remote o)) : o.backend = backend := by
  unfold Bridge.remoteCapability at h
  split at h
  next =>
    obtain rfl := Capability.remote.inj (Except.ok.inj h)
    rfl
  next =>
    split at h
    next => exact absurd (Except.ok.inj h) (by intro h; contradiction)
    next => contradiction

theorem not_remote_of_moduleCapability {client : Module} {support : Option Module} {name : String}
    {definition : Document.Capability} {o : Remote.Operation} :
    (Bridge.moduleCapability client support name definition).value ≠ .ok (.remote o) := by
  intro h
  simp only [Bridge.moduleCapability] at h
  split at h
  next => exact absurd (Except.ok.inj h) (by intro h; contradiction)
  next => contradiction

/-- **The operations of a bridge belong to the service that it was loaded for.** -/
theorem service_of_bridgeOf {service : String} {binding : Document.Binding}
    {document : Document.Bridge} {support : Option Module} {server : Server} {name : String}
    {o : Remote.Operation}
    (h : (bridgeOf service binding document support server).value.capability name
      = .ok (.remote o)) : o.backend.service = service := by
  cases server with
  | client m =>
    obtain ⟨_, _, h⟩ := resolved_of_capability h
    exact absurd h not_remote_of_moduleCapability
  | openApi openApi =>
    obtain ⟨_, _, h⟩ := resolved_of_capability h
    rw [backend_of_remoteCapability h]
    rfl

variable {σ : Type} [Journal σ] {registry : Registry} {options : Options} {page : Document.Page}
  {base : Location} {flow : Flow} {s t : σ}

theorem owned_of_bridges {validate : Bool} {bound : List Bound} {kept : Dict Bridge}
    (h : (bridges registry validate bound s).Ends (.ok kept) t) (functions : Module) :
    Materials.Owned ⟨functions, kept⟩ := by
  intro service b hb name o ho
  obtain ⟨own, _, rfl, log, ran⟩ := ends_bridges_ok h (Dict.mem_of_get? hb)
  obtain ⟨document, server, stems, _⟩ := ends_bridge_ok ran
  obtain ⟨support, _, rfl⟩ := stems.made
  exact service_of_bridgeOf ho

/-- **What is loaded is built from bridges that belong to their services.** -/
theorem owned_of_ends (h : (loadDocument registry options page base s).Ends (.ok flow) t) :
    ∃ (process : Document.Process) (m : Materials), IsBuilt m page process flow ∧ m.Owned := by
  unfold loadDocument at h
  obtain ⟨_, _, _, h⟩ := Run.ends_bind_ok.mp h
  obtain ⟨⟨process, place⟩, _, _, h⟩ := Run.ends_bind_ok.mp h
  obtain ⟨_, _, _, h⟩ := Run.ends_bind_ok.mp h
  obtain ⟨_, _, _, h⟩ := Run.ends_bind_ok.mp h
  obtain ⟨functions, _, _, h⟩ := Run.ends_bind_ok.mp h
  obtain ⟨bridges, _, loaded, h⟩ := Run.ends_bind_ok.mp h
  exact ⟨process, ⟨functions, bridges⟩, Flow.isBuilt_of_assemble (ends_assembled_ok h),
    owned_of_bridges loaded functions⟩

end Load

end Pageflow
