/-
  Pageflow.Proofs.Containment — what a bridge has no part in.

  Two flows of the same documents are compared, built with bridges that differ in one service.
  What is declared stands at the same places in both.  Its activities differ in their strategies at
  most, and not even in these unless they are activities of that service.  So the activities of the
  other services, taken out of the two arenas, are the same before parameters are mapped, and
  again after it, when makers have been added; but these have other numbers then.

  Main definitions: `spared` and `Varies`.
  Main statement: `bridge_affects_only_its_service`.
-/
import Pageflow.Proofs.Forest
import Pageflow.Proofs.Projection
import Pageflow.Proofs.Related

namespace Pageflow.Flow

open Document (processService)

/-! ## §1. Activities with another strategy. -/

/-- Whether the bridge of `S` has no part in a service: in the process, which uses no bridge, or
in any other one. -/
def spared (S service : String) : Bool := decide (service = processService ∨ service ≠ S)

/-- The second activity differs from the first one in its strategy at most; in a service that is
spared they are the same. -/
structure Varies (S : String) (a a' : Activity) : Prop where
  most : a' = { a with strategy := a'.strategy }
  same : spared S a.service = true → a' = a

theorem Varies.refl (S : String) (a : Activity) : Varies S a a := ⟨rfl, fun _ => rfl⟩

theorem Varies.service {S : String} {a a' : Activity} (h : Varies S a a') :
    a'.service = a.service := by rw [h.most]

theorem Varies.title {S : String} {a a' : Activity} (h : Varies S a a') : a'.title = a.title := by
  rw [h.most]

section Unplaced

variable (functions : Module) (service name : String) (a : Document.Activity)

/-- The function that comes before a strategy does not depend on it. -/
theorem preProcessOf_congr (strategy strategy' : Option Strategy) :
    (preProcessOf functions service name a strategy').value.2
      = (preProcessOf functions service name a strategy).value.2 := by
  unfold preProcessOf
  split
  next => rfl
  next => split <;> rfl

/-- Another bridge gives another strategy, and nothing else. -/
theorem unplaced_most (bridge bridge' : Option Bridge) :
    unplaced functions service name a bridge'
      = { unplaced functions service name a bridge with
          strategy := (unplaced functions service name a bridge').strategy } := by
  simp only [unplaced, activityOf, Noted.value_bind, Noted.value_pure]
  rw [preProcessOf_congr]

end Unplaced

section Bridges

variable {functions : Module} {bridges bridges' : Dict Bridge} {S : String}

/-- In a service that is spared it does not matter which of the bridges are taken. -/
theorem unplaced_spared (agree : ∀ name ≠ S, bridges'.get? name = bridges.get? name)
    {service : String} (h : spared S service = true) (name : String) (a : Document.Activity) :
    unplaced functions service name a (bridges'.get? service)
      = unplaced functions service name a (bridges.get? service) := by
  rcases of_decide_eq_true h with rfl | h
  · rw [unplaced_process, unplaced_process functions name a (bridges.get? processService)]
  · rw [agree service h]

end Bridges

/-! ## §2. Layouts. -/

section Layout

variable {functions : Module} {service S : String} {bridge bridge' : Option Bridge}

mutual

/-- An activity is laid out in the same way, whatever its strategy. -/
theorem layout_varies
    (own : ∀ name a, Varies S (unplaced functions service name a bridge)
      (unplaced functions service name a bridge')) (parent : Option Nat) (place : Nat)
    (name : String) :
    ∀ a : Document.Activity,
      List.Forall₂ (Varies S) (layout functions service bridge parent place name a).value
        (layout functions service bridge' parent place name a).value
  | ⟨title, preProcess, bridgeCapability, moduleFunction, parameters, requestBody,
      requiredActivities, subActivities, storeResult, priority, ui, debug⟩ => by
      rw [layout_value, layout_value]
      obtain ⟨inner, places⟩ := layoutAll_varies own (some place) (place + 1) subActivities
      rw [places]
      refine .cons ⟨?_, ?_⟩ inner
      · rw [rootOf, (own name _).most]
        rfl
      · intro h
        rw [(own name _).same h]

/-- Siblings are laid out in the same way, whatever their strategies. -/
theorem layoutAll_varies
    (own : ∀ name a, Varies S (unplaced functions service name a bridge)
      (unplaced functions service name a bridge')) (parent : Option Nat) (place : Nat) :
    ∀ siblings : List (String × Document.Activity),
      List.Forall₂ (Varies S)
          (layoutAll functions service bridge parent place siblings).value.1
          (layoutAll functions service bridge' parent place siblings).value.1
        ∧ (layoutAll functions service bridge' parent place siblings).value.2
          = (layoutAll functions service bridge parent place siblings).value.2
  | [] => ⟨.nil, rfl⟩
  | (name, a) :: rest => by
      simp only [layoutAll, Noted.value_bind, Noted.value_pure]
      have first := layout_varies own parent place name a
      rw [← first.length_eq]
      obtain ⟨others, places⟩ := layoutAll_varies own parent
        (place + (layout functions service bridge parent place name a).value.length) rest
      exact ⟨List.rel_append first others, congrArg (place :: ·) places⟩

end

theorem layoutTop_varies
    (own : ∀ name a, Varies S (unplaced functions service name a bridge)
      (unplaced functions service name a bridge'))
    (entries : List (String × Document.Activity)) {before before' : List Activity}
    (h : List.Forall₂ (Varies S) before before') :
    List.Forall₂ (Varies S) (layoutTop functions service bridge before entries).value.1
        (layoutTop functions service bridge' before' entries).value.1
      ∧ (layoutTop functions service bridge' before' entries).value.2
        = (layoutTop functions service bridge before entries).value.2 := by
  rw [layoutTop_value, layoutTop_value, ← h.length_eq]
  obtain ⟨more, places⟩ := layoutAll_varies own none before.length (arrangedAll entries)
  exact ⟨List.rel_append h more, by rw [places]⟩

end Layout

/-! ## §3. Declared flows. -/

/-- The second service differs from the first one at most in whether it has a bridge; one that is
not `S` does not even in this. -/
structure SameService (S name : String) (s s' : Service) : Prop where
  most : s' = { s with hasBridge := s'.hasBridge }
  same : name ≠ S → s' = s

section Declared

variable (functions : Module) {bridges bridges' : Dict Bridge} {S : String}
  {services services' : Dict Service} {arena arena' before before' : List Activity}

theorem unplaced_varies (agree : ∀ name ≠ S, bridges'.get? name = bridges.get? name)
    (service name : String) (a : Document.Activity) :
    Varies S (unplaced functions service name a (bridges.get? service))
      (unplaced functions service name a (bridges'.get? service)) where
  most := unplaced_most functions service name a _ _
  same h := unplaced_spared agree h name a

theorem layoutServices_varies (agree : ∀ name ≠ S, bridges'.get? name = bridges.get? name)
    (page : Document.Page) :
    ∀ (entries : List (String × Document.Service)) {before before' : List Activity},
      List.Forall₂ (Varies S) before before' →
      List.Forall₂ (Varies S) (layoutServices ⟨functions, bridges⟩ page before entries).value.1
          (layoutServices ⟨functions, bridges'⟩ page before' entries).value.1
        ∧ Dict.Related (SameService S)
          (layoutServices ⟨functions, bridges⟩ page before entries).value.2
          (layoutServices ⟨functions, bridges'⟩ page before' entries).value.2
  | [], _, _, h => ⟨h, .nil⟩
  | (name, s) :: rest, before, before', h => by
      simp only [layoutServices, Noted.value_bind, Noted.value_pure]
      obtain ⟨top, places⟩ := layoutTop_varies (unplaced_varies functions agree name)
        s.activities h
      obtain ⟨arenas, others⟩ := layoutServices_varies agree page rest top
      refine ⟨arenas, .cons ⟨rfl, ?_⟩ others⟩
      rw [places]
      exact ⟨rfl, fun hname => by rw [agree name hname]⟩

theorem titles_eq (h : List.Forall₂ (Varies S) arena arena') :
    arena'.map Activity.title = arena.map Activity.title := by
  induction h with
  | nil => rfl
  | cons h _ ih => rw [List.map_cons, List.map_cons, h.title, ih]

theorem services_eq (h : List.Forall₂ (Varies S) arena arena') :
    arena'.map Activity.service = arena.map Activity.service := by
  induction h with
  | nil => rfl
  | cons h _ ih => rw [List.map_cons, List.map_cons, h.service, ih]

/-- A reference finds the same target, of the same title. -/
theorem forwarding_eq (hs : Dict.Related (SameService S) services services')
    (h : List.Forall₂ (Varies S) arena arena') (name : String) (r : Document.Reference) :
    forwarding services' arena' name r = forwarding services arena name r := by
  have target : ((services'.get? r.serviceName).bind fun s => s.activities.get? r.activityName)
      = (services.get? r.serviceName).bind fun s => s.activities.get? r.activityName := by
    have related := hs.get? r.serviceName
    generalize services.get? r.serviceName = s at related ⊢
    generalize services'.get? r.serviceName = s' at related ⊢
    cases related with
    | none => rfl
    | some same => rw [Option.bind_some, Option.bind_some, same.most]
  have title : ∀ k : Nat, (arena'[k]?).map Activity.title = (arena[k]?).map Activity.title := by
    intro k
    rw [← List.getElem?_map, ← List.getElem?_map, titles_eq h]
  unfold forwarding
  rw [target]
  cases (services.get? r.serviceName).bind fun s => s.activities.get? r.activityName with
  | none => rfl
  | some k => simp only [Option.bind_some, title]

theorem layoutEntry_eq (hs : Dict.Related (SameService S) services services')
    (h : List.Forall₂ (Varies S) arena arena') (name : String) (entry : Document.CommonActivity) :
    (layoutEntry functions services' arena' name entry).value
      = (layoutEntry functions services arena name entry).value := by
  cases entry with
  | definition a => rw [layoutEntry, layoutEntry, h.length_eq]
  | reference r =>
    rw [layoutEntry, layoutEntry, layoutReference_value, layoutReference_value,
      forwarding_eq hs h, h.length_eq]

theorem layoutCommon_varies (hs : Dict.Related (SameService S) services services') :
    ∀ (entries : List (String × Document.CommonActivity)) {before before' : List Activity},
      List.Forall₂ (Varies S) before before' →
      List.Forall₂ (Varies S) (layoutCommon functions services before entries).value.1
          (layoutCommon functions services' before' entries).value.1
        ∧ (layoutCommon functions services' before' entries).value.2
          = (layoutCommon functions services before entries).value.2
  | [], _, _, h => ⟨h, rfl⟩
  | (name, entry) :: rest, before, before', h => by
      simp only [layoutCommon, Noted.value_bind, Noted.value_pure]
      rw [layoutEntry_eq functions hs h, h.length_eq]
      have these : ∀ these : List Activity, List.Forall₂ (Varies S) these these :=
        fun these => List.forall₂_same.mpr fun a _ => .refl S a
      obtain ⟨arenas, places⟩ := layoutCommon_varies hs rest (List.rel_append h (these _))
      exact ⟨arenas, congrArg _ places⟩

/-- Before parameters are mapped, two flows differ in strategies of one service at most. -/
structure FlowVaries (S : String) (flow flow' : Flow) : Prop where
  title : flow'.title = flow.title
  common : flow'.common = flow.common
  services : Dict.Related (SameService S) flow.services flow'.services
  arena : List.Forall₂ (Varies S) flow.arena flow'.arena

theorem declared_varies (agree : ∀ name ≠ S, bridges'.get? name = bridges.get? name)
    (page : Document.Page) (process : Document.Process) :
    FlowVaries S (declared ⟨functions, bridges⟩ page process).value
      (declared ⟨functions, bridges'⟩ page process).value := by
  simp only [declared, Noted.value_bind, Noted.value_pure]
  obtain ⟨arenas, services⟩ :=
    layoutServices_varies functions agree page process.services .nil
  obtain ⟨arenas', places⟩ := layoutCommon_varies functions services
    process.common.activities arenas
  exact ⟨rfl, by rw [places], services, arenas'⟩

end Declared

/-! ## §4. Built flows. -/

section Built

variable {functions : Module} {bridges bridges' : Dict Bridge} {S : String}
  {page : Document.Page} {process : Document.Process} {flow flow' : Flow}

theorem mappingOf_agrees (agree : ∀ name ≠ S, bridges'.get? name = bridges.get? name)
    (page : Document.Page) (process : Document.Process) {service : String}
    (h : spared S service = true) :
    (mappingOf ⟨functions, bridges⟩ page process).AgreesAt
      (mappingOf ⟨functions, bridges'⟩ page process) service where
  shared _ := rfl
  input _ := rfl
  generator activity parameter g := by
    unfold generatorOf
    simp only [Noted.value_bind, Noted.value_pure]
    exact congrArg (fun a : Activity => { a with isGenerated := true })
      (unplaced_spared agree h _ _)

/-- What has been declared is not mapped yet. -/
theorem isUnmapped_of_mem_declared {m : Materials} :
    ∀ a ∈ (declared m page process).value.arena, IsUnmapped a :=
  fun _ ha => (outline_of_mem_declared ha).1

/-- **Some services on their own are built as they are among the others**, and as they are with
other bridges. -/
theorem IsBuilt.ofServices {m m' : Materials} (hb : IsBuilt m page process flow)
    (these : String → Bool)
    (agrees : ∀ service, these service = true →
      (mappingOf m page process).AgreesAt (mappingOf m' page process) service) :
    ∃ rounds, (mapRounds (mappingOf m' page process) rounds
        (Flow.ofServices these (declared m page process).value.arena).length
        (Flow.ofServices these (declared m page process).value.arena)).value
      = some ((Flow.ofServices these flow.arena).map
          (Activity.rename (rankOf these flow.arena))) := by
  obtain ⟨rounds, after, hafter, rfl⟩ := hb
  rw [← Nat.zero_add (declared m page process).value.arena.length] at hafter
  have ranks : Ranks these 0 (rankOf these after) ⟨0, after⟩ := by
    intro i _
    show rankOf these after (0 + i) = 0 + rankOf these after i
    rw [Nat.zero_add, Nat.zero_add]
  have := mapRounds_ofServices agrees rounds 0 0 _ after isUnmapped_of_mem_declared hafter ranks
  rw [Nat.zero_add] at this
  exact ⟨rounds, this⟩

theorem ofServices_eq {arena arena' : List Activity} (h : List.Forall₂ (Varies S) arena arena') :
    ofServices (spared S) arena' = ofServices (spared S) arena := by
  induction h with
  | nil => rfl
  | @cons a a' arena arena' h _ ih =>
    cases ha : spared S a.service with
    | true => rw [h.same ha, ofServices_cons_of_true ha, ofServices_cons_of_true ha, ih]
    | false => rw [ofServices_cons_of_false ha, ofServices_cons_of_false (h.service ▸ ha), ih]

/-- **In the services that are spared there are the same activities in both flows.** -/
theorem sameOf_spared (agree : ∀ name ≠ S, bridges'.get? name = bridges.get? name)
    (hb : IsBuilt ⟨functions, bridges⟩ page process flow)
    (hb' : IsBuilt ⟨functions, bridges'⟩ page process flow') :
    SameOf (spared S) flow.arena flow'.arena := by
  have same := ofServices_eq (declared_varies functions agree page process).arena
  obtain ⟨rounds, h⟩ := hb.ofServices (spared S) fun _ => mappingOf_agrees agree page process
  obtain ⟨rounds', h'⟩ := hb'.ofServices (spared S) fun service _ => .refl _ service
  rw [same] at h'
  exact mapRounds_unique _ rounds rounds' _ _ _ _ h h'

/-- The rounds leave the services of what is declared. -/
theorem IsBuilt.services_prefix {m : Materials} (hb : IsBuilt m page process flow) :
    (declared m page process).value.arena.map Activity.service
      <+: flow.arena.map Activity.service := by
  obtain ⟨rounds, after, hafter, rfl⟩ := hb
  exact mapRounds_services _ isUnmapped_of_mem_declared hafter

/-- Makers belong to the services of the activities that they make values for. -/
theorem Orderly.isOf_of_mem_makers (orderly : Orderly flow) {these : String → Bool} {k : Nat}
    {a : Activity} (ha : flow.arena[k]? = some a) (h : these a.service = true) :
    ∀ maker ∈ a.makers, IsOf these flow.arena maker := by
  intro maker hm
  obtain ⟨_, b, hb, _, service⟩ := (orderly.placed k a ha).maker maker hm
  exact isOf_of_getElem? hb (service ▸ h)

/-- The activities are declared alike: they differ at most in strategies, and in what parameters
come from. -/
def DeclaredAlike (a a' : Activity) : Prop :=
  a' = { a with
    strategy := a'.strategy
    parameters := a'.parameters
    dynamicParameters := a'.dynamicParameters
    requestBody := a'.requestBody }

/-- What is declared in the first flow is declared alike, and at the same place, in the second. -/
def DeclaresAs (flow flow' : Flow) : Prop :=
  ∀ (k : Nat) (a : Activity), flow.arena[k]? = some a → a.isGenerated = false →
    ∃ a', flow'.arena[k]? = some a' ∧ DeclaredAlike a a'

theorem Varies.declaredAlike {a a' b b' : Activity} (h : Varies S a a') (hr : Retains a b)
    (hr' : Retains a' b') : DeclaredAlike b b' := by
  have most := h.most
  clear h
  cases a
  cases b
  cases a'
  cases b'
  simp_all [Retains, DeclaredAlike]

theorem declaresAs (agree : ∀ name ≠ S, bridges'.get? name = bridges.get? name)
    (hb : IsBuilt ⟨functions, bridges⟩ page process flow)
    (hb' : IsBuilt ⟨functions, bridges'⟩ page process flow') : DeclaresAs flow flow' := by
  intro k b hk declared
  have varies := (declared_varies functions agree page process).arena
  have ha := List.getElem?_eq_getElem ((hb.isGenerated_iff hk).mp declared)
  obtain ⟨c, hc, retains, _⟩ := hb.rounded.at ha
  obtain rfl := Option.some.inj (hk.symm.trans hc)
  obtain ⟨a', ha', h⟩ := getElem?_of_forall₂ varies ha
  obtain ⟨b', hk', retains', _⟩ := hb'.rounded.at ha'
  exact ⟨b', hk', h.declaredAlike retains retains'⟩

/-- What is declared has the same number in both flows. -/
theorem counterpart_declared (agree : ∀ name ≠ S, bridges'.get? name = bridges.get? name)
    (hb : IsBuilt ⟨functions, bridges⟩ page process flow)
    (hb' : IsBuilt ⟨functions, bridges'⟩ page process flow') {k : Nat} {a : Activity}
    (ha : flow.arena[k]? = some a) (declared : a.isGenerated = false)
    (h : spared S a.service = true) :
    counterpart (spared S) flow.arena flow'.arena k = k := by
  have hk := (hb.isGenerated_iff ha).mp declared
  have more := hb.services_prefix
  have more' := hb'.services_prefix
  rw [services_eq (declared_varies functions agree page process).arena] at more'
  have hrank : rankOf (spared S) flow'.arena k = rankOf (spared S) flow.arena k := by
    rw [rankOf_congr more hk.le, rankOf_congr more' hk.le]
  obtain ⟨a', ha', alike⟩ := declaresAs agree hb hb' k a ha declared
  have service : a'.service = a.service := by rw [alike]
  exact counterpart_eq (isOf_of_getElem? ha' (service ▸ h)) hrank

/-- **A bridge affects only its own service.**  Two flows of the same documents are given, built
with bridges that agree but for service `S`.  The process and the services are the same, but that
`S` may have a bridge in one of them only; what is declared is declared alike, and at the same
places.  The activities of the process and of all services other than `S`, makers included, are
the same up to numbers of makers. -/
theorem bridge_affects_only_its_service
    (agree : ∀ name ≠ S, bridges'.get? name = bridges.get? name)
    (hb : IsBuilt ⟨functions, bridges⟩ page process flow)
    (hb' : IsBuilt ⟨functions, bridges'⟩ page process flow') :
    flow'.title = flow.title ∧ flow'.common = flow.common
      ∧ Dict.Related (SameService S) flow.services flow'.services
      ∧ DeclaresAs flow flow' ∧ DeclaresAs flow' flow
      ∧ ∃ f, Renumbers (spared S) flow.arena flow'.arena f
        ∧ ∀ (k : Nat) (a : Activity), flow.arena[k]? = some a → a.isGenerated = false →
          spared S a.service = true → f k = k := by
  have varies := declared_varies functions agree page process
  have agree' : ∀ name ≠ S, bridges.get? name = bridges'.get? name :=
    fun name h => (agree name h).symm
  have renumbers := renumbers_counterpart (sameOf_spared agree hb hb')
    fun k a ha h => hb'.orderly.isOf_of_mem_makers ha h
  have fixed := fun k a => counterpart_declared agree hb hb' (k := k) (a := a)
  have declares := declaresAs agree hb hb'
  have declares' := declaresAs agree' hb' hb
  obtain ⟨_, _, _, rfl⟩ := hb
  obtain ⟨_, _, _, rfl⟩ := hb'
  exact ⟨varies.title, varies.common, varies.services, declares, declares', _, renumbers, fixed⟩

end Built

/-! ## §5. A broken bridge. -/

/-- A shop, which sells by its bridge, and a bank, which does without one. -/
def stallProcess : Document.Process where
  services := [
    ("shop",
      { activities := [
          ("sell",
            { bridgeCapability := some "sell"
              parameters := [
                ("price", { generate := some { moduleFunction := some "make" } })] })] }),
    ("bank",
      { activities := [
          ("pay",
            { moduleFunction := some "pay"
              parameters := [
                ("sum", { generate := some { moduleFunction := some "make" } })] })] })]

def stallFunctions : Module :=
  [("pay", ⟨"bank", "pay", ["sum"]⟩), ("make", ⟨"bank", "make", []⟩)]

/-- The bridge of the shop, which asks for a price. -/
def stallBridges : Dict Bridge :=
  [("shop",
    { service := "shop"
      capabilities := [("sell", .ok (.module ⟨"sell", ⟨"shop", "sell", ["price"]⟩, none⟩))] })]

/-- The stalls with these bridges. -/
def stallFlow (bridges : Dict Bridge) : Flow :=
  (assemble? ⟨stallFunctions, bridges⟩ {} stallProcess).value.getD default

/-- Without its bridge the shop is inactive and needs no price.  So the bank has the maker of its
sum one place before, and nothing else changes for it. -/
theorem bridge_affects_only_its_service_stalls :
    (∀ name ≠ "shop", Dict.get? [] name = stallBridges.get? name)
    ∧ IsBuilt ⟨stallFunctions, stallBridges⟩ {} stallProcess (stallFlow stallBridges)
    ∧ IsBuilt ⟨stallFunctions, []⟩ {} stallProcess (stallFlow [])
    ∧ (stallFlow stallBridges).arena.map (fun a => (a.name, a.isActive, a.parameters))
      = [("sell", true, [("price", .generate 2)]), ("pay", true, [("sum", .generate 3)]),
          (generatorName "sell" "price", true, []), (generatorName "pay" "sum", true, [])]
    ∧ (stallFlow []).arena.map (fun a => (a.name, a.isActive, a.parameters))
      = [("sell", false, []), ("pay", true, [("sum", .generate 2)]),
          (generatorName "pay" "sum", true, [])]
    ∧ ∃ f, Renumbers (spared "shop") (stallFlow stallBridges).arena (stallFlow []).arena f := by
  have agree : ∀ name ≠ "shop", Dict.get? [] name = stallBridges.get? name := by
    intro name h
    rw [stallBridges, Dict.get?_cons, if_neg (Ne.symm h)]
  have built : IsBuilt ⟨stallFunctions, stallBridges⟩ {} stallProcess (stallFlow stallBridges) :=
    isBuilt_getD (by decide +kernel)
  have built' : IsBuilt ⟨stallFunctions, []⟩ {} stallProcess (stallFlow []) :=
    isBuilt_getD (by decide +kernel)
  obtain ⟨_, _, _, _, _, f, renumbers, _⟩ := bridge_affects_only_its_service agree built built'
  exact ⟨agree, built, built', by decide +kernel, by decide +kernel, f, renumbers⟩

end Pageflow.Flow
