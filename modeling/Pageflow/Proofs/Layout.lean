/-
  Pageflow.Proofs.Layout — declared activities get their places.

  An activity is laid out before its sub-activities, one after the other, so that what it refers
  to stands behind it; a reference is laid out after all services, so that its target stands
  before it.  The statements are about any arena that has the activities at their places: it may
  have more before and behind.

  Main statement: `declared_laid`, what the arena of a flow is before parameters are mapped.
-/
import Pageflow.Flow.Assembly
import Pageflow.Proofs.Places

namespace Pageflow.Flow

open Document (processService)

/-! ## §1. Activities at their places. -/

/-- The arena has these activities, the first one at place `o`. -/
def HasAt (arena : List Activity) (o : Nat) (these : List Activity) : Prop :=
  ∀ i a, these[i]? = some a → arena[o + i]? = some a

namespace HasAt

variable {arena these others : List Activity} {o : Nat} {a : Activity}

theorem refl (arena : List Activity) : HasAt arena 0 arena := by
  intro i a h
  rw [Nat.zero_add]
  exact h

theorem left (h : HasAt arena o (these ++ others)) : HasAt arena o these := by
  intro i a hi
  obtain ⟨hl, _⟩ := List.getElem?_eq_some_iff.mp hi
  exact h i a (by rw [List.getElem?_append_left hl]; exact hi)

theorem right (h : HasAt arena o (these ++ others)) :
    HasAt arena (o + these.length) others := by
  intro i a hi
  have hi' : (these ++ others)[these.length + i]? = some a := by
    rw [List.getElem?_append_right (by omega), Nat.add_sub_cancel_left]
    exact hi
  have := h _ a hi'
  rwa [← Nat.add_assoc] at this

theorem head (h : HasAt arena o (a :: these)) : arena[o]? = some a := h 0 a rfl

theorem tail (h : HasAt arena o (a :: these)) : HasAt arena (o + 1) these := by
  intro i b hi
  have := h (i + 1) b hi
  rwa [Nat.add_comm i 1, ← Nat.add_assoc] at this

end HasAt

/-- The activities at the places from `o` up to `e` are declared, nothing makes values for them
yet, and they refer to others as they should. -/
def LaidOut (arena : List Activity) (o e : Nat) : Prop :=
  ∀ i a, o ≤ i → i < e → arena[i]? = some a →
    Placed arena i a ∧ a.makers = [] ∧ a.isGenerated = false

theorem LaidOut.append {arena : List Activity} {o m e : Nat} (h : LaidOut arena o m)
    (h' : LaidOut arena m e) : LaidOut arena o e := by
  intro i a ho he ha
  by_cases hm : i < m
  · exact h i a ho hm ha
  · exact h' i a (by omega) he ha

theorem LaidOut.nil {arena : List Activity} {o e : Nat} (h : e ≤ o) : LaidOut arena o e := by
  intro i a ho he
  omega

/-- The activity at the root of a layout. -/
structure IsRoot (a : Activity) (service : String) (parent : Option Nat) : Prop where
  declared : IsDeclared a
  service : a.service = service
  parent : a.parent = parent

/-! ## §2. One activity. -/

theorem strategyOf_isReference (functions : Module) (service name : String) (a : Document.Activity)
    (bridge : Option Bridge) :
    (strategyOf functions service name a bridge).value.any Strategy.isReference = false := by
  unfold strategyOf
  split
  next =>
    unfold capabilityStrategy
    split
    next => rfl
    next =>
      split
      next => rfl
      next =>
        split <;> rfl
  next =>
    unfold functionStrategy
    split <;> rfl
  next => rfl

theorem preProcessOf_isReference (functions : Module) (service name : String)
    (a : Document.Activity) (strategy : Option Strategy)
    (h : strategy.any Strategy.isReference = false) :
    (preProcessOf functions service name a strategy).value.1.any Strategy.isReference = false := by
  unfold preProcessOf
  split
  next => exact h
  next =>
    split
    next => exact h
    next => rfl

section ActivityOf

variable (functions : Module) (service name : String) (a : Document.Activity)
  (bridge : Option Bridge)

/-- An activity before its place is known. -/
abbrev unplaced : Activity := (activityOf functions service name a bridge).value

/-- It at its place: below an activity, and above others. -/
def rootOf (made : Activity) (parent : Option Nat) (places : List Nat) : Activity :=
  { made with parent, subActivities := places }

theorem isReference_unplaced : (unplaced functions service name a bridge).isReference = false :=
  preProcessOf_isReference _ _ _ _ _ (strategyOf_isReference _ _ _ _ _)

/-- An activity is laid out before what is inside it. -/
theorem layout_value (parent : Option Nat) (place : Nat) :
    (layout functions service bridge parent place name a).value
      = rootOf (unplaced functions service name a bridge) parent
          (layoutAll functions service bridge place (place + 1) a.subActivities).value.2
        :: (layoutAll functions service bridge place (place + 1) a.subActivities).value.1 := by
  obtain ⟨_, _, _, _, _, _, _, _, _, _, _, _⟩ := a
  rfl

end ActivityOf

/-! ## §3. An activity and what is inside it. -/

/-- An activity above that stands before `place` and counts these places among its own. -/
def HeldBy (arena : List Activity) (parent : Option Nat) (place : Nat) (places : List Nat) :
    Prop :=
  ∀ p, parent = some p →
    p < place ∧ ∃ b, arena[p]? = some b ∧ ∀ k ∈ places, k ∈ b.subActivities

/-- Where the target of an activity at place `i` stands. -/
def TargetAt (arena : List Activity) (i : Nat) (a : Activity) : Prop :=
  ∀ t, a.target? = some t → t < i ∧ ∃ b, arena[t]? = some b ∧ IsDeclared b ∧ b.parent = none

/-- An activity for which nothing makes values yet stands in order with what is laid out behind
it. -/
theorem rootOf_laid {made : Activity} (hg : made.isGenerated = false) (hm : made.makers = [])
    {arena inner : List Activity} {parent : Option Nat} {place : Nat} {places : List Nat}
    (has : HasAt arena place (rootOf made parent places :: inner))
    (above : HeldBy arena parent place [place]) (target : TargetAt arena place made)
    (reference : made.isReference = true → made.service = processService)
    (laid : LaidOut arena (place + 1) (place + 1 + inner.length))
    (roots : ∀ k ∈ places, place + 1 ≤ k ∧
      ∃ b, arena[k]? = some b ∧ IsRoot b made.service (some place)) :
    LaidOut arena place (place + (rootOf made parent places :: inner).length) := by
  have placed : Placed arena place (rootOf made parent places) := by
    constructor
    case sub =>
      intro k hk
      obtain ⟨hlt, b, hb, root⟩ := roots k hk
      exact ⟨hlt, b, hb, root.declared, root.parent, root.service⟩
    case above =>
      intro p hp
      obtain ⟨hlt, b, hb, hk⟩ := above p hp
      exact ⟨hlt, b, hb, hk place (List.mem_singleton.mpr rfl)⟩
    case target => exact target
    case reference => exact reference
    case maker =>
      intro k hk
      have hk' : k ∈ made.makers := hk
      rw [hm] at hk'
      contradiction
    case generated =>
      intro h
      have h' : made.isGenerated = true := h
      rw [hg] at h'
      contradiction
  intro i a ho he ha
  by_cases hi : i = place
  · subst hi
    rw [has.head] at ha
    obtain rfl := Option.some.inj ha
    exact ⟨placed, hm, hg⟩
  · rw [List.length_cons] at he
    exact laid i a (by omega) (by omega) ha

theorem isRoot_unplaced (functions : Module) (service name : String) (a : Document.Activity)
    (bridge : Option Bridge) (parent : Option Nat) (places : List Nat) :
    IsRoot (rootOf (unplaced functions service name a bridge) parent places) service parent where
  declared := ⟨rfl, isReference_unplaced functions service name a bridge⟩
  service := rfl
  parent := rfl

theorem reference_unplaced (functions : Module) (service name : String) (a : Document.Activity)
    (bridge : Option Bridge) (h : (unplaced functions service name a bridge).isReference = true) :
    (unplaced functions service name a bridge).service = processService := by
  rw [isReference_unplaced] at h
  contradiction

theorem targetAt_unplaced (functions : Module) (service name : String) (a : Document.Activity)
    (bridge : Option Bridge) (arena : List Activity) (i : Nat) :
    TargetAt arena i (unplaced functions service name a bridge) := by
  intro t ht
  rw [Activity.target?_of_not_isReference (isReference_unplaced _ _ _ _ _)] at ht
  contradiction

mutual

/-- An activity and all inside it stand in order, and it stands first. -/
theorem layout_laid (functions : Module) (service : String) (bridge : Option Bridge)
    (parent : Option Nat) (place : Nat) (name : String) :
    ∀ (a : Document.Activity) (arena : List Activity),
      HasAt arena place (layout functions service bridge parent place name a).value →
      HeldBy arena parent place [place] →
      LaidOut arena place
          (place + (layout functions service bridge parent place name a).value.length)
        ∧ ∃ b, arena[place]? = some b ∧ IsRoot b service parent
  | ⟨title, preProcess, bridgeCapability, moduleFunction, parameters, requestBody,
      requiredActivities, subActivities, storeResult, priority, ui, debug⟩, arena, has, above => by
      rw [layout_value] at has ⊢
      -- the root stands first and holds what is laid out behind it
      obtain ⟨laid, roots⟩ := layoutAll_laid functions service bridge (some place) (place + 1)
        subActivities arena has.tail
        (by rintro _ ⟨⟩; exact ⟨Nat.lt_succ_self place, _, has.head, fun _ hk => hk⟩)
      exact ⟨rootOf_laid rfl rfl has above (targetAt_unplaced _ _ _ _ _ _ _)
          (reference_unplaced _ _ _ _ _) laid roots,
        _, has.head, isRoot_unplaced _ _ _ _ _ _ _⟩

/-- Siblings and all inside them stand in order. -/
theorem layoutAll_laid (functions : Module) (service : String) (bridge : Option Bridge)
    (parent : Option Nat) (place : Nat) :
    ∀ (siblings : List (String × Document.Activity)) (arena : List Activity),
      HasAt arena place
        (layoutAll functions service bridge parent place siblings).value.1 →
      HeldBy arena parent place
        (layoutAll functions service bridge parent place siblings).value.2 →
      LaidOut arena place
          (place + (layoutAll functions service bridge parent place siblings).value.1.length)
        ∧ ∀ k ∈ (layoutAll functions service bridge parent place siblings).value.2,
          place ≤ k ∧ ∃ b, arena[k]? = some b ∧ IsRoot b service parent
  | [], arena, _, _ => by
      refine ⟨LaidOut.nil (Nat.le_refl place), ?_⟩
      intro k hk
      contradiction
  | (name, a) :: rest, arena, has, above => by
      simp only [layoutAll, Noted.value_bind, Noted.value_pure] at has above ⊢
      have first := layout_laid functions service bridge parent place name a arena has.left
        (by
          intro p hp
          obtain ⟨hlt, b, hb, hk⟩ := above p hp
          exact ⟨hlt, b, hb, by simpa using hk place List.mem_cons_self⟩)
      have others := layoutAll_laid functions service bridge parent _ rest arena has.right
        (by
          intro p hp
          obtain ⟨hlt, b, hb, hk⟩ := above p hp
          exact ⟨by omega, b, hb, fun k hm => hk k (List.mem_cons_of_mem _ hm)⟩)
      constructor
      · rw [List.length_append, ← Nat.add_assoc]
        exact first.1.append others.1
      · intro k hk
        rcases List.mem_cons.mp hk with h | h
        · subst h
          exact ⟨Nat.le_refl k, first.2⟩
        · obtain ⟨hle, hb⟩ := others.2 k h
          exact ⟨by omega, hb⟩

end

/-! ## §4. Services. -/

/-- The places lie before `e`, and roots of the service stand there. -/
def RootsAt (arena : List Activity) (e : Nat) (service : String) (activities : Dict Nat) : Prop :=
  ∀ entry ∈ activities, entry.2 < e ∧ ∃ b, arena[entry.2]? = some b ∧ IsRoot b service none

theorem RootsAt.mono {arena : List Activity} {e e' : Nat} {service : String}
    {activities : Dict Nat} (h : RootsAt arena e service activities) (he : e ≤ e') :
    RootsAt arena e' service activities := by
  intro entry hm
  obtain ⟨hlt, hb⟩ := h entry hm
  exact ⟨by omega, hb⟩

/-- Activities that are laid out behind others, and where the first ones of them stand. -/
structure LaidBehind (before after : List Activity) (roots : List Activity → Prop) : Prop where
  more : before <+: after
  laid : ∀ arena, HasAt arena 0 after → LaidOut arena before.length after.length ∧ roots arena

theorem heldBy_none (arena : List Activity) (place : Nat) (places : List Nat) :
    HeldBy arena none place places := by
  intro p hp
  contradiction

theorem hasAt_of_more {arena before after : List Activity} (has : HasAt arena 0 after)
    (h : before <+: after) : HasAt arena 0 before := by
  obtain ⟨more, rfl⟩ := h
  exact has.left

/-- What stands at the top of a service is laid out in order. -/
theorem layoutTop_laid (functions : Module) (service : String) (bridge : Option Bridge) :
    ∀ (entries : List (String × Document.Activity)) (before : List Activity),
      LaidBehind before (layoutTop functions service bridge before entries).value.1 fun arena =>
        RootsAt arena (layoutTop functions service bridge before entries).value.1.length service
          (layoutTop functions service bridge before entries).value.2
  | [], before => by
      refine ⟨List.prefix_refl before, fun arena _ => ⟨LaidOut.nil (Nat.le_refl _), ?_⟩⟩
      intro entry hm
      contradiction
  | (name, a) :: rest, before => by
      simp only [layoutTop, Noted.value_bind, Noted.value_pure]
      generalize hthese :
        (layout functions service bridge none before.length name (arranged a)).value = these
      have hlen : 0 < these.length := by
        rw [← hthese, layout_value]
        exact Nat.succ_pos _
      have others := layoutTop_laid functions service bridge rest (before ++ these)
      have hle := others.more.length_le
      rw [List.length_append] at hle
      refine ⟨(List.prefix_append before these).trans others.more, ?_⟩
      intro arena has
      -- the root stands where the activities before it end
      have hasThese : HasAt arena before.length these := by
        have := (hasAt_of_more has others.more).right
        rwa [Nat.zero_add] at this
      obtain ⟨first, root⟩ := layout_laid functions service bridge none before.length name
        (arranged a) arena (by rw [hthese]; exact hasThese) (heldBy_none _ _ _)
      obtain ⟨laid, roots⟩ := others.laid arena has
      rw [hthese] at first
      rw [List.length_append] at laid
      refine ⟨first.append laid, ?_⟩
      intro entry hm
      rcases List.mem_cons.mp hm with h | h
      · subst h
        exact ⟨by omega, root⟩
      · exact roots entry h

/-- The places of each service lie before `e`, and roots of that service stand there. -/
def ServicesAt (arena : List Activity) (e : Nat) (services : Dict Service) : Prop :=
  ∀ entry ∈ services, RootsAt arena e entry.1 entry.2.activities

/-- All services are laid out in order. -/
theorem layoutServices_laid (m : Materials) (page : Document.Page) :
    ∀ (entries : List (String × Document.Service)) (before : List Activity),
      LaidBehind before (layoutServices m page before entries).value.1 fun arena =>
        ServicesAt arena (layoutServices m page before entries).value.1.length
          (layoutServices m page before entries).value.2
  | [], before => by
      refine ⟨List.prefix_refl before, fun arena _ => ⟨LaidOut.nil (Nat.le_refl _), ?_⟩⟩
      intro entry hm
      contradiction
  | (name, s) :: rest, before => by
      simp only [layoutServices, Noted.value_bind, Noted.value_pure]
      have first := layoutTop_laid m.functions name (m.bridges.get? name) s.activities before
      generalize (layoutTop m.functions name (m.bridges.get? name) before s.activities).value
        = top at first ⊢
      have others := layoutServices_laid m page rest top.1
      refine ⟨first.more.trans others.more, ?_⟩
      intro arena has
      obtain ⟨laid, roots⟩ := first.laid arena (hasAt_of_more has others.more)
      obtain ⟨laid', services⟩ := others.laid arena has
      refine ⟨laid.append laid', ?_⟩
      intro entry hm
      rcases List.mem_cons.mp hm with h | h
      · subst h
        exact roots.mono others.more.length_le
      · exact services entry h

/-- A declared service goes by its name, and has a bridge if there is one for it. -/
structure IsEntry (m : Materials) (entry : String × Service) : Prop where
  name : entry.2.name = entry.1
  hasBridge : entry.2.hasBridge = (m.bridges.get? entry.1).isSome

theorem layoutServices_isEntry (m : Materials) (page : Document.Page) :
    ∀ (entries : List (String × Document.Service)) (before : List Activity),
      ∀ entry ∈ (layoutServices m page before entries).value.2, IsEntry m entry
  | [], _, _, h => by contradiction
  | (name, s) :: rest, _, entry, h => by
      rcases List.mem_cons.mp h with rfl | h
      · exact ⟨rfl, rfl⟩
      · exact layoutServices_isEntry m page rest _ entry h

/-! ## §5. The process. -/

/-- The activity for a reference before its place is known. -/
def forwarding (services : Dict Service) (arena : List Activity) (name : String)
    (r : Document.Reference) : Activity :=
  let target := (services.get? r.serviceName).bind fun s => s.activities.get? r.activityName
  { name
    service := processService
    title := (r.title.or ((target.bind fun i => arena[i]?).map Activity.title)).getD name
    strategy := target.map Strategy.reference
    overrides := r.debug }

theorem layoutReference_value (functions : Module) (services : Dict Service)
    (arena : List Activity) (name : String) (r : Document.Reference) :
    (layoutReference functions services arena name r).value
      = rootOf (forwarding services arena name r) none
          (layoutAll functions processService none (some arena.length) (arena.length + 1)
            (byPriority (arrangedAll r.subActivities))).value.2
        :: (layoutAll functions processService none (some arena.length) (arena.length + 1)
            (byPriority (arrangedAll r.subActivities))).value.1 := by
  unfold layoutReference
  extract_lets target title
  split <;> rfl

theorem targetAt_forwarding {arena before : List Activity} {e : Nat} {services : Dict Service}
    (hs : ServicesAt arena e services) (he : e ≤ before.length) (name : String)
    (r : Document.Reference) :
    TargetAt arena before.length (forwarding services before name r) := by
  intro t ht
  rw [Activity.target?_eq_some] at ht
  obtain ⟨k, hk, hkt⟩ := Option.map_eq_some_iff.mp ht
  obtain rfl := Strategy.reference.inj hkt
  obtain ⟨s, hservice, hactivity⟩ := Option.bind_eq_some_iff.mp hk
  obtain ⟨hlt, b, hb, root⟩ := hs _ (Dict.mem_of_get? hservice) _ (Dict.mem_of_get? hactivity)
  exact ⟨Nat.lt_of_lt_of_le hlt he, b, hb, root.declared, root.parent⟩

/-- What stands at the top of a service, a reference included. -/
structure IsTop (a : Activity) (service : String) : Prop where
  service : a.service = service
  parent : a.parent = none
  isGenerated : a.isGenerated = false

theorem IsRoot.isTop {a : Activity} {service : String} (h : IsRoot a service none) :
    IsTop a service := ⟨h.service, h.parent, h.declared.isGenerated⟩

/-- Tops of the service stand at the places. -/
def TopsAt (arena : List Activity) (service : String) (activities : Dict Nat) : Prop :=
  ∀ entry ∈ activities, ∃ b, arena[entry.2]? = some b ∧ IsTop b service

/-- An entry of the process is laid out in order. -/
theorem layoutEntry_laid (functions : Module) (services : Dict Service) (name : String)
    {arena before : List Activity} {e : Nat} (hs : ServicesAt arena e services)
    (he : e ≤ before.length) :
    ∀ entry : Document.CommonActivity,
      HasAt arena before.length (layoutEntry functions services before name entry).value →
      LaidOut arena before.length
          (before.length + (layoutEntry functions services before name entry).value.length)
        ∧ ∃ b, arena[before.length]? = some b ∧ IsTop b processService
  | .definition a, has => by
      obtain ⟨laid, b, hb, root⟩ := layout_laid functions processService none none
        before.length name (arranged a) arena has (heldBy_none _ _ _)
      exact ⟨laid, b, hb, root.isTop⟩
  | .reference r, has => by
      rw [layoutEntry, layoutReference_value] at has ⊢
      obtain ⟨laid, roots⟩ := layoutAll_laid functions processService none (some before.length)
        (before.length + 1) (byPriority (arrangedAll r.subActivities)) arena has.tail
        (by rintro _ ⟨⟩; exact ⟨Nat.lt_succ_self _, _, has.head, fun _ hk => hk⟩)
      exact ⟨rootOf_laid rfl rfl has (heldBy_none _ _ _) (targetAt_forwarding hs he name r)
        (fun _ => rfl) laid roots, _, has.head, rfl, rfl, rfl⟩

/-- The entries of the process are laid out in order, behind the services. -/
theorem layoutCommon_laid (functions : Module) (services : Dict Service) (e : Nat) :
    ∀ (entries : List (String × Document.CommonActivity)) (before : List Activity),
      e ≤ before.length →
      before <+: (layoutCommon functions services before entries).value.1
        ∧ ∀ arena, HasAt arena 0 (layoutCommon functions services before entries).value.1 →
          ServicesAt arena e services →
          LaidOut arena before.length
              (layoutCommon functions services before entries).value.1.length
            ∧ TopsAt arena processService
              (layoutCommon functions services before entries).value.2
  | [], before, _ => by
      refine ⟨List.prefix_refl before, fun arena _ _ => ⟨LaidOut.nil (Nat.le_refl _), ?_⟩⟩
      intro entry hm
      contradiction
  | (name, entry) :: rest, before, he => by
      simp only [layoutCommon, Noted.value_bind, Noted.value_pure]
      generalize hthese : (layoutEntry functions services before name entry).value = these
      obtain ⟨hmore, others⟩ := layoutCommon_laid functions services e rest (before ++ these)
        (by rw [List.length_append]; omega)
      refine ⟨(List.prefix_append before these).trans hmore, ?_⟩
      intro arena has hs
      have hasThese : HasAt arena before.length these := by
        have := (hasAt_of_more has hmore).right
        rwa [Nat.zero_add] at this
      obtain ⟨first, top⟩ := layoutEntry_laid functions services name hs he entry
        (by rw [hthese]; exact hasThese)
      obtain ⟨laid, tops⟩ := others arena has hs
      rw [hthese] at first
      rw [List.length_append] at laid
      refine ⟨first.append laid, ?_⟩
      intro entry' hm
      rcases List.mem_cons.mp hm with h | h
      · subst h
        exact top
      · exact tops entry' h

/-- **The arena of a flow before parameters are mapped is in order**, and the services name
activities of their own. -/
theorem declared_laid (m : Materials) (page : Document.Page) (process : Document.Process) :
    LaidOut (declared m page process).value.arena 0 (declared m page process).value.arena.length
      ∧ ∀ service name k, (declared m page process).value.find? service name = some k →
        ∃ b, (declared m page process).value.arena[k]? = some b ∧ IsTop b service := by
  simp only [declared, Noted.value_bind, Noted.value_pure]
  -- the services come first: entries of the process look up their targets among them
  have hservices := layoutServices_laid m page process.services []
  generalize (layoutServices m page [] process.services).value = laidServices at hservices ⊢
  obtain ⟨hmore, common⟩ := layoutCommon_laid m.functions laidServices.2 laidServices.1.length
    process.common.activities laidServices.1 (Nat.le_refl _)
  generalize (layoutCommon m.functions laidServices.2 laidServices.1
    process.common.activities).value = laidCommon at hmore common ⊢
  have has := HasAt.refl laidCommon.1
  obtain ⟨laid, services⟩ := hservices.laid _ (hasAt_of_more has hmore)
  obtain ⟨laid', tops⟩ := common _ has services
  refine ⟨laid.append laid', ?_⟩
  intro service name k hk
  obtain ⟨s, hs, hk⟩ := Option.bind_eq_some_iff.mp hk
  have hk := Dict.mem_of_get? hk
  -- the name is that of the process or of a service
  unfold service? at hs
  split at hs
  next h =>
    obtain rfl := Option.some.inj hs
    rw [h]
    exact tops _ hk
  next =>
    obtain ⟨_, b, hb, root⟩ := services _ (Dict.mem_of_get? hs) _ hk
    exact ⟨b, hb, root.isTop⟩

end Pageflow.Flow
