/-
  Pageflow.Proofs.Standing — declared activities stand at their addresses.

  Activities get their places along the route of the documents.  So as long as places follow the
  route, at the place of each address stands the activity made of what is declared there, above
  the places of what is declared inside it.  As in the layout itself, the statements are about any
  arena that has the activities at their places.

  Main definitions: `Follows`, `rankedPlaces`, `StandsAt`, `madeOf` and `IsLaid`.
  Main statement: `declared_isLaid`, what the arena of a flow is before parameters are mapped.
-/
import Mathlib.Data.Set.Function
import Pageflow.Proofs.Addresses
import Pageflow.Proofs.Mapping

namespace Pageflow.Flow

open Document (processService Declaration Address joined)
open Document.Declaration (ofActivity among? routeAmong)

/-! ## §1. Places along a route. -/

/-- The addresses of the route have places one after the other, the first one at `o`. -/
def Follows (place : Address → Nat) (o : Nat) (route : List Address) : Prop :=
  ∀ i address, route[i]? = some address → place address = o + i

namespace Follows

variable {place : Address → Nat} {o i : Nat} {route others : List Address}
  {routes : List (List Address × Nat)}

theorem left (h : Follows place o (route ++ others)) : Follows place o route := by
  intro i address hi
  obtain ⟨hl, _⟩ := List.getElem?_eq_some_iff.mp hi
  exact h i address (by rw [List.getElem?_append_left hl]; exact hi)

theorem right (h : Follows place o (route ++ others)) :
    Follows place (o + route.length) others := by
  intro i address hi
  rw [Nat.add_assoc]
  refine h _ address ?_
  rw [List.getElem?_append_right (by omega), Nat.add_sub_cancel_left]
  exact hi

theorem head {address : Address} (h : Follows place o (address :: route)) :
    place address = o := h 0 address rfl

theorem tail {address : Address} (h : Follows place o (address :: route)) :
    Follows place (o + 1) route := by
  have : Follows place o ([address] ++ route) := h
  exact this.right

/-- The first one of several routes. -/
theorem first (h : Follows place o (joined ((route, i) :: routes))) :
    Follows (fun address => place (i :: address)) o route := by
  intro k address hk
  refine (left h) k (i :: address) ?_
  rw [List.getElem?_map, hk]
  rfl

/-- The routes behind the first one. -/
theorem rest (h : Follows place o (joined ((route, i) :: routes))) :
    Follows place (o + route.length) (joined routes) := by
  have := right h
  rwa [List.length_map] at this

/-- Along a route every place is taken, and by one address. -/
theorem bijOn (h : Follows place 0 route) :
    Set.BijOn place {address | address ∈ route} {k | k < route.length} := by
  have at? : ∀ address ∈ route, route[place address]? = some address := by
    intro address ha
    obtain ⟨i, hi⟩ := List.mem_iff_getElem?.mp ha
    rw [h i address hi, Nat.zero_add]
    exact hi
  refine ⟨?_, ?_, ?_⟩
  · intro address ha
    exact (List.getElem?_eq_some_iff.mp (at? address ha)).1
  · intro address ha other ho heq
    have := (at? other ho).symm
    rw [← heq, at? address ha] at this
    exact (Option.some.inj this).symm
  · intro k hk
    refine ⟨route[k], List.getElem_mem hk, ?_⟩
    rw [h k _ (List.getElem?_eq_getElem hk), Nat.zero_add]

theorem idxOf (h : route.Nodup) : Follows (fun address => route.idxOf address) 0 route := by
  intro i address hi
  obtain ⟨hl, rfl⟩ := List.getElem?_eq_some_iff.mp hi
  show route.idxOf route[i] = 0 + i
  rw [h.idxOf_getElem, Nat.zero_add]

end Follows

theorem length_joined_cons (route : List Address) (i : Nat)
    (routes : List (List Address × Nat)) :
    (joined ((route, i) :: routes)).length = route.length + (joined routes).length := by
  rw [Document.joined_cons, List.length_append, List.length_map]

/-- The places of what is declared inside the declaration at this address, by priority. -/
def rankedPlaces (place : Address → Nat) (address : Address) (d : Declaration) : List Nat :=
  d.ranked.map fun x => place (address ++ [x.2])

/-- By priority or as declared, the places are the same. -/
theorem rankedPlaces_perm (place : Address → Nat) (address : Address) (d : Declaration) :
    (rankedPlaces place address d).Perm ((d.below address).map place) := by
  rw [Declaration.below, List.map_map, List.range_eq_range', ← List.zipIdx_map_snd 0,
    List.map_map]
  exact d.ranked_perm.map _

/-- The activity made of a declaration stands at its place, above what is declared inside. -/
def StandsAt (of : Declaration → Activity) (arena : List Activity) (place : Address → Nat)
    (address : Address) (d : Declaration) : Prop :=
  ∃ parent, arena[place address]? = some (rootOf (of d) parent (rankedPlaces place address d))

section Stand

variable {of : Declaration → Activity} {arena : List Activity} {place : Address → Nat}

theorem StandsAt.under {i : Nat} {address : Address} {d : Declaration}
    (h : StandsAt of arena (fun address => place (i :: address)) address d) :
    StandsAt of arena place (i :: address) d := by
  obtain ⟨parent, hroot⟩ := h
  exact ⟨parent, hroot⟩

/-- What numbered declarations stand for, is found among them. -/
theorem stand_among {ds : List Declaration}
    (h : ∀ x ∈ ds.zipIdx, ∀ rest e, x.1.at? rest = some e →
      StandsAt of arena place (x.2 :: rest) e) :
    ∀ address e, among? ds address = some e → StandsAt of arena place address e := by
  intro address e he
  cases address with
  | nil => contradiction
  | cons i rest =>
    obtain ⟨d, hd, he⟩ := Option.bind_eq_some_iff.mp he
    exact h (d, i) (List.mem_zipIdx_iff_getElem?.mpr hd) rest e he

end Stand

/-! ## §2. One activity and those inside it. -/

theorem arrangedAll_eq_map (siblings : List (String × Document.Activity)) :
    arrangedAll siblings = siblings.map fun x => (x.1, arranged x.2) := by
  induction siblings with
  | nil => rfl
  | cons sibling rest ih => rw [arrangedAll, List.map_cons, ih]

theorem effectivePriority_arranged (a : Document.Activity) :
    (arranged a).effectivePriority = a.effectivePriority := by
  cases a
  rfl

theorem subActivities_arranged (a : Document.Activity) :
    (arranged a).subActivities = byPriority (arrangedAll a.subActivities) := by
  cases a
  rfl

/-- The form in which a declaration is laid out. -/
def laying (x : Declaration × Nat) : String × Document.Activity := (x.1.name, arranged x.1.activity)

/-- To put siblings in order, with what is inside each of them, keeps track of their positions. -/
theorem subActivities_eq_ranked (d : Declaration) :
    (arranged d.activity).subActivities = d.ranked.map laying := by
  have siblings : arrangedAll d.activity.subActivities = d.inner.zipIdx.map laying := by
    rw [arrangedAll_eq_map, Declaration.inner, List.zipIdx_map, List.map_map,
      ← List.zipIdx_map_fst 0 d.activity.subActivities, List.map_map, List.zipIdx_map_fst]
    rfl
  rw [subActivities_arranged, siblings, byPriority, Declaration.ranked]
  refine (List.map_mergeSort ?_).symm
  intro x _ y _
  rw [laying, laying, effectivePriority_arranged, effectivePriority_arranged]

section One

variable (of : Declaration → Activity) (functions : Module) (bridge : Option Bridge)

/-- A declaration, when it is laid out, stands at its places. -/
def LaysOut (d : Declaration) : Prop :=
  ∀ parent o arena place,
    HasAt arena o (layout functions d.service bridge parent o d.name (arranged d.activity)).value →
    Follows place o d.route →
    (layout functions d.service bridge parent o d.name (arranged d.activity)).value.length
        = d.route.length
      ∧ ∀ address e, d.at? address = some e → StandsAt of arena place address e

variable {of functions bridge}

/-- Siblings stand at their places. -/
theorem layoutAll_stand (service : String) (parent : Option Nat) (place : Address → Nat)
    {arena : List Activity} :
    ∀ (numbered : List (Declaration × Nat)) (o : Nat),
      (∀ x ∈ numbered, x.1.service = service ∧ LaysOut of functions bridge x.1) →
      HasAt arena o (layoutAll functions service bridge parent o (numbered.map laying)).value.1 →
      Follows place o (joined (numbered.map fun x => (x.1.route, x.2))) →
      (layoutAll functions service bridge parent o (numbered.map laying)).value.1.length
          = (joined (numbered.map fun x => (x.1.route, x.2))).length
        ∧ (layoutAll functions service bridge parent o (numbered.map laying)).value.2
          = numbered.map (fun x => place [x.2])
        ∧ ∀ x ∈ numbered, ∀ rest e, x.1.at? rest = some e →
          StandsAt of arena place (x.2 :: rest) e
  | [], o, _, _, _ => ⟨rfl, rfl, by intro x hx; contradiction⟩
  | (d, i) :: others, o, each, has, follows => by
      obtain ⟨hservice, lays⟩ := each (d, i) List.mem_cons_self
      obtain rfl : d.service = service := hservice
      simp only [List.map_cons, laying, layoutAll, Noted.value_bind, Noted.value_pure]
        at has follows ⊢
      obtain ⟨hlen, stand⟩ := lays parent o arena _ has.left follows.first
      rw [hlen] at has ⊢
      obtain ⟨hlen', places, stand'⟩ := layoutAll_stand d.service parent place others
        (o + d.route.length) (fun x hx => each x (List.mem_cons_of_mem _ hx)) (hlen ▸ has.right)
        follows.rest
      refine ⟨?_, ?_, ?_⟩
      · rw [List.length_append, hlen, length_joined_cons, hlen']
      · -- the route of a declaration starts with its own place
        have hfirst := follows.first
        rw [Declaration.route_eq] at hfirst
        rw [places, hfirst.head]
      · intro x hx rest e he
        rcases List.mem_cons.mp hx with rfl | hx
        · exact (stand rest e he).under
        · exact stand' x hx rest e he

/-- A root stands at the first place, above what is laid out behind it. -/
theorem root_stands {d : Declaration} (each : ∀ x ∈ d.ranked, LaysOut of functions bridge x.1)
    {parent : Option Nat} {o : Nat} {arena inner : List Activity} {places : List Nat}
    {place : Address → Nat}
    (hinner : (layoutAll functions d.service bridge (some o) (o + 1)
      (arranged d.activity).subActivities).value = (inner, places))
    (has : HasAt arena o (rootOf (of d) parent places :: inner))
    (follows : Follows place o d.route) :
    (rootOf (of d) parent places :: inner).length = d.route.length
      ∧ ∀ address e, d.at? address = some e → StandsAt of arena place address e := by
  rw [Declaration.route_eq] at follows ⊢
  rw [subActivities_eq_ranked] at hinner
  obtain ⟨hlen, hplaces, stand⟩ := layoutAll_stand d.service (some o) place d.ranked (o + 1)
    (fun x hx => ⟨d.service_of_mem_inner (Declaration.mem_inner_of_mem_ranked hx), each x hx⟩)
    (by rw [hinner]; exact has.tail) follows.tail
  rw [hinner] at hlen hplaces
  have hplaces : places = rankedPlaces place [] d := hplaces
  refine ⟨?_, ?_⟩
  · rw [List.length_cons, List.length_cons, hlen]
  · intro address e he
    cases address with
    | nil =>
      obtain rfl := Option.some.inj he
      refine ⟨parent, ?_⟩
      rw [follows.head, ← hplaces]
      exact has.head
    | cons i rest =>
      obtain ⟨d', hd', he⟩ := Option.bind_eq_some_iff.mp he
      exact stand (d', i) (Declaration.mem_ranked.mpr hd') rest e he

theorem unplaced_arranged (functions : Module) (service name : String) (a : Document.Activity)
    (bridge : Option Bridge) :
    unplaced functions service name (arranged a) bridge
      = unplaced functions service name a bridge := by
  cases a
  rfl

/-- **An activity and all inside it stand at their places.** -/
theorem laysOut {service : String}
    (own : ∀ sibling : String × Document.Activity,
      of (ofActivity service sibling) = unplaced functions service sibling.1 sibling.2 bridge)
    (sibling : String × Document.Activity) :
    LaysOut of functions bridge (ofActivity service sibling) := by
  have each : ∀ x ∈ (ofActivity service sibling).ranked, LaysOut of functions bridge x.1 := by
    intro x hx
    have hinner := Declaration.mem_inner_of_mem_ranked hx
    obtain ⟨sibling', _, h⟩ := List.mem_map.mp hinner
    have hlt : sizeOf (ofActivity service sibling').entry < _ :=
      h ▸ Declaration.sizeOf_lt_of_mem_inner hinner
    rw [← h]
    exact laysOut own sibling'
  intro parent o arena place has follows
  have hvalue := layout_value functions service sibling.1 (arranged sibling.2) bridge parent o
  rw [unplaced_arranged, ← own sibling] at hvalue
  show (layout functions service bridge parent o sibling.1 (arranged sibling.2)).value.length = _
    ∧ _
  rw [hvalue]
  exact root_stands each rfl (hvalue ▸ has) follows
termination_by sizeOf (ofActivity service sibling).entry
decreasing_by exact hlt

end One

/-! ## §3. Services. -/

/-- The dictionary has the declarations by name, and the places of those at the top. -/
def Names (place : Address → Nat) (ds : List Declaration) (activities : Dict Nat) : Prop :=
  activities = ds.zipIdx.map fun x => (x.1.name, place [x.2])

theorem Names.getElem? {place : Address → Nat} {ds : List Declaration} {activities : Dict Nat}
    (names : Names place ds activities) {j : Nat} {d : Declaration} (h : ds[j]? = some d) :
    activities[j]? = some (d.name, place [j]) := by
  rw [names, List.getElem?_map, List.getElem?_zipIdx, h, Option.map_some, Option.map_some,
    Nat.zero_add]

theorem Names.keys {place : Address → Nat} {ds : List Declaration} {activities : Dict Nat}
    (names : Names place ds activities) : activities.keys = ds.map Declaration.name := by
  rw [names, Dict.keys, List.map_map, ← List.zipIdx_map_fst 0 ds, List.map_map,
    List.zipIdx_map_fst]
  rfl

/-- What stands at the top of a service is laid out as siblings are. -/
theorem layoutTop_value (functions : Module) (service : String) (bridge : Option Bridge) :
    ∀ (entries : List (String × Document.Activity)) (before : List Activity),
      (layoutTop functions service bridge before entries).value
        = (before ++ (layoutAll functions service bridge none before.length
              (arrangedAll entries)).value.1,
            (entries.map Prod.fst).zip (layoutAll functions service bridge none before.length
              (arrangedAll entries)).value.2)
  | [], before => by
      rw [List.map_nil, List.zip_nil_left]
      exact congrArg (·, []) (List.append_nil before).symm
  | (name, a) :: rest, before => by
      simp only [layoutTop, arrangedAll, layoutAll, Noted.value_bind, Noted.value_pure,
        layoutTop_value functions service bridge rest, List.length_append, List.append_assoc,
        List.map_cons, List.zip_cons_cons]

section Services

variable {of : Declaration → Activity} {functions : Module} {arena : List Activity}

/-- The activities of a service stand at their places, and the service has them by name. -/
theorem layoutTop_stand {service : String} {bridge : Option Bridge}
    (own : ∀ sibling : String × Document.Activity,
      of (ofActivity service sibling) = unplaced functions service sibling.1 sibling.2 bridge)
    (s : Document.Service) (before : List Activity) {place : Address → Nat}
    (has : HasAt arena 0 (layoutTop functions service bridge before s.activities).value.1)
    (follows : Follows place before.length (routeAmong (s.tops service))) :
    (layoutTop functions service bridge before s.activities).value.1.length
        = before.length + (routeAmong (s.tops service)).length
      ∧ Names place (s.tops service)
          (layoutTop functions service bridge before s.activities).value.2
      ∧ ∀ address e, among? (s.tops service) address = some e →
          StandsAt of arena place address e := by
  have siblings : arrangedAll s.activities = (s.tops service).zipIdx.map laying := by
    rw [arrangedAll_eq_map, Document.Service.tops, List.zipIdx_map, List.map_map,
      ← List.zipIdx_map_fst 0 s.activities, List.map_map, List.zipIdx_map_fst]
    rfl
  have names : s.activities.map Prod.fst = (s.tops service).zipIdx.map fun x => x.1.name := by
    rw [Document.Service.tops, List.zipIdx_map, List.map_map, ← List.zipIdx_map_fst 0 s.activities,
      List.map_map, List.zipIdx_map_fst]
    rfl
  have each : ∀ x ∈ (s.tops service).zipIdx,
      x.1.service = service ∧ LaysOut of functions bridge x.1 := by
    intro x hx
    have hx := List.mem_of_getElem? (List.mem_zipIdx_iff_getElem?.mp hx)
    obtain ⟨sibling, _, h⟩ := List.mem_map.mp hx
    rw [← h]
    exact ⟨rfl, laysOut own sibling⟩
  rw [layoutTop_value, siblings, names] at has ⊢
  have has := has.right
  rw [Nat.zero_add] at has
  obtain ⟨hlen, hplaces, stand⟩ :=
    layoutAll_stand service none place _ before.length each has follows
  refine ⟨?_, ?_, stand_among stand⟩
  · rw [List.length_append, hlen]
    rfl
  · show List.zip _ _ = _
    rw [hplaces, List.zip_map']

/-- All services have their activities, which stand at their places. -/
theorem layoutServices_stand (m : Materials) (page : Document.Page) (place : Address → Nat)
    (own : ∀ service (sibling : String × Document.Activity),
      of (ofActivity service sibling)
        = unplaced m.functions service sibling.1 sibling.2 (m.bridges.get? service)) :
    ∀ (numbered : List ((String × Document.Service) × Nat)) (before : List Activity),
      HasAt arena 0 (layoutServices m page before (numbered.map Prod.fst)).value.1 →
      Follows place before.length
        (joined (numbered.map fun x => (routeAmong (x.1.2.tops x.1.1), x.2))) →
      (layoutServices m page before (numbered.map Prod.fst)).value.1.length
          = before.length
            + (joined (numbered.map fun x => (routeAmong (x.1.2.tops x.1.1), x.2))).length
        ∧ List.Forall₂ (fun x (made : String × Service) =>
            Names (fun address => place (x.2 :: address)) (x.1.2.tops x.1.1) made.2.activities)
          numbered (layoutServices m page before (numbered.map Prod.fst)).value.2
        ∧ ∀ x ∈ numbered, ∀ rest e, among? (x.1.2.tops x.1.1) rest = some e →
            StandsAt of arena place (x.2 :: rest) e
  | [], before, _, _ => ⟨rfl, .nil, by intro x hx; contradiction⟩
  | ((name, s), g) :: others, before, has, follows => by
      simp only [List.map_cons, layoutServices, Noted.value_bind, Noted.value_pure]
        at has follows ⊢
      have more := (layoutServices_laid m page (others.map Prod.fst)
        (layoutTop m.functions name (m.bridges.get? name) before s.activities).value.1).more
      obtain ⟨hlen, names, stand⟩ := layoutTop_stand (own name) s before
        (hasAt_of_more has more) follows.first
      generalize (layoutTop m.functions name (m.bridges.get? name) before s.activities).value
        = top at has hlen names ⊢
      obtain ⟨hlen', names', stand'⟩ := layoutServices_stand m page place own others top.1 has
        (hlen ▸ follows.rest)
      refine ⟨?_, .cons names names', ?_⟩
      · rw [hlen', hlen, length_joined_cons, Nat.add_assoc]
      · intro x hx rest e he
        rcases List.mem_cons.mp hx with rfl | hx
        · exact (stand rest e he).under
        · exact stand' x hx rest e he

end Services

/-! ## §4. The process itself. -/

section Common

variable {of : Declaration → Activity} {functions : Module} {services : Dict Service} {e : Nat}
  {arena : List Activity}

/-- A reference takes the title of its target, wherever the target stands. -/
theorem forwarding_congr {arena' : List Activity} {name : String} {r : Document.Reference}
    (same : ∀ entry ∈ services, ∀ target ∈ entry.2.activities,
      (arena[target.2]?).map Activity.title = (arena'[target.2]?).map Activity.title) :
    forwarding services arena name r = forwarding services arena' name r := by
  unfold forwarding
  cases h : (services.get? r.serviceName).bind fun s => s.activities.get? r.activityName with
  | none => rfl
  | some target =>
    obtain ⟨s, hs, ht⟩ := Option.bind_eq_some_iff.mp h
    simp only [Option.bind_some,
      same _ (Dict.mem_of_get? hs) _ (Dict.mem_of_get? ht)]

/-- What references and activities of the process are made of. -/
structure IsCommon (of : Declaration → Activity) (functions : Module) (services : Dict Service)
    (arena : List Activity) : Prop where
  own : ∀ sibling : String × Document.Activity,
    of (ofActivity processService sibling)
      = unplaced functions processService sibling.1 sibling.2 none
  forwards : ∀ name r,
    of ⟨processService, name, .reference r⟩ = forwarding services arena name r

/-- An entry of the process stands at its places. -/
theorem layoutEntry_stands (common : IsCommon of functions services arena)
    (targets : ServicesAt arena e services) {before : List Activity} (he : e ≤ before.length)
    (hasBefore : HasAt arena 0 before) {d : Declaration} (hd : d.service = processService)
    {place : Address → Nat}
    (has : HasAt arena before.length (layoutEntry functions services before d.name d.entry).value)
    (follows : Follows place before.length d.route) :
    (layoutEntry functions services before d.name d.entry).value.length = d.route.length
      ∧ ∀ address e, d.at? address = some e → StandsAt of arena place address e := by
  obtain ⟨service, name, entry⟩ := d
  obtain rfl : service = processService := hd
  cases entry with
  | definition a => exact laysOut common.own (name, a) none before.length arena place has follows
  | reference r =>
    -- the services stand before the reference, so its target is found already
    have same : forwarding services before name r = of ⟨processService, name, .reference r⟩ := by
      rw [common.forwards]
      refine forwarding_congr ?_
      intro s hs target ht
      obtain ⟨hlt, _⟩ := targets s hs target ht
      have hb := List.getElem?_eq_getElem (Nat.lt_of_lt_of_le hlt he)
      have ha := hasBefore _ _ hb
      rw [Nat.zero_add] at ha
      rw [ha, hb]
    have each : ∀ x ∈ (Declaration.mk processService name (.reference r)).ranked,
        LaysOut of functions none x.1 := by
      intro x hx
      obtain ⟨sibling, _, h⟩ := List.mem_map.mp (Declaration.mem_inner_of_mem_ranked hx)
      rw [← h]
      exact laysOut common.own sibling
    dsimp only at has ⊢
    rw [layoutEntry, layoutReference_value, same] at has ⊢
    exact root_stands each rfl has follows

/-- The activities of the process stand at their places, and it has them by name. -/
theorem layoutCommon_stand (common : IsCommon of functions services arena)
    (targets : ServicesAt arena e services) (place : Address → Nat) :
    ∀ (numbered : List (Declaration × Nat)) (before : List Activity),
      (∀ x ∈ numbered, x.1.service = processService) → e ≤ before.length →
      HasAt arena 0 (layoutCommon functions services before
        (numbered.map fun x => (x.1.name, x.1.entry))).value.1 →
      Follows place before.length (joined (numbered.map fun x => (x.1.route, x.2))) →
      (layoutCommon functions services before
          (numbered.map fun x => (x.1.name, x.1.entry))).value.1.length
          = before.length + (joined (numbered.map fun x => (x.1.route, x.2))).length
        ∧ (layoutCommon functions services before
            (numbered.map fun x => (x.1.name, x.1.entry))).value.2
          = numbered.map (fun x => (x.1.name, place [x.2]))
        ∧ ∀ x ∈ numbered, ∀ rest e, x.1.at? rest = some e →
            StandsAt of arena place (x.2 :: rest) e
  | [], before, _, _, _, _ => ⟨rfl, rfl, by intro x hx; contradiction⟩
  | (d, i) :: others, before, each, he, has, follows => by
      simp only [List.map_cons, layoutCommon, Noted.value_bind, Noted.value_pure]
        at has follows ⊢
      generalize hthese : (layoutEntry functions services before d.name d.entry).value = these
        at has ⊢
      have he' : e ≤ (before ++ these).length := by
        rw [List.length_append]
        omega
      have more := (layoutCommon_laid functions services e
        (others.map fun x => (x.1.name, x.1.entry)) (before ++ these) he').1
      have hasThese := hasAt_of_more has more
      obtain ⟨hlen, stand⟩ := layoutEntry_stands common targets he hasThese.left
        (each (d, i) List.mem_cons_self)
        (by
          rw [hthese]
          have := hasThese.right
          rwa [Nat.zero_add] at this)
        follows.first
      rw [hthese] at hlen
      have follows' := follows.rest
      rw [← hlen, ← List.length_append] at follows'
      obtain ⟨hlen', places, stand'⟩ := layoutCommon_stand common targets place others
        (before ++ these) (fun x hx => each x (List.mem_cons_of_mem _ hx)) he' has follows'
      refine ⟨?_, ?_, ?_⟩
      · rw [hlen', List.length_append, hlen, length_joined_cons, Nat.add_assoc]
      · have hfirst := follows.first
        rw [Declaration.route_eq] at hfirst
        rw [places, hfirst.head]
      · intro x hx rest e he
        rcases List.mem_cons.mp hx with rfl | hx
        · exact (stand rest e he).under
        · exact stand' x hx rest e he

end Common

/-! ## §5. Flows. -/

/-- What a declaration is made into before its place is known. -/
def madeOf (m : Materials) (services : Dict Service) (arena : List Activity) (d : Declaration) :
    Activity :=
  match d.entry with
  | .definition a => unplaced m.functions d.service d.name a (m.bridges.get? d.service)
  | .reference r => forwarding services arena d.name r

theorem madeOf_name (m : Materials) (services : Dict Service) (arena : List Activity)
    (d : Declaration) : (madeOf m services arena d).name = d.name := by
  obtain ⟨_, _, entry⟩ := d
  cases entry <;> rfl

/-- Only the process has references, so the service is the declared one. -/
theorem madeOf_service (m : Materials) (services : Dict Service) (arena : List Activity)
    {d : Declaration} (h : ∀ r, d.entry = .reference r → d.service = processService) :
    (madeOf m services arena d).service = d.service := by
  obtain ⟨service, _, entry⟩ := d
  cases entry with
  | definition a => rfl
  | reference r => exact (h r rfl).symm

/-- The process has no bridge. -/
theorem unplaced_process (functions : Module) (name : String) (a : Document.Activity)
    (bridge : Option Bridge) :
    unplaced functions processService name a bridge
      = unplaced functions processService name a none := by
  have capability : ∀ capability, capabilityStrategy processService name capability bridge
      = capabilityStrategy processService name capability none := by
    intro capability
    unfold capabilityStrategy
    rw [if_pos rfl, if_pos rfl]
  simp only [unplaced, activityOf, strategyOf, capability]

theorem isCommon_madeOf (m : Materials) (services : Dict Service) (arena : List Activity) :
    IsCommon (madeOf m services arena) m.functions services arena where
  own sibling := unplaced_process m.functions sibling.1 sibling.2 _
  forwards _ _ := rfl

/-- Everything that is declared stands at its place, and nothing else does. -/
structure IsLaid (m : Materials) (process : Document.Process) (flow : Flow)
    (place : Address → Nat) : Prop where
  length : flow.arena.length = process.route.length
  stands : ∀ address d, process.declaration? address = some d →
    StandsAt (madeOf m flow.services flow.arena) flow.arena place address d
  /-- The services, and last the process, have their activities by name. -/
  tops : List.Forall₂ (fun x s => Names (fun address => place (x.2 :: address)) x.1 s.activities)
    process.tops.zipIdx flow.allServices
  targets : ServicesAt flow.arena flow.arena.length flow.services

theorem entries_tops (c : Document.Common) :
    c.tops.zipIdx.map (fun x => (x.1.name, x.1.entry)) = c.activities := by
  rw [Document.Common.tops, List.zipIdx_map, List.map_map]
  exact List.zipIdx_map_fst 0 _

/-- What is declared is declared in one of the services or in the process. -/
theorem stand_declared {of : Declaration → Activity} {arena : List Activity}
    {place : Address → Nat} {process : Document.Process}
    (services : ∀ x ∈ process.services.zipIdx, ∀ rest e,
      among? (x.1.2.tops x.1.1) rest = some e → StandsAt of arena place (x.2 :: rest) e)
    (common : ∀ x ∈ process.common.tops.zipIdx, ∀ rest e, x.1.at? rest = some e →
      StandsAt of arena (fun address => place (process.services.length :: address))
        (x.2 :: rest) e) :
    ∀ address d, process.declaration? address = some d → StandsAt of arena place address d := by
  intro address d h
  cases address with
  | nil => contradiction
  | cons g rest =>
    obtain ⟨ds, hds, hd⟩ := Option.bind_eq_some_iff.mp h
    have hg : (ds, g) ∈ process.tops.zipIdx := List.mem_zipIdx_iff_getElem?.mpr hds
    rw [process.zipIdx_tops] at hg
    rcases List.mem_append.mp hg with hg | hg
    · obtain ⟨x, hx, h⟩ := List.mem_map.mp hg
      obtain ⟨rfl, rfl⟩ := Prod.mk.inj h
      exact services x hx rest d hd
    · obtain ⟨rfl, rfl⟩ := Prod.mk.inj (List.mem_singleton.mp hg)
      exact (stand_among common rest d hd).under

/-- **Before parameters are mapped, the arena is what documents declare.** -/
theorem declared_isLaid (m : Materials) (page : Document.Page) (process : Document.Process)
    {place : Address → Nat} (follows : Follows place 0 process.route) :
    IsLaid m process (declared m page process).value place := by
  rw [process.route_eq] at follows
  simp only [declared, Noted.value_bind, Noted.value_pure]
  have laid := layoutServices_laid m page process.services []
  generalize htop : (layoutServices m page [] process.services).value = top at laid ⊢
  obtain ⟨more, _⟩ := layoutCommon_laid m.functions top.2 top.1.length
    process.common.activities top.1 (Nat.le_refl _)
  generalize hall : (layoutCommon m.functions top.2 top.1 process.common.activities).value = all
    at more ⊢
  have has := HasAt.refl all.1
  obtain ⟨_, targets⟩ := laid.laid _ (hasAt_of_more has more)
  -- the services stand first, and the process behind them
  have own : ∀ service (sibling : String × Document.Activity),
      madeOf m top.2 all.1 (ofActivity service sibling)
        = unplaced m.functions service sibling.1 sibling.2 (m.bridges.get? service) :=
    fun _ _ => rfl
  obtain ⟨hlen, names, stand⟩ := layoutServices_stand m page place own process.services.zipIdx []
    (by rw [List.zipIdx_map_fst, htop]; exact hasAt_of_more has more) follows.left
  rw [List.zipIdx_map_fst, htop] at hlen names
  have follows' := follows.right
  rw [List.length_nil, Nat.zero_add] at hlen
  rw [Nat.zero_add, ← hlen] at follows'
  have common := layoutCommon_stand (isCommon_madeOf m top.2 all.1) targets
    (fun address => place (process.services.length :: address)) process.common.tops.zipIdx top.1
    (fun x hx => Document.Common.service_of_mem_tops
      (List.mem_of_getElem? (List.mem_zipIdx_iff_getElem?.mp hx)))
    (Nat.le_refl _)
  rw [entries_tops, hall] at common
  obtain ⟨hlen', names', stand'⟩ := common has follows'.first
  constructor
  case length =>
    rw [process.route_eq, List.length_append, ← hlen, length_joined_cons, hlen']
    rfl
  case stands => exact stand_declared stand stand'
  case tops =>
    rw [process.zipIdx_tops]
    refine List.rel_append ?_ (.cons names' .nil)
    rw [List.forall₂_map_left_iff, Dict.values, List.forall₂_map_right_iff]
    exact names
  case targets => exact fun entry h => (targets entry h).mono more.length_le

end Pageflow.Flow
