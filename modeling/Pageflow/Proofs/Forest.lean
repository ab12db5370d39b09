/-
  Pageflow.Proofs.Forest — the arena is the declared forest.

  Every declared activity stands in the arena, each at a place of its own, above what is declared
  inside it.  Mapping leaves this as it is, and adds makers of values, which stand apart.

  Main definitions: `IsForest`, `IsLinked` and `IsApart`.
  Main statements: `IsBuilt.forest`, and `arena_is_the_declared_forest`, which adds that every
  activity that is not generated is named at the top once, or listed by one other once.
-/
import Pageflow.Proofs.Standing

namespace Pageflow.Flow

open Document (processService Declaration Address)

/-! ## §1. Built flows. -/

/-- **The arena of a flow is the forest that documents declare**: their activities stand at places
of their own, each above what is declared inside it. -/
structure IsForest (m : Materials) (process : Document.Process) (flow : Flow)
    (place : Address → Nat) : Prop where
  oneToOne : Set.BijOn place {address | (process.declaration? address).isSome}
    {k | ∃ b, flow.arena[k]? = some b ∧ b.isGenerated = false}
  stands : ∀ address d, process.declaration? address = some d →
    ∃ parent places b, flow.arena[place address]? = some b
      ∧ Retains (rootOf (madeOf m flow.services flow.arena d) parent places) b
      ∧ places.Perm ((d.below address).map place)
  /-- The services, and last the process, have their activities by name. -/
  tops : List.Forall₂ (fun x s => Names (fun address => place (x.2 :: address)) x.1 s.activities)
    process.tops.zipIdx flow.allServices

section Built

variable {m : Materials} {page : Document.Page} {process : Document.Process} {flow : Flow}

/-- Mapping adds what is generated, and only that. -/
theorem IsBuilt.isGenerated_iff (hb : IsBuilt m page process flow) {k : Nat} {b : Activity}
    (h : flow.arena[k]? = some b) :
    b.isGenerated = false ↔ k < (declared m page process).value.arena.length := by
  obtain ⟨laid, _⟩ := declared_laid m page process
  by_cases hk : k < (declared m page process).value.arena.length
  · have ha := List.getElem?_eq_getElem hk
    obtain ⟨b', hb', retains, _⟩ := hb.rounded.at ha
    obtain rfl := Option.some.inj (h.symm.trans hb')
    exact iff_of_true (retains.isGenerated.trans (laid k _ (Nat.zero_le k) hk ha).2.2) hk
  · have := (hb.rounded.added k b (Nat.le_of_not_lt hk) h).1.isGenerated
    simp [this, hk]

/-- To map parameters leaves the forest as it is. -/
theorem IsLaid.isForest (hb : IsBuilt m page process flow) {place : Address → Nat}
    (laid : IsLaid m process (declared m page process).value place)
    (follows : Follows place 0 process.route) : IsForest m process flow place := by
  have hservices : flow.services = (declared m page process).value.services := by
    obtain ⟨_, _, _, rfl⟩ := hb
    rfl
  have hall : flow.allServices = (declared m page process).value.allServices := by
    obtain ⟨_, _, _, rfl⟩ := hb
    rfl
  have generated := fun k b => hb.isGenerated_iff (k := k) (b := b)
  have rounded := hb.rounded
  generalize (declared m page process).value = before
    at laid hservices hall generated rounded
  constructor
  case oneToOne =>
    have declares : {address | (process.declaration? address).isSome}
        = {address | address ∈ process.route} :=
      Set.ext fun address => Document.Process.mem_route.symm
    have places : {k | ∃ b, flow.arena[k]? = some b ∧ b.isGenerated = false}
        = {k | k < process.route.length} := by
      rw [← laid.length]
      ext k
      constructor
      · rintro ⟨b, hb, h⟩
        exact (generated k b hb).mp h
      · intro hk
        obtain ⟨b, hb, _⟩ := rounded.at (List.getElem?_eq_getElem hk)
        exact ⟨b, hb, (generated k b hb).mpr hk⟩
    rw [declares, places]
    exact follows.bijOn
  case stands =>
    intro address d hd
    obtain ⟨parent, ha⟩ := laid.stands address d hd
    obtain ⟨b, hb, retains, _⟩ := rounded.at ha
    refine ⟨parent, _, b, hb, ?_, rankedPlaces_perm place address d⟩
    have same : madeOf m flow.services flow.arena d = madeOf m before.services before.arena d := by
      rw [hservices]
      obtain ⟨service, name, entry⟩ := d
      cases entry with
      | definition a => rfl
      | reference r =>
        refine forwarding_congr ?_
        intro entry he target ht
        obtain ⟨_, a, ha, _⟩ := laid.targets entry he target ht
        obtain ⟨b, hb, retains, _⟩ := rounded.at ha
        rw [ha, hb, Option.map_some, Option.map_some, retains]
    rw [same]
    exact retains
  case tops =>
    rw [hall]
    exact laid.tops

/-- **What is built is the forest that documents declare.** -/
theorem IsBuilt.forest (hb : IsBuilt m page process flow) :
    ∃ place, IsForest m process flow place :=
  have follows := Follows.idxOf process.nodup_route
  ⟨_, (declared_isLaid m page process follows).isForest hb follows⟩

end Built

/-! ## §2. Links. -/

/-- The places that services, and the process, name. -/
def topPlaces (flow : Flow) : List Nat := flow.allServices.flatMap fun s => s.activities.values

/-- How an activity at place `k` is linked with the others: it is named once at the top of a
service, or listed once by the activity above it; and nowhere else. -/
inductive IsLinked (flow : Flow) (k : Nat) (b : Activity) : Prop
  | top (parent : b.parent = none) (once : flow.topPlaces.count k = 1)
      (elsewhere : ∀ a ∈ flow.arena, k ∉ a.subActivities)
  | inside {p : Nat} {a : Activity} (parent : b.parent = some p)
      (above : flow.arena[p]? = some a) (once : a.subActivities.count k = 1)
      (elsewhere : ∀ q c, flow.arena[q]? = some c → k ∈ c.subActivities → q = p)
      (notTop : k ∉ flow.topPlaces)

/-- An activity at place `k` is linked with no other. -/
structure IsApart (flow : Flow) (k : Nat) (b : Activity) : Prop where
  parent : b.parent = none
  subActivities : b.subActivities = []
  elsewhere : ∀ a ∈ flow.arena, k ∉ a.subActivities
  notTop : k ∉ flow.topPlaces

namespace IsForest

variable {m : Materials} {process : Document.Process} {flow : Flow} {place : Address → Nat}

/-- What is named at the top are the places of what is declared there. -/
theorem topPlaces_eq (f : IsForest m process flow place) :
    flow.topPlaces = process.topRoute.map place := by
  have tops := f.tops
  rw [topPlaces, Document.Process.topRoute]
  generalize flow.allServices = services at tops
  generalize process.tops.zipIdx = numbered at tops
  induction tops with
  | nil => rfl
  | @cons x s numbered services names _ ih =>
    have own : s.activities.values = (x.1.zipIdx.map fun y => [y.2]).map fun rest =>
        place (x.2 :: rest) := by
      rw [names, Dict.values, List.map_map, List.map_map]
      rfl
    rw [List.flatMap_cons, ih, List.map_cons, Document.joined_cons, List.map_append, own]
    simp only [List.map_map, Function.comp_def]

/-- To be named at the top is to be declared there. -/
theorem mem_topPlaces (f : IsForest m process flow place) {address : Address}
    (h : (process.declaration? address).isSome) :
    place address ∈ flow.topPlaces ↔ address.length = 2 := by
  rw [f.topPlaces_eq, List.mem_map]
  constructor
  · rintro ⟨other, ho, heq⟩
    obtain ⟨hlen, ho⟩ := Document.Process.mem_topRoute.mp ho
    rw [← f.oneToOne.injOn ho h heq]
    exact hlen
  · intro hlen
    exact ⟨address, Document.Process.mem_topRoute.mpr ⟨hlen, h⟩, rfl⟩

theorem nodup_topPlaces (f : IsForest m process flow place) : flow.topPlaces.Nodup := by
  rw [f.topPlaces_eq]
  refine process.nodup_topRoute.map_on ?_
  intro x hx y hy h
  exact f.oneToOne.injOn (Document.Process.mem_topRoute.mp hx).2
    (Document.Process.mem_topRoute.mp hy).2 h

theorem nodup_subActivities (f : IsForest m process flow place) {address : Address}
    {d : Declaration} (hd : process.declaration? address = some d) {a : Activity}
    (ha : flow.arena[place address]? = some a) : a.subActivities.Nodup := by
  obtain ⟨parent, places, b, hb, retains, perm⟩ := f.stands address d hd
  obtain rfl := Option.some.inj (ha.symm.trans hb)
  rw [retains.subActivities]
  refine perm.nodup_iff.mpr ((d.nodup_below address).map_on ?_)
  intro x hx y hy h
  exact f.oneToOne.injOn (Document.Process.isSome_of_mem_below hd hx)
    (Document.Process.isSome_of_mem_below hd hy) h

/-- What an activity lists is declared directly inside it. -/
theorem mem_subActivities (f : IsForest m process flow place) {address : Address}
    {d : Declaration} (hd : process.declaration? address = some d) {a : Activity}
    (ha : flow.arena[place address]? = some a) {k : Nat} :
    k ∈ a.subActivities ↔ ∃ i < d.inner.length, k = place (address ++ [i]) := by
  obtain ⟨parent, places, b, hb, retains, perm⟩ := f.stands address d hd
  obtain rfl := Option.some.inj (ha.symm.trans hb)
  rw [retains.subActivities]
  show k ∈ places ↔ _
  simp only [perm.mem_iff, List.mem_map, Declaration.mem_below]
  constructor
  · rintro ⟨_, ⟨i, hi, rfl⟩, rfl⟩
    exact ⟨i, hi, rfl⟩
  · rintro ⟨i, hi, rfl⟩
    exact ⟨_, ⟨i, hi, rfl⟩, rfl⟩

/-- What lists others is declared itself, and so are they. -/
theorem exists_of_mem_subActivities (f : IsForest m process flow place) (orderly : Orderly flow)
    {q k : Nat} {c : Activity} (hc : flow.arena[q]? = some c) (hk : k ∈ c.subActivities) :
    ∃ outer i, (process.declaration? outer).isSome ∧ (process.declaration? (outer ++ [i])).isSome
      ∧ q = place outer ∧ k = place (outer ++ [i]) := by
  have declared : c.isGenerated = false := by
    by_contra h
    have maker := (orderly.placed q c hc).generated (by simpa using h)
    rw [maker.subActivities] at hk
    contradiction
  obtain ⟨outer, ho, rfl⟩ := f.oneToOne.surjOn ⟨c, hc, declared⟩
  obtain ⟨d, hd⟩ := Option.isSome_iff_exists.mp ho
  obtain ⟨i, hi, rfl⟩ := (f.mem_subActivities hd hc).mp hk
  exact ⟨outer, i, ho, Document.Process.isSome_of_mem_below hd
    (Declaration.mem_below.mpr ⟨i, hi, rfl⟩), rfl, rfl⟩

/-- Nothing lists what is declared at the top. -/
theorem not_mem_subActivities (f : IsForest m process flow place) (orderly : Orderly flow)
    {address : Address} (ha : (process.declaration? address).isSome) (htop : address.length = 2)
    {q : Nat} {c : Activity} (hc : flow.arena[q]? = some c) :
    place address ∉ c.subActivities := by
  intro hk
  obtain ⟨outer, i, ho, hi, _, heq⟩ := f.exists_of_mem_subActivities orderly hc hk
  have hlen := congrArg List.length (f.oneToOne.injOn ha hi heq)
  have := Document.Process.two_le_length ho
  rw [List.length_append, List.length_singleton] at hlen
  omega

theorem parent_of_top (f : IsForest m process flow place) (orderly : Orderly flow)
    {address : Address} (ha : (process.declaration? address).isSome) (htop : address.length = 2)
    {b : Activity} (hb : flow.arena[place address]? = some b) : b.parent = none := by
  by_contra h
  obtain ⟨p, hp⟩ := Option.ne_none_iff_exists'.mp h
  obtain ⟨_, c, hc, hk⟩ := (orderly.placed _ b hb).above p hp
  exact f.not_mem_subActivities orderly ha htop hc hk

/-- What is declared inside a declaration is listed by its activity, and knows it. -/
theorem above_of_inner (f : IsForest m process flow place) (orderly : Orderly flow)
    {outer : Address} {e d : Declaration} {i : Nat} (ho : process.declaration? outer = some e)
    (hi : e.inner[i]? = some d) {b : Activity}
    (hb : flow.arena[place (outer ++ [i])]? = some b) :
    b.parent = some (place outer)
      ∧ ∃ a, flow.arena[place outer]? = some a ∧ place (outer ++ [i]) ∈ a.subActivities := by
  obtain ⟨_, _, a, above, _, _⟩ := f.stands outer e ho
  have hk : place (outer ++ [i]) ∈ a.subActivities :=
    (f.mem_subActivities ho above).mpr ⟨i, (List.getElem?_eq_some_iff.mp hi).1, rfl⟩
  obtain ⟨_, b', hb', _, parent, _⟩ := (orderly.placed _ a above).sub _ hk
  obtain rfl := Option.some.inj (hb.symm.trans hb')
  exact ⟨parent, a, above, hk⟩

/-- **An activity that is declared is linked by where it is declared.** -/
theorem isLinked (f : IsForest m process flow place) (orderly : Orderly flow) {k : Nat}
    {b : Activity} (hb : flow.arena[k]? = some b) (declared : b.isGenerated = false) :
    IsLinked flow k b := by
  obtain ⟨address, ha, rfl⟩ := f.oneToOne.surjOn ⟨b, hb, declared⟩
  obtain ⟨d, hd⟩ := Option.isSome_iff_exists.mp ha
  rcases Document.Process.declaration?_cases hd with
    ⟨g, j, ds, rfl, _, _⟩ | ⟨outer, i, e, rfl, ho, hi⟩
  · refine .top (f.parent_of_top orderly ha rfl hb) ?_ ?_
    · exact List.count_eq_one_of_mem f.nodup_topPlaces ((f.mem_topPlaces ha).mpr rfl)
    · intro c hc
      obtain ⟨q, hq⟩ := List.mem_iff_getElem?.mp hc
      exact f.not_mem_subActivities orderly ha rfl hq
  · obtain ⟨parent, a, above, hk⟩ := f.above_of_inner orderly ho hi hb
    refine .inside parent above ?_ ?_ ?_
    · exact List.count_eq_one_of_mem (f.nodup_subActivities ho above) hk
    · intro q c hc hk
      obtain ⟨outer', i', _, hi', rfl, heq⟩ := f.exists_of_mem_subActivities orderly hc hk
      obtain ⟨rfl, _⟩ := List.append_inj' (f.oneToOne.injOn ha hi' heq) rfl
      rfl
    · rw [f.mem_topPlaces ha]
      have := Document.Process.two_le_length (Option.isSome_iff_exists.mpr ⟨e, ho⟩)
      rw [List.length_append, List.length_singleton]
      omega

/-- What is generated stands apart. -/
theorem isApart (f : IsForest m process flow place) (orderly : Orderly flow) {k : Nat}
    {b : Activity} (hb : flow.arena[k]? = some b) (generated : b.isGenerated = true) :
    IsApart flow k b := by
  have maker := (orderly.placed k b hb).generated generated
  have undeclared : ∀ address, (process.declaration? address).isSome → k ≠ place address := by
    rintro address ha rfl
    obtain ⟨b', hb', h⟩ := f.oneToOne.mapsTo ha
    obtain rfl := Option.some.inj (hb.symm.trans hb')
    rw [generated] at h
    contradiction
  refine ⟨maker.parent, maker.subActivities, ?_, ?_⟩
  · intro c hc hk
    obtain ⟨q, hq⟩ := List.mem_iff_getElem?.mp hc
    obtain ⟨outer, i, _, hi, _, heq⟩ := f.exists_of_mem_subActivities orderly hq hk
    exact undeclared _ hi heq
  · intro hk
    rw [f.topPlaces_eq] at hk
    obtain ⟨address, ha, heq⟩ := List.mem_map.mp hk
    exact undeclared address (Document.Process.mem_topRoute.mp ha).2 heq.symm

/-- What is declared has its service and its name, and lists what is declared inside it. -/
theorem exists_stands (f : IsForest m process flow place) {address : Address} {d : Declaration}
    (hd : process.declaration? address = some d) :
    ∃ b, flow.arena[place address]? = some b ∧ b.service = d.service ∧ b.name = d.name
      ∧ b.subActivities.Perm ((d.below address).map place) := by
  obtain ⟨parent, places, b, hb, retains, perm⟩ := f.stands address d hd
  have reference := fun r => Document.Process.service_of_reference hd (r := r)
  have service : b.service = (madeOf m flow.services flow.arena d).service := by
    rw [retains.service]
    rfl
  have name : b.name = (madeOf m flow.services flow.arena d).name := by
    rw [retains]
    rfl
  refine ⟨b, hb, ?_, ?_, ?_⟩
  · rw [service, madeOf_service m flow.services flow.arena reference]
  · rw [name, madeOf_name]
  · rw [retains.subActivities]
    exact perm

/-- The service at the position of declarations names them. -/
theorem exists_names (f : IsForest m process flow place) {g : Nat} {ds : List Declaration}
    (hds : process.tops[g]? = some ds) :
    ∃ s, flow.allServices[g]? = some s
      ∧ Names (fun address => place (g :: address)) ds s.activities := by
  have hg : process.tops.zipIdx[g]? = some (ds, g) := by
    rw [List.getElem?_zipIdx, hds, Option.map_some, Nat.zero_add]
  exact getElem?_of_forall₂ f.tops hg

/-- What is declared at the top has its entry in the service. -/
theorem entry_of_top (f : IsForest m process flow place) {g j : Nat} {ds : List Declaration}
    {d : Declaration} (hds : process.tops[g]? = some ds) (hd : ds[j]? = some d) :
    ∃ s, flow.allServices[g]? = some s ∧ s.activities[j]? = some (d.name, place [g, j]) := by
  obtain ⟨s, hs, names⟩ := f.exists_names hds
  exact ⟨s, hs, names.getElem? hd⟩

end IsForest

/-- **The arena is exactly the declared forest.**  Addresses of declarations correspond one to one
to the activities that are not generated; these have the declared service and name, list what is
declared inside them, and are entries of their services if they are declared at the top.  Each is
linked once; what is generated is linked with nothing. -/
theorem arena_is_the_declared_forest {m : Materials} {page : Document.Page}
    {process : Document.Process} {flow : Flow} (hb : IsBuilt m page process flow) :
    ∃ place : Address → Nat,
      Set.BijOn place {address | (process.declaration? address).isSome}
          {k | ∃ b, flow.arena[k]? = some b ∧ b.isGenerated = false}
        ∧ (∀ address d, process.declaration? address = some d →
            ∃ b, flow.arena[place address]? = some b ∧ b.service = d.service ∧ b.name = d.name
              ∧ b.subActivities.Perm ((d.below address).map place))
        ∧ (∀ g j ds d, process.tops[g]? = some ds → ds[j]? = some d →
            ∃ s, flow.allServices[g]? = some s
              ∧ s.activities[j]? = some (d.name, place [g, j]))
        ∧ ∀ k b, flow.arena[k]? = some b →
            (b.isGenerated = false → IsLinked flow k b)
              ∧ (b.isGenerated = true → IsApart flow k b) := by
  obtain ⟨place, forest⟩ := hb.forest
  have orderly := hb.orderly
  refine ⟨place, forest.oneToOne, ?_, ?_, ?_⟩
  · intro address d hd
    exact forest.exists_stands hd
  · intro g j ds d hds hd
    exact forest.entry_of_top hds hd
  · intro k b hk
    exact ⟨forest.isLinked orderly hk, forest.isApart orderly hk⟩

/-! ## §3. A small forest. -/

/-- A shop with an activity three levels deep, and a process with a reference that has something
declared inside it as well. -/
def groveProcess : Document.Process where
  services := [("shop",
    { activities := [
        ("load",
          { moduleFunction := some "fetch"
            parameters := [("key", { generate := some { moduleFunction := some "make" } })]
            subActivities := [
              ("count",
                { moduleFunction := some "make"
                  subActivities := [("check", { moduleFunction := some "make" })] })] }),
        ("sell", { moduleFunction := some "make" })] })]
  common :=
    { activities := [("again", .reference
        { serviceName := "shop", activityName := "load"
          subActivities := [("done", { moduleFunction := some "make" })] })] }

def groveMaterials : Materials where
  functions := [("fetch", ⟨"shop", "fetch", ["key"]⟩), ("make", ⟨"shop", "make", []⟩)]
  bridges := []

def groveFlow : Flow := (assemble? groveMaterials {} groveProcess).value.getD default

/-- Six activities are declared, and a seventh one makes the key. -/
theorem arena_is_the_declared_forest_grove :
    IsBuilt groveMaterials {} groveProcess groveFlow
    ∧ groveFlow.arena.map (fun a => (a.name, a.parent, a.subActivities))
      = [("load", none, [1]), ("count", some 0, [2]), ("check", some 1, []), ("sell", none, []),
          ("again", none, [5]), ("done", some 4, []), (generatorName "load" "key", none, [])]
    ∧ ∃ place : Address → Nat,
        Set.BijOn place {address | (groveProcess.declaration? address).isSome}
          {k | ∃ b, groveFlow.arena[k]? = some b ∧ b.isGenerated = false} := by
  have built : IsBuilt groveMaterials {} groveProcess groveFlow := isBuilt_getD (by decide +kernel)
  obtain ⟨place, oneToOne, _⟩ := arena_is_the_declared_forest built
  exact ⟨built, by decide +kernel, place, oneToOne⟩

end Pageflow.Flow
