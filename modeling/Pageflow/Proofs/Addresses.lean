/-
  Pageflow.Proofs.Addresses — the forest that documents declare.

  A process declares trees of activities: for each service those at its top, and last those of the
  process itself, each with what is declared inside it.  An address leads to a declaration: the
  number of the service, that of the entry, and at each level below the position among the
  siblings as they are declared.  A route lists the addresses in the order in which activities get
  their places, an activity before what is inside it and siblings by priority.

  Main definitions: `Process.declaration?`, `Declaration.below` and `Process.route`.
  Main statements: `Process.mem_route` and `Process.nodup_route`, a route leads everywhere once.
-/
import Mathlib.Data.List.Nodup
import Pageflow.Document.Page

namespace Pageflow.Document

/-! ## §1. Declarations. -/

/-- An entry as an activity: of a reference only what is inside it. -/
def CommonActivity.toActivity : CommonActivity → Activity
  | .definition a => a
  | .reference r => { subActivities := r.subActivities }

/-- What is declared, with its service and its name. -/
structure Declaration where
  service : String
  name : String
  entry : CommonActivity

namespace Declaration

/-- An activity that a service declares. -/
def ofActivity (service : String) (sibling : String × Activity) : Declaration :=
  ⟨service, sibling.1, .definition sibling.2⟩

/-- The declaration as an activity. -/
def activity (d : Declaration) : Activity := d.entry.toActivity

/-- What is declared directly inside. -/
def inner (d : Declaration) : List Declaration :=
  d.activity.subActivities.map (ofActivity d.service)

theorem service_of_mem_inner {d e : Declaration} (h : e ∈ d.inner) : e.service = d.service := by
  obtain ⟨sibling, _, rfl⟩ := List.mem_map.mp h
  rfl

theorem sizeOf_lt_of_mem_inner {d e : Declaration} (h : e ∈ d.inner) :
    sizeOf e.entry < sizeOf d.entry := by
  obtain ⟨⟨name, a⟩, hs, rfl⟩ := List.mem_map.mp h
  have hlt := List.sizeOf_lt_of_mem hs
  obtain ⟨service, _, entry⟩ := d
  cases entry with
  | definition b =>
    obtain ⟨_, _, _, _, _, _, _, _, _, _, _, _⟩ := b
    simp only [ofActivity, activity, CommonActivity.toActivity,
      CommonActivity.definition.sizeOf_spec, Activity.mk.sizeOf_spec, Prod.mk.sizeOf_spec] at hlt ⊢
    omega
  | reference r =>
    obtain ⟨_, _, _, _, _⟩ := r
    simp only [ofActivity, activity, CommonActivity.toActivity,
      CommonActivity.definition.sizeOf_spec, CommonActivity.reference.sizeOf_spec,
      Reference.mk.sizeOf_spec, Prod.mk.sizeOf_spec]
      at hlt ⊢
    omega

end Declaration

/-! ## §2. Addresses. -/

/-- Where something is declared: positions, the outermost one first. -/
abbrev Address := List Nat

namespace Declaration

/-- What is declared at an address inside, the declaration itself included. -/
def at? (d : Declaration) : Address → Option Declaration
  | [] => some d
  | i :: rest => d.inner[i]?.bind fun e => e.at? rest

/-- What is declared at an address among these and inside them. -/
def among? (ds : List Declaration) : Address → Option Declaration
  | [] => none
  | i :: rest => ds[i]?.bind fun d => d.at? rest

/-- The addresses of what is declared directly inside the declaration at this address. -/
def below (d : Declaration) (place : Address) : List Address :=
  (List.range d.inner.length).map fun i => place ++ [i]

theorem at?_append (d : Declaration) (outer inner : Address) :
    d.at? (outer ++ inner) = (d.at? outer).bind fun e => e.at? inner := by
  induction outer generalizing d with
  | nil => rfl
  | cons i rest ih =>
    show d.inner[i]?.bind (fun e => e.at? (rest ++ inner)) = _
    rw [at?, Option.bind_assoc]
    exact congrArg _ (funext ih)

theorem mem_below {d : Declaration} {outer place : Address} :
    place ∈ d.below outer ↔ ∃ i < d.inner.length, place = outer ++ [i] := by
  simp [below, eq_comm]

theorem nodup_below (d : Declaration) (outer : Address) : (d.below outer).Nodup := by
  refine List.nodup_range.map ?_
  intro i j h
  exact (List.cons.inj (List.append_cancel_left h)).1

end Declaration

/-- What is declared at the top of a service. -/
def Service.tops (name : String) (s : Service) : List Declaration :=
  s.activities.map (Declaration.ofActivity name)

theorem Service.map_name_tops (name : String) (s : Service) :
    (s.tops name).map Declaration.name = s.activities.keys := by
  unfold tops
  rw [List.map_map]
  rfl

theorem Service.service_of_mem_tops {name : String} {s : Service} {d : Declaration}
    (h : d ∈ s.tops name) : d.service = name := by
  obtain ⟨sibling, _, rfl⟩ := List.mem_map.mp h
  rfl

/-- What is declared at the top of the process itself. -/
def Common.tops (c : Common) : List Declaration :=
  c.activities.map fun (name, entry) => ⟨processService, name, entry⟩

theorem Common.map_name_tops (c : Common) :
    c.tops.map Declaration.name = c.activities.keys := by
  unfold tops
  rw [List.map_map]
  rfl

theorem Common.service_of_mem_tops {c : Common} {d : Declaration} (h : d ∈ c.tops) :
    d.service = processService := by
  obtain ⟨entry, _, rfl⟩ := List.mem_map.mp h
  rfl

namespace Process

open Declaration

/-- What is declared at the top: for each service, and last for the process itself. -/
def tops (process : Process) : List (List Declaration) :=
  process.services.map (fun (name, s) => s.tops name) ++ [process.common.tops]

theorem tops_of_service {process : Process} {g : Nat} {name : String} {s : Service}
    (h : process.services[g]? = some (name, s)) : process.tops[g]? = some (s.tops name) := by
  have hlt := (List.getElem?_eq_some_iff.mp h).1
  rw [tops, List.getElem?_append_left (by rw [List.length_map]; exact hlt), List.getElem?_map, h]
  rfl

theorem tops_of_common (process : Process) :
    process.tops[process.services.length]? = some process.common.tops := by
  rw [tops, List.getElem?_append_right (Nat.le_of_eq (List.length_map ..)), List.length_map,
    Nat.sub_self]
  rfl

/-- What is declared at the top belongs to a service or to the process itself. -/
theorem tops_cases {process : Process} {g : Nat} {ds : List Declaration}
    (h : process.tops[g]? = some ds) :
    (∃ name s, process.services[g]? = some (name, s) ∧ ds = s.tops name)
      ∨ g = process.services.length ∧ ds = process.common.tops := by
  by_cases hlt : g < process.services.length
  · have hg := List.getElem?_eq_getElem hlt
    exact .inl ⟨_, _, hg, Option.some.inj (h.symm.trans (tops_of_service hg))⟩
  · have hlen := (List.getElem?_eq_some_iff.mp h).1
    rw [tops, List.length_append, List.length_map, List.length_singleton] at hlen
    obtain rfl : g = process.services.length := by omega
    exact .inr ⟨rfl, Option.some.inj (h.symm.trans process.tops_of_common)⟩

theorem zipIdx_tops (process : Process) :
    process.tops.zipIdx
      = process.services.zipIdx.map (fun x => (x.1.2.tops x.1.1, x.2))
        ++ [(process.common.tops, process.services.length)] := by
  rw [tops, List.zipIdx_append, List.zipIdx_map, List.length_map, Nat.zero_add]
  rfl

/-- What a process declares at an address. -/
def declaration? (process : Process) : Address → Option Declaration
  | [] => none
  | g :: rest => process.tops[g]?.bind fun ds => among? ds rest

theorem declaration?_eq_some {process : Process} {place : Address} {d : Declaration} :
    process.declaration? place = some d ↔
      ∃ g j rest ds top, place = g :: j :: rest ∧ process.tops[g]? = some ds
        ∧ ds[j]? = some top ∧ top.at? rest = some d := by
  constructor
  · intro h
    match place, h with
    | [_], h =>
      obtain ⟨_, _, h⟩ := Option.bind_eq_some_iff.mp h
      contradiction
    | g :: j :: rest, h =>
      obtain ⟨ds, hds, h⟩ := Option.bind_eq_some_iff.mp h
      obtain ⟨top, htop, h⟩ := Option.bind_eq_some_iff.mp h
      exact ⟨g, j, rest, ds, top, rfl, hds, htop, h⟩
  · rintro ⟨g, j, rest, ds, top, rfl, hds, htop, h⟩
    show process.tops[g]?.bind (fun ds => ds[j]?.bind fun d => d.at? rest) = _
    rw [hds, Option.bind_some, htop, Option.bind_some, h]

/-- There are no activities but in services and in the process. -/
theorem two_le_length {process : Process} {place : Address}
    (h : (process.declaration? place).isSome) : 2 ≤ place.length := by
  obtain ⟨d, h⟩ := Option.isSome_iff_exists.mp h
  obtain ⟨g, j, rest, _, _, rfl, _, _, _⟩ := declaration?_eq_some.mp h
  simp

/-- What is declared below a declaration is declared inside it. -/
theorem declaration?_append_singleton {process : Process} {place : Address} {d e : Declaration}
    {i : Nat} (h : process.declaration? place = some d) (hi : d.inner[i]? = some e) :
    process.declaration? (place ++ [i]) = some e := by
  obtain ⟨g, j, rest, ds, top, rfl, hds, htop, h⟩ := declaration?_eq_some.mp h
  refine declaration?_eq_some.mpr ⟨g, j, rest ++ [i], ds, top, rfl, hds, htop, ?_⟩
  rw [at?_append, h, Option.bind_some, at?, hi]
  rfl

theorem isSome_of_mem_below {process : Process} {place other : Address} {d : Declaration}
    (h : process.declaration? place = some d) (ho : other ∈ d.below place) :
    (process.declaration? other).isSome := by
  obtain ⟨i, hi, rfl⟩ := mem_below.mp ho
  rw [declaration?_append_singleton h (List.getElem?_eq_getElem hi)]
  rfl

/-- What is declared is declared at the top or directly inside a declaration. -/
theorem declaration?_cases {process : Process} {place : Address} {d : Declaration}
    (h : process.declaration? place = some d) :
    (∃ g j ds, place = [g, j] ∧ process.tops[g]? = some ds ∧ ds[j]? = some d)
      ∨ ∃ outer i e, place = outer ++ [i] ∧ process.declaration? outer = some e
        ∧ e.inner[i]? = some d := by
  obtain ⟨g, j, rest, ds, top, rfl, hds, htop, h⟩ := declaration?_eq_some.mp h
  rcases List.eq_nil_or_concat rest with rfl | ⟨outer, i, hrest⟩
  · obtain rfl := Option.some.inj h
    exact .inl ⟨g, j, ds, rfl, hds, htop⟩
  · rw [List.concat_eq_append] at hrest
    subst hrest
    rw [at?_append] at h
    obtain ⟨e, he, h⟩ := Option.bind_eq_some_iff.mp h
    obtain ⟨d', hd', h⟩ := Option.bind_eq_some_iff.mp h
    obtain rfl := Option.some.inj h
    exact .inr ⟨g :: j :: outer, i, e, rfl,
      declaration?_eq_some.mpr ⟨g, j, outer, ds, top, rfl, hds, htop, he⟩, hd'⟩

/-- References are declared by the process only. -/
theorem service_of_reference {process : Process} {place : Address} {d : Declaration}
    (h : process.declaration? place = some d) {r : Reference} (hr : d.entry = .reference r) :
    d.service = processService := by
  rcases declaration?_cases h with ⟨g, j, ds, _, hds, hd⟩ | ⟨_, i, e, _, _, hi⟩
  · rcases tops_cases hds with ⟨name, s, _, rfl⟩ | ⟨_, rfl⟩
    · obtain ⟨sibling, _, rfl⟩ := List.mem_map.mp (List.mem_of_getElem? hd)
      contradiction
    · exact Common.service_of_mem_tops (List.mem_of_getElem? hd)
  · obtain ⟨sibling, _, rfl⟩ := List.mem_map.mp (List.mem_of_getElem? hi)
    contradiction

end Process

/-! ## §3. Routes. -/

/-- Routes joined to one: each leads on from a position. -/
def joined (routes : List (List Address × Nat)) : List Address :=
  routes.flatMap fun (route, i) => route.map (i :: ·)

theorem joined_cons (route : List Address) (i : Nat) (routes : List (List Address × Nat)) :
    joined ((route, i) :: routes) = route.map (i :: ·) ++ joined routes := rfl

theorem mem_joined {routes : List (List Address × Nat)} {place : Address} :
    place ∈ joined routes ↔
      ∃ route i rest, (route, i) ∈ routes ∧ rest ∈ route ∧ place = i :: rest := by
  simp only [joined, List.mem_flatMap, List.mem_map, Prod.exists, eq_comm (a := place)]
  constructor
  · rintro ⟨route, i, h, rest, hr, hp⟩
    exact ⟨route, i, rest, h, hr, hp⟩
  · rintro ⟨route, i, rest, h, hr, hp⟩
    exact ⟨route, i, h, rest, hr, hp⟩

theorem nodup_joined {routes : List (List Address × Nat)} (apart : (routes.map Prod.snd).Nodup)
    (each : ∀ x ∈ routes, x.1.Nodup) : (joined routes).Nodup := by
  refine List.nodup_flatMap.mpr ⟨?_, (List.pairwise_map.mp apart).imp ?_⟩
  · intro x hx
    exact (each x hx).map fun _ _ h => (List.cons.inj h).2
  · intro x y hne place hx hy
    -- the first position tells the two routes apart
    obtain ⟨rest, _, rfl⟩ := List.mem_map.mp hx
    obtain ⟨rest', _, h⟩ := List.mem_map.mp hy
    exact hne (List.cons.inj h).1.symm

theorem nodup_numbers {α : Type} (xs : List α) : (xs.zipIdx.map Prod.snd).Nodup := by
  rw [List.zipIdx_map_snd]
  exact List.nodup_range'

namespace Declaration

/-- What is declared directly inside, with its position, by priority. -/
def ranked (d : Declaration) : List (Declaration × Nat) :=
  d.inner.zipIdx.mergeSort fun x y =>
    x.1.activity.effectivePriority.totalLe y.1.activity.effectivePriority

theorem ranked_perm (d : Declaration) : d.ranked.Perm d.inner.zipIdx := List.mergeSort_perm _ _

theorem mem_ranked {d e : Declaration} {i : Nat} :
    (e, i) ∈ d.ranked ↔ d.inner[i]? = some e := by
  rw [d.ranked_perm.mem_iff, List.mem_zipIdx_iff_getElem?]

theorem mem_inner_of_mem_ranked {d : Declaration} {x : Declaration × Nat} (h : x ∈ d.ranked) :
    x.1 ∈ d.inner :=
  List.mem_of_getElem? (mem_ranked.mp h)

/-- The addresses inside a declaration in the order of places, its own first. -/
def route (d : Declaration) : List Address :=
  [] :: joined (d.ranked.attach.map fun ⟨x, _⟩ => (x.1.route, x.2))
termination_by sizeOf d.entry
decreasing_by
  rename_i h
  exact sizeOf_lt_of_mem_inner (mem_inner_of_mem_ranked h)

theorem route_eq (d : Declaration) :
    d.route = [] :: joined (d.ranked.map fun x => (x.1.route, x.2)) := by
  rw [route, List.map_subtype (g := fun x => (x.1.route, x.2)) fun _ _ => rfl,
    List.unattach_attach]

/-- Routes of these declarations, whatever their order, lead everywhere among them. -/
theorem mem_joined_routes {ds : List Declaration} {numbered : List (Declaration × Nat)}
    (all : ∀ e i, (e, i) ∈ numbered ↔ ds[i]? = some e) {rest : Address} {i : Nat}
    (each : ∀ e : Declaration, rest ∈ e.route ↔ (e.at? rest).isSome) :
    i :: rest ∈ joined (numbered.map fun x => (x.1.route, x.2)) ↔
      (among? ds (i :: rest)).isSome := by
  simp only [mem_joined, List.mem_map, Prod.exists, Prod.mk.injEq, List.cons.injEq]
  constructor
  · rintro ⟨_, _, _, ⟨e, _, h, rfl, rfl⟩, hr, rfl, rfl⟩
    rw [among?, (all e i).mp h]
    exact (each e).mp hr
  · intro h
    obtain ⟨d, h⟩ := Option.isSome_iff_exists.mp h
    obtain ⟨e, he, h⟩ := Option.bind_eq_some_iff.mp h
    exact ⟨_, _, _, ⟨e, i, (all e i).mpr he, rfl, rfl⟩,
      (each e).mpr (Option.isSome_iff_exists.mpr ⟨d, h⟩), rfl, rfl⟩

theorem nil_not_mem_joined (routes : List (List Address × Nat)) : [] ∉ joined routes := by
  intro h
  obtain ⟨_, _, _, _, _, h⟩ := mem_joined.mp h
  contradiction

/-- **A route leads to what is declared inside, and nowhere else.** -/
theorem mem_route {place : Address} :
    ∀ d : Declaration, place ∈ d.route ↔ (d.at? place).isSome := by
  induction place with
  | nil =>
    intro d
    rw [route_eq]
    exact iff_of_true List.mem_cons_self rfl
  | cons i rest ih =>
    intro d
    rw [route_eq, List.mem_cons, or_iff_right (List.cons_ne_nil i rest)]
    exact mem_joined_routes (fun _ _ => mem_ranked) ih

theorem nodup_positions {ds : List Declaration} {numbered : List (Declaration × Nat)}
    (h : numbered.Perm ds.zipIdx) :
    ((numbered.map fun x => (x.1.route, x.2)).map Prod.snd).Nodup := by
  rw [List.map_map]
  exact (h.map Prod.snd).nodup_iff.mpr (nodup_numbers ds)

/-- **A route leads nowhere twice.** -/
theorem nodup_route (d : Declaration) : d.route.Nodup := by
  rw [route_eq, List.nodup_cons]
  refine ⟨nil_not_mem_joined _, nodup_joined (nodup_positions d.ranked_perm) ?_⟩
  intro x hx
  obtain ⟨y, hy, rfl⟩ := List.mem_map.mp hx
  exact nodup_route y.1
termination_by sizeOf d.entry
decreasing_by exact sizeOf_lt_of_mem_inner (mem_inner_of_mem_ranked hy)

/-- The addresses among these in the order of places. -/
def routeAmong (ds : List Declaration) : List Address :=
  joined (ds.zipIdx.map fun x => (x.1.route, x.2))

theorem mem_routeAmong {ds : List Declaration} {place : Address} :
    place ∈ routeAmong ds ↔ (among? ds place).isSome := by
  cases place with
  | nil => exact iff_of_false (nil_not_mem_joined _) Bool.false_ne_true
  | cons i rest =>
    exact mem_joined_routes (fun _ _ => List.mem_zipIdx_iff_getElem?) fun d => d.mem_route

theorem nodup_routeAmong (ds : List Declaration) : (routeAmong ds).Nodup := by
  refine nodup_joined (nodup_positions (List.Perm.refl _)) ?_
  intro x hx
  obtain ⟨y, _, rfl⟩ := List.mem_map.mp hx
  exact nodup_route y.1

end Declaration

namespace Process

open Declaration

/-- All addresses of a process in the order of places. -/
def route (process : Process) : List Address :=
  joined (process.tops.zipIdx.map fun (ds, g) => (routeAmong ds, g))

/-- The route leads through the services first. -/
theorem route_eq (process : Process) :
    process.route
      = joined (process.services.zipIdx.map fun x => (routeAmong (x.1.2.tops x.1.1), x.2))
        ++ joined [(routeAmong process.common.tops, process.services.length)] := by
  rw [route, zipIdx_tops, List.map_append, List.map_map, joined, List.flatMap_append]
  rfl

/-- **The route of a process leads to everything that it declares.** -/
theorem mem_route {process : Process} {place : Address} :
    place ∈ process.route ↔ (process.declaration? place).isSome := by
  cases place with
  | nil => exact iff_of_false (nil_not_mem_joined _) Bool.false_ne_true
  | cons g rest =>
    rw [route, mem_joined, declaration?]
    constructor
    · rintro ⟨_, _, _, hr, hrest, h⟩
      obtain ⟨⟨ds, g'⟩, hg, h'⟩ := List.mem_map.mp hr
      obtain ⟨rfl, rfl⟩ := Prod.mk.inj h'
      obtain ⟨rfl, rfl⟩ := List.cons.inj h
      rw [List.mem_zipIdx_iff_getElem?.mp hg]
      exact mem_routeAmong.mp hrest
    · intro h
      obtain ⟨d, h⟩ := Option.isSome_iff_exists.mp h
      obtain ⟨ds, hds, h⟩ := Option.bind_eq_some_iff.mp h
      exact ⟨_, _, _, List.mem_map.mpr ⟨(ds, g), List.mem_zipIdx_iff_getElem?.mpr hds, rfl⟩,
        mem_routeAmong.mpr (Option.isSome_iff_exists.mpr ⟨d, h⟩), rfl⟩

theorem nodup_route (process : Process) : process.route.Nodup := by
  refine nodup_joined ?_ ?_
  · rw [List.map_map]
    exact nodup_numbers process.tops
  · intro x hx
    obtain ⟨⟨ds, g⟩, _, rfl⟩ := List.mem_map.mp hx
    exact nodup_routeAmong ds

/-- The addresses of what is declared at the top, in the order of places. -/
def topRoute (process : Process) : List Address :=
  joined (process.tops.zipIdx.map fun (ds, g) => (ds.zipIdx.map fun y => [y.2], g))

theorem mem_topRoute {process : Process} {place : Address} :
    place ∈ process.topRoute ↔
      place.length = 2 ∧ (process.declaration? place).isSome := by
  rw [topRoute, mem_joined]
  constructor
  · rintro ⟨_, _, _, hr, hrest, rfl⟩
    obtain ⟨⟨ds, g⟩, hg, h⟩ := List.mem_map.mp hr
    obtain ⟨rfl, rfl⟩ := Prod.mk.inj h
    obtain ⟨⟨d, j⟩, hj, rfl⟩ := List.mem_map.mp hrest
    refine ⟨rfl, Option.isSome_iff_exists.mpr ⟨d, declaration?_eq_some.mpr ?_⟩⟩
    exact ⟨g, j, [], ds, d, rfl, List.mem_zipIdx_iff_getElem?.mp hg,
      List.mem_zipIdx_iff_getElem?.mp hj, rfl⟩
  · rintro ⟨hlen, h⟩
    obtain ⟨d, h⟩ := Option.isSome_iff_exists.mp h
    obtain ⟨g, j, rest, ds, top, rfl, hds, htop, _⟩ := declaration?_eq_some.mp h
    obtain rfl : rest = [] := by simpa using hlen
    exact ⟨_, g, [j], List.mem_map.mpr ⟨(ds, g), List.mem_zipIdx_iff_getElem?.mpr hds, rfl⟩,
      List.mem_map.mpr ⟨(top, j), List.mem_zipIdx_iff_getElem?.mpr htop, rfl⟩, rfl⟩

theorem nodup_topRoute (process : Process) : process.topRoute.Nodup := by
  refine nodup_joined ?_ ?_
  · rw [List.map_map]
    exact nodup_numbers process.tops
  · intro x hx
    obtain ⟨⟨ds, g⟩, _, rfl⟩ := List.mem_map.mp hx
    have numbers := nodup_numbers ds
    rw [List.nodup_iff_pairwise_ne, List.pairwise_map] at numbers
    exact List.pairwise_map.mpr (numbers.imp fun hne h => hne (List.cons.inj h).1)

end Process

end Pageflow.Document
