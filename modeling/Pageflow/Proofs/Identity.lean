/-
  Pageflow.Proofs.Identity — what the names of an activity denote.

  The log of executed activities and the lists of required ones know an activity by the names of
  its service and its own.  No check that a document passes keeps two activities from having the
  same names, at different depths or inside different ones.  So names denote one activity exactly
  if documents declare them once; and what dictionaries give is that activities of the same names
  have different parents.

  Main definitions: `GoesBy`, `Document.Process.Declares` and `Document.Process.IsKeyed`.
  Main statement: `names_denote_one_iff_declared_once`.
-/
import Pageflow.Proofs.Addressing

namespace Pageflow

namespace Document.Process

/-! ## §1. Names in documents. -/

/-- At this address something with these names is declared. -/
def Declares (process : Process) (service name : String) (address : Address) : Prop :=
  ∃ d, process.declaration? address = some d ∧ d.service = service ∧ d.name = name

/-- No dictionary of services or activities has two entries for one key. -/
structure IsKeyed (process : Process) : Prop where
  services : Dict.Keyed process.services
  activities : ∀ entry ∈ process.services, Dict.Keyed entry.2.activities
  common : Dict.Keyed process.common.activities
  inner : ∀ address d, process.declaration? address = some d →
    Dict.Keyed d.activity.subActivities

variable {process : Process}

/-- Equal names at two positions of a list in which no name stands twice. -/
theorem eq_of_name {ds : List Declaration} (names : (ds.map Declaration.name).Nodup) {i j : Nat}
    {d d' : Declaration} (hd : ds[i]? = some d) (hd' : ds[j]? = some d')
    (name : d.name = d'.name) : i = j := by
  refine (List.getElem?_inj ?_ names).mp ?_
  · rw [List.length_map]
    exact (List.getElem?_eq_some_iff.mp hd).1
  · rw [List.getElem?_map, List.getElem?_map, hd, hd', Option.map_some, Option.map_some, name]

/-- At the top there is one activity of these names: the services have different names, and so
have the activities of each. -/
theorem IsKeyed.top (keyed : process.IsKeyed) (other : processService ∉ process.services.keys)
    {g g' j j' : Nat} {ds ds' : List Declaration} {d d' : Declaration}
    (hg : process.tops[g]? = some ds) (hg' : process.tops[g']? = some ds')
    (hd : ds[j]? = some d) (hd' : ds'[j']? = some d') (service : d.service = d'.service)
    (name : d.name = d'.name) : g = g' ∧ j = j' := by
  have mem := List.mem_of_getElem? hd
  have mem' := List.mem_of_getElem? hd'
  have isKey : ∀ {g name s}, process.services[g]? = some (name, s) → name ∈ process.services.keys :=
    fun h => List.mem_map_of_mem (List.mem_of_getElem? h)
  rcases tops_cases hg with ⟨n, s, hs, rfl⟩ | ⟨rfl, rfl⟩ <;>
    rcases tops_cases hg' with ⟨n', s', hs', rfl⟩ | ⟨rfl, rfl⟩
  · rw [Service.service_of_mem_tops mem, Service.service_of_mem_tops mem'] at service
    subst service
    have hgg : g = g' := by
      refine (List.getElem?_inj ?_ keyed.services).mp ?_
      · rw [Dict.keys, List.length_map]
        exact (List.getElem?_eq_some_iff.mp hs).1
      · rw [Dict.keys, List.getElem?_map, List.getElem?_map, hs, hs']
        rfl
    subst hgg
    obtain rfl := (Prod.mk.inj (Option.some.inj (hs.symm.trans hs'))).2
    have own := keyed.activities _ (List.mem_of_getElem? hs)
    exact ⟨rfl, eq_of_name (by rw [Service.map_name_tops]; exact own) hd hd' name⟩
  · rw [Service.service_of_mem_tops mem, Common.service_of_mem_tops mem'] at service
    exact absurd (service ▸ isKey hs) other
  · rw [Common.service_of_mem_tops mem, Service.service_of_mem_tops mem'] at service
    exact absurd (service ▸ isKey hs') other
  · exact ⟨rfl, eq_of_name (by rw [Common.map_name_tops]; exact keyed.common) hd hd' name⟩

/-- Those inside one declaration have different names. -/
theorem IsKeyed.inside (keyed : process.IsKeyed) {outer : Address} {e d d' : Declaration}
    {i j : Nat} (ho : process.declaration? outer = some e) (hd : e.inner[i]? = some d)
    (hd' : e.inner[j]? = some d') (name : d.name = d'.name) : i = j := by
  have own : (e.inner.map Declaration.name).Nodup := by
    have own := keyed.inner outer e ho
    rw [Dict.Keyed, Dict.keys] at own
    rw [Declaration.inner, List.map_map]
    exact own
  exact eq_of_name own hd hd' name

end Document.Process

namespace Flow

open Document (processService Declaration Address)

/-! ## §2. Names in the arena. -/

/-- The declared activity at place `k` goes by these names: they are what an entry of the log or a
required activity has to say to be about it. -/
def GoesBy (flow : Flow) (service name : String) (k : Nat) : Prop :=
  ∃ a, flow.arena[k]? = some a ∧ a.isGenerated = false ∧ a.service = service ∧ a.name = name

/-- What tells by which names the activities of a flow go, by places. -/
def identities (flow : Flow) : List (Bool × String × String) :=
  flow.arena.map fun a => (a.isGenerated, a.service, a.name)

theorem goesBy_iff_identities {flow : Flow} {service name : String} {k : Nat} :
    flow.GoesBy service name k ↔ flow.identities[k]? = some (false, service, name) := by
  rw [identities, List.getElem?_map, Option.map_eq_some_iff]
  simp only [GoesBy, Prod.mk.injEq]

namespace IsForest

variable {m : Materials} {page : Document.Page} {process : Document.Process} {flow : Flow}
  {place : Address → Nat} {service name : String}

theorem goesBy_iff (f : IsForest m process flow place) {k : Nat} :
    flow.GoesBy service name k ↔
      ∃ address, process.Declares service name address ∧ place address = k := by
  constructor
  · rintro ⟨a, ha, declared, hservice, hname⟩
    obtain ⟨address, hd, rfl⟩ := f.oneToOne.surjOn ⟨a, ha, declared⟩
    obtain ⟨d, hd⟩ := Option.isSome_iff_exists.mp hd
    obtain ⟨b, hb, bservice, bname, _⟩ := f.exists_stands hd
    obtain rfl := Option.some.inj (ha.symm.trans hb)
    exact ⟨address, ⟨d, hd, bservice.symm.trans hservice, bname.symm.trans hname⟩, rfl⟩
  · rintro ⟨address, ⟨d, hd, dservice, dname⟩, rfl⟩
    obtain ⟨b, hb, bservice, bname, _⟩ := f.exists_stands hd
    obtain ⟨b', hb', declared⟩ := f.oneToOne.mapsTo (Option.isSome_iff_exists.mpr ⟨d, hd⟩)
    obtain rfl := Option.some.inj (hb.symm.trans hb')
    exact ⟨b, hb, declared, bservice.trans dservice, bname.trans dname⟩

/-- Names denote one activity if they are declared once, and not otherwise. -/
theorem one_iff (f : IsForest m process flow place) :
    (∀ i j, flow.GoesBy service name i → flow.GoesBy service name j → i = j) ↔
      ∀ address other, process.Declares service name address →
        process.Declares service name other → address = other := by
  constructor
  · intro one address other ha ho
    have heq := one _ _ (f.goesBy_iff.mpr ⟨address, ha, rfl⟩) (f.goesBy_iff.mpr ⟨other, ho, rfl⟩)
    obtain ⟨d, hd, _⟩ := ha
    obtain ⟨e, he, _⟩ := ho
    exact f.oneToOne.injOn (Option.isSome_iff_exists.mpr ⟨d, hd⟩)
      (Option.isSome_iff_exists.mpr ⟨e, he⟩) heq
  · intro once i j hi hj
    obtain ⟨address, ha, rfl⟩ := f.goesBy_iff.mp hi
    obtain ⟨other, ho, rfl⟩ := f.goesBy_iff.mp hj
    rw [once address other ha ho]

/-- **Activities with the same names have different parents.** -/
theorem eq_of_parent (f : IsForest m process flow place) (orderly : Orderly flow)
    (keyed : process.IsKeyed) (other : processService ∉ process.services.keys) {i j : Nat}
    {a b : Activity} (hi : flow.GoesBy service name i) (hj : flow.GoesBy service name j)
    (ha : flow.arena[i]? = some a) (hb : flow.arena[j]? = some b) (same : a.parent = b.parent) :
    i = j := by
  obtain ⟨address, ⟨d, hd, dservice, dname⟩, rfl⟩ := f.goesBy_iff.mp hi
  obtain ⟨address', ⟨d', hd', dservice', dname'⟩, rfl⟩ := f.goesBy_iff.mp hj
  have hname := dname.trans dname'.symm
  have isSome := fun {address d} (h : process.declaration? address = some d) =>
    Option.isSome_iff_exists.mpr ⟨d, h⟩
  rcases Document.Process.declaration?_cases hd with
    ⟨g, x, ds, rfl, hg, hx⟩ | ⟨outer, x, e, rfl, ho, hx⟩
  · have top := f.parent_of_top orderly (isSome hd) rfl ha
    rcases Document.Process.declaration?_cases hd' with
      ⟨g', x', ds', rfl, hg', hx'⟩ | ⟨outer', x', e', rfl, ho', hx'⟩
    · obtain ⟨rfl, rfl⟩ := keyed.top other hg hg' hx hx' (dservice.trans dservice'.symm) hname
      rfl
    · obtain ⟨parent, _⟩ := f.above_of_inner orderly ho' hx' hb
      rw [same, parent] at top
      contradiction
  · obtain ⟨parent, _⟩ := f.above_of_inner orderly ho hx ha
    rcases Document.Process.declaration?_cases hd' with
      ⟨g', x', ds', rfl, hg', hx'⟩ | ⟨outer', x', e', rfl, ho', hx'⟩
    · rw [same, f.parent_of_top orderly (isSome hd') rfl hb] at parent
      contradiction
    · obtain ⟨parent', _⟩ := f.above_of_inner orderly ho' hx' hb
      rw [same, parent'] at parent
      obtain rfl := f.oneToOne.injOn (isSome ho') (isSome ho) (Option.some.inj parent)
      obtain rfl := Option.some.inj (ho.symm.trans ho')
      rw [keyed.inside ho hx hx' hname]

end IsForest

end Flow

/-! ## §3. Loaded flows. -/

namespace Load

open Document (processService)
open Pageflow.Flow (IsBuilt)

variable {σ : Type} [Journal σ] {registry : Registry} {options : Options} {page : Document.Page}
  {base : Location} {flow : Flow} {s t : σ}

/-- **Names denote one activity of a loaded flow exactly if documents declare them once.**  What
holds in any case, as dictionaries have no two entries for one key, is that activities with the
same names have different parents. -/
theorem names_denote_one_iff_declared_once (validate : options.validate = true)
    (h : (loadDocument registry options page base s).Ends (.ok flow) t) :
    ∃ process origin, (∃ u v : σ, (processOf page base u).Ends (.ok (process, origin)) v)
      ∧ (∀ service name,
          (∀ i j, flow.GoesBy service name i → flow.GoesBy service name j → i = j) ↔
            ∀ address other, process.Declares service name address →
              process.Declares service name other → address = other)
      ∧ (process.IsKeyed → processService ∉ process.services.keys →
          ∀ service name i j a b, flow.GoesBy service name i → flow.GoesBy service name j →
            flow.arena[i]? = some a → flow.arena[j]? = some b → a.parent = b.parent → i = j) := by
  obtain ⟨process, origin, m, found, vetted⟩ := vetted_of_ends validate h
  have built : IsBuilt m page process flow := Flow.isBuilt_of_assemble vetted.assembled
  obtain ⟨place, forest⟩ := built.forest
  refine ⟨process, origin, found, ?_, ?_⟩
  · intro service name
    exact forest.one_iff
  · intro keyed other service name i j a b hi hj ha hb same
    exact forest.eq_of_parent built.orderly keyed other hi hj ha hb same

/-! ## §4. Two checks. -/

/-- A shop that loads and sells, each with an activity inside, under these names; to report needs
the former one. -/
def stockProcess (inLoad inSell : String) : Document.Process where
  title := "Stock"
  services := [("shop",
    { title := "Shop"
      activities := [
        ("load",
          { title := "Load", moduleFunction := some "count"
            subActivities := [
              (inLoad, { title := "Check load", moduleFunction := some "count" })] }),
        ("sell",
          { title := "Sell", moduleFunction := some "count"
            subActivities := [
              (inSell, { title := "Check sale", moduleFunction := some "count" })] }),
        ("report",
          { title := "Report", moduleFunction := some "count"
            requiredActivities := [{ activityName := inLoad }] })] })]

/-- Loads a page with this process with validation. -/
def loadedStock (inLoad inSell : String) : Task (List Note) (Except LoadError Flow) :=
  loadDocument [("mod:stock", [("count", ⟨"mod:stock", "count", []⟩)])] {}
    { title := "Stock page"
      services := [("shop", {})]
      scriptUri := some "mod:stock"
      process := { inline := some (stockProcess inLoad inSell) } }
    (.file "page.json") []

/-- With two names every name denotes one activity, so documents declare it once. -/
theorem names_denote_one_iff_declared_once_stock :
    ∃ flow t, (loadedStock "count" "check").Ends (.ok flow) t
      ∧ ∀ service name,
        (∀ i j, flow.GoesBy service name i → flow.GoesBy service name j → i = j)
          ∧ ∀ address other, (stockProcess "count" "check").Declares service name address →
            (stockProcess "count" "check").Declares service name other → address = other := by
  obtain ⟨flow, t, ends, hflow⟩ := exists_ends_ok (loadedStock "count" "check")
    (fun flow => decide flow.identities.Nodup) (by decide +kernel)
  have nodup := of_decide_eq_true hflow
  have one : ∀ service name i j, flow.GoesBy service name i → flow.GoesBy service name j →
      i = j := by
    intro service name i j hi hj
    rw [Flow.goesBy_iff_identities] at hi hj
    exact (List.getElem?_inj (List.getElem?_eq_some_iff.mp hi).1 nodup).mp (hi.trans hj.symm)
  obtain ⟨process, origin, ⟨u, v, found⟩, iff, _⟩ := names_denote_one_iff_declared_once rfl ends
  obtain rfl := process_of_inline rfl found
  refine ⟨flow, t, ends, ?_⟩
  intro service name
  exact ⟨one service name, (iff service name).mp (one service name)⟩

/-- A page is loaded with validation although its process declares two activities of the same
service and name. -/
theorem two_activities_go_by_one_name :
    ∃ flow t, (loadedStock "check" "check").Ends (.ok flow) t
      ∧ flow.GoesBy "shop" "check" 1 ∧ flow.GoesBy "shop" "check" 3 := by
  obtain ⟨flow, t, ends, hflow⟩ := exists_ends_ok (loadedStock "check" "check")
    (fun flow => decide (flow.identities[1]? = some (false, "shop", "check")
      ∧ flow.identities[3]? = some (false, "shop", "check"))) (by decide +kernel)
  obtain ⟨first, second⟩ := of_decide_eq_true hflow
  exact ⟨flow, t, ends, Flow.goesBy_iff_identities.mpr first,
    Flow.goesBy_iff_identities.mpr second⟩

end Load

end Pageflow
