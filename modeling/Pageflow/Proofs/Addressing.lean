/-
  Pageflow.Proofs.Addressing — what is declared can be addressed.

  A loaded flow finds a service under its name, made of its description and ready to run, and finds
  an activity under the names of its service and its own, where the forest of declarations has it.
  The name of the process itself belongs to the process: a declared service of this name is there,
  but nothing finds it.

  Main definitions: `IsServiceOf`, `IsProcessOf` and `Addressed`.
  Main statement: `declared_activities_are_addressed`.
-/
import Pageflow.Proofs.Forest
import Pageflow.Proofs.Loading
import Pageflow.Proofs.Related
import Pageflow.Run.Host

namespace Pageflow

namespace Flow

open Document (processService Declaration Address CommonActivity)
open Document.Declaration (ofActivity)

/-! ## §1. Services and their descriptions. -/

/-- The service is made of this description, whatever activities it names. -/
def IsServiceOf (m : Materials) (page : Document.Page) (name : String) (s : Document.Service)
    (made : Service) : Prop :=
  made =
    { name
      title := titleOf name s (page.services.get? name)
      ui := s.ui
      activities := made.activities
      sequences := s.sequences
      autostart := s.autostart
        ++ ((page.services.get? name).map Document.PageService.autostart).getD []
      hasBridge := (m.bridges.get? name).isSome }

/-- The service stands for the process itself, whatever activities it names. -/
def IsProcessOf (page : Document.Page) (process : Document.Process) (made : Service) : Prop :=
  made =
    { name := processService
      title := nonEmptyOr process.title processService
      ui := process.common.ui
      activities := made.activities
      sequences := process.common.sequences
      autostart := process.common.autostart ++ page.common.autostart }

variable {m : Materials} {page : Document.Page} {process : Document.Process} {flow : Flow}
  {place : Address → Nat}

theorem layoutServices_related (m : Materials) (page : Document.Page) :
    ∀ (entries : List (String × Document.Service)) (before : List Activity),
      Dict.Related (IsServiceOf m page) entries (layoutServices m page before entries).value.2
  | [], _ => .nil
  | (_, _) :: rest, _ => .cons ⟨rfl, rfl⟩ (layoutServices_related m page rest _)

/-- The services of a built flow are those declared, in the same order. -/
theorem IsBuilt.services_related (hb : IsBuilt m page process flow) :
    Dict.Related (IsServiceOf m page) process.services flow.services := by
  obtain ⟨_, _, _, rfl⟩ := hb
  exact layoutServices_related m page process.services []

theorem IsBuilt.common_eq (hb : IsBuilt m page process flow) :
    IsProcessOf page process flow.common := by
  obtain ⟨_, _, _, rfl⟩ := hb
  rfl

theorem keyed_inputsOf (service : String) (ui : Document.Ui) : Dict.Keyed (inputsOf service ui) :=
  Dict.keyed_ofList _

/-- At the start a service has an empty store, and its inputs are registered. -/
theorem initialService_eq (s : Service) :
    Run.initialService s
      = { store := { name := s.name ++ " store" }, inputs := inputsOf s.name s.ui } := by
  have inputs : Dict.insertAll [] (inputsOf s.name s.ui) = inputsOf s.name s.ui :=
    Dict.ofList_of_keyed (keyed_inputsOf s.name s.ui)
  rw [Run.initialService, Run.ServiceState.register, Run.ServiceState.new, inputs]

/-! ## §2. Names and addresses. -/

/-- Under this name a flow finds a service with an empty store and these inputs, and finds the
activities of these entries where they are declared. -/
structure Addressed (process : Document.Process) (flow : Flow) (place : Address → Nat)
    (name : String) (ui : Document.Ui) (declared? : String → Option CommonActivity)
    (made : Service) : Prop where
  service : flow.service? name = some made
  initial : (Run.initial flow).service? name
    = some { store := { name := name ++ " store" }, inputs := inputsOf name ui }
  activities : ∀ activity entry, declared? activity = some entry →
    ∃ address, process.declaration? address = some ⟨name, activity, entry⟩
      ∧ flow.find? name activity = some (place address)

/-- A service finds an activity at the position at which it is declared. -/
theorem Names.get? {α : Type} {ds : List Declaration} {activities : Dict Nat}
    (names : Names place ds activities) {entries : Dict α}
    (keys : entries.keys = ds.map Declaration.name) {name : String} {a : α}
    (h : entries.get? name = some a) :
    ∃ (j : Nat) (d : Declaration), entries[j]? = some (name, a) ∧ ds[j]? = some d
      ∧ activities.get? name = some (place [j]) := by
  obtain ⟨j, hj, same⟩ := Dict.exists_index_of_get? Nat h
  have hlen : entries.length = ds.length := by
    rw [← List.length_map Prod.fst, ← List.length_map Declaration.name]
    exact congrArg List.length keys
  obtain ⟨hlt, _⟩ := List.getElem?_eq_some_iff.mp hj
  have hd := List.getElem?_eq_getElem (hlen ▸ hlt)
  refine ⟨j, _, hj, hd, ?_⟩
  rw [same activities (keys.trans names.keys.symm), names.getElem? hd]
  rfl

namespace IsForest

/-- A declared service is found, unless it has the name of the process. -/
theorem addressed_service (f : IsForest m process flow place) (hb : IsBuilt m page process flow)
    {name : String} {s : Document.Service} (hs : process.services.get? name = some s)
    (hne : name ≠ processService) :
    ∃ made, Addressed process flow place name s.ui
        (fun activity => (s.activities.get? activity).map .definition) made
      ∧ IsServiceOf m page name s made := by
  have related := hb.services_related
  obtain ⟨g, hg, same⟩ := Dict.exists_index_of_get? Service hs
  obtain ⟨⟨name', made⟩, hmade, hname, describes⟩ := getElem?_of_forall₂ related hg
  obtain rfl : name = name' := hname
  have describes : IsServiceOf m page name s made := describes
  have found : flow.services.get? name = some made := by
    rw [same flow.services related.keys_eq, hmade]
    rfl
  have service : flow.service? name = some made := by
    rw [Flow.service?, if_neg hne, found]
  have hds := Document.Process.tops_of_service hg
  have hall : flow.allServices[g]? = some made := by
    have hlt : g < flow.services.length := (List.getElem?_eq_some_iff.mp hmade).1
    rw [Flow.allServices, Dict.values,
      List.getElem?_append_left (by rw [List.length_map]; exact hlt), List.getElem?_map, hmade]
    rfl
  obtain ⟨made', hmade', names⟩ := f.exists_names hds
  obtain rfl := Option.some.inj (hall.symm.trans hmade')
  refine ⟨made, ⟨service, ?_, ?_⟩, describes⟩
  · rw [Run.State.service?, if_neg hne]
    show (flow.services.mapValues Run.initialService).get? name = _
    rw [Dict.get?_mapValues, found, Option.map_some, initialService_eq, describes]
  · intro activity entry h
    obtain ⟨a, ha, rfl⟩ := Option.map_eq_some_iff.mp h
    obtain ⟨j, _, hj, _, hget⟩ := names.get? (s.map_name_tops name).symm ha
    have hd : (s.tops name)[j]? = some (ofActivity name (activity, a)) := by
      rw [Document.Service.tops, List.getElem?_map, hj]
      rfl
    refine ⟨[g, j], Document.Process.declaration?_eq_some.mpr
      ⟨g, j, [], s.tops name, _, rfl, hds, hd, rfl⟩, ?_⟩
    rw [Flow.find?, service]
    exact hget

/-- The process itself is found under its name. -/
theorem addressed_process (f : IsForest m process flow place) (hb : IsBuilt m page process flow) :
    Addressed process flow place processService process.common.ui process.common.activities.get?
      flow.common := by
  have describes := hb.common_eq
  have hlen := hb.services_related.length_eq
  have hds := process.tops_of_common
  have hall : flow.allServices[process.services.length]? = some flow.common := by
    rw [hlen, Flow.allServices, Dict.values,
      List.getElem?_append_right (by rw [List.length_map]), List.length_map, Nat.sub_self]
    rfl
  obtain ⟨made', hmade', names⟩ := f.exists_names hds
  obtain rfl := Option.some.inj (hall.symm.trans hmade')
  have service : flow.service? processService = some flow.common := by
    rw [Flow.service?, if_pos rfl]
  refine ⟨service, ?_, ?_⟩
  · rw [Run.State.service?, if_pos rfl]
    show some (Run.initialService flow.common) = _
    rw [initialService_eq, describes]
  · intro activity entry ha
    obtain ⟨j, _, hj, _, hget⟩ := names.get? process.common.map_name_tops.symm ha
    have hd : process.common.tops[j]? = some ⟨processService, activity, entry⟩ := by
      rw [Document.Common.tops, List.getElem?_map, hj]
      rfl
    refine ⟨[process.services.length, j], Document.Process.declaration?_eq_some.mpr
      ⟨_, j, [], process.common.tops, _, rfl, hds, hd, rfl⟩, ?_⟩
    rw [Flow.find?, service]
    exact hget

end IsForest

end Flow

/-! ## §3. Loaded pages. -/

namespace Load

open Document (processService)
open Pageflow.Flow (Addressed IsBuilt IsForest IsProcessOf IsServiceOf Materials)

variable {σ : Type} [Journal σ] {registry : Registry} {options : Options} {page : Document.Page}
  {base : Location} {flow : Flow} {s t : σ}

/-- A task that gives something of this kind if nobody answers may end with it. -/
theorem exists_ends_ok {σ α : Type} (task : Task σ (Except LoadError α)) (p : α → Bool)
    (h : (task.finish Run.nullAnswers ()).1.any (fun r => r.1.toOption.any p) = true) :
    ∃ a t, task.Ends (.ok a) t ∧ p a = true := by
  obtain ⟨⟨outcome, t⟩, ht, hp⟩ := (Option.any_eq_true ..).mp h
  cases outcome with
  | error e => exact absurd hp Bool.false_ne_true
  | ok a => exact ⟨a, t, Task.ends_of_finish _ (Prod.ext ht rfl), hp⟩

theorem process_of_inline {inline process : Document.Process} {origin : Location} {u v : σ}
    (given : page.process.inline = some inline)
    (h : (processOf page base u).Ends (.ok (process, origin)) v) : process = inline := by
  unfold processOf at h
  rw [given] at h
  obtain ⟨h, _⟩ := h
  exact (Prod.mk.inj (Except.ok.inj h)).1.symm

end Load

end Pageflow
