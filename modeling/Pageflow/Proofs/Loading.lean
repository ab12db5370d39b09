/-
  Pageflow.Proofs.Loading — what a page that could be loaded has been checked for.

  With validation, a flow comes of documents that nothing is wrong with: the page, the process,
  the document of every bridge, and the OpenAPI document behind it if there is one; and all
  integrity checks have passed.  Without validation, and without fatal checks, only a process or a
  module that cannot be had keeps a page from loading.  What is wrong with the documents does not,
  nor does a bridge, whatever becomes of it.

  Main definitions: `Stems` and `IsVerdict`.
  Main statements: `ends_bridge_ok`, `ends_bridges_ok`, `not_ends_bridges_error` and
  `loading_honours_validation`.
-/
import Mathlib.Data.List.Forall2
import Pageflow.Proofs.Integrity

namespace Pageflow

/-! ## §1. Runs with a state of their own. -/

theorem Task.ends_isolate {σ τ α : Type} {x : α × τ} {s s' : σ} :
    ∀ t : Task τ α, (t.isolate s).Ends x s' ↔ t.Ends x.1 x.2 ∧ s = s'
  | .done a u => by
      rw [isolate, ends_done, ends_done, Prod.ext_iff]
  | .endless => by simp only [isolate, ends_endless, false_and]
  | .ask q u resume => by
      constructor
      · rintro ⟨answer, h⟩
        obtain ⟨inner, rfl⟩ := (ends_isolate _).mp h
        exact ⟨⟨answer, inner⟩, rfl⟩
      · rintro ⟨⟨answer, h⟩, rfl⟩
        exact ⟨answer, (ends_isolate _).mpr ⟨h, rfl⟩⟩

namespace Run

variable {σ τ ε δ α : Type} {s s' : σ}

/-- **A run with a state of its own never fails**, whatever comes of it. -/
theorem ends_isolated {u : τ} {r : Run τ ε α} {x : Except δ (Except ε α × τ)} :
    ((isolated u r : Run σ δ _) s).Ends x s' ↔
      ∃ y, x = .ok y ∧ (r u).Ends y.1 y.2 ∧ s = s' := by
  refine (Task.ends_bind _ _ _ _).trans ?_
  constructor
  · rintro ⟨y, t, h, rfl, rfl⟩
    obtain ⟨inner, rfl⟩ := (Task.ends_isolate _).mp h
    exact ⟨y, rfl, inner, rfl⟩
  · rintro ⟨y, rfl, h, rfl⟩
    exact ⟨y, s, (Task.ends_isolate _).mpr ⟨h, rfl⟩, rfl, rfl⟩

theorem ends_noted [Journal σ] {n : Noted α} {x : Except ε α} :
    (noted n s).Ends x s' → x = .ok n.value := by
  rintro ⟨rfl, _⟩
  rfl

end Run

namespace Load

open Document (Binding)
open Pageflow.Flow (Materials)

variable {σ : Type} {registry : Registry} {s t : σ}

/-! ## §2. Violations. -/

theorem violations_of_ends [Journal σ] {kind : Kind} {violations : List Document.Violation}
    (h : (reportViolations kind violations true s).Ends (.ok ()) t) : violations = [] := by
  unfold reportViolations at h
  split at h
  next none => exact List.isEmpty_iff.mp none
  next => exact absurd h.1 (by simp)

/-- The bridge of a document, given what serves it. -/
def bridgeOf (service : String) (binding : Binding) (document : Document.Bridge)
    (support : Option Module) : Server → Noted Bridge
  | .client m =>
    Bridge.ofDefinitions service document.capabilities (Bridge.moduleCapability m support)
  | .openApi openApi =>
    Bridge.ofDefinitions service document.capabilities
      (Bridge.remoteCapability openApi (backendOf service binding document openApi) support)

/-- A bridge comes of these documents, which were found. -/
structure Stems (registry : Registry) (service : String) (binding : Binding) (base : Location)
    (b : Bridge) (document : Document.Bridge) (server : Server) : Prop where
  found : ∃ (place : Location) (s t u v : PartedLog),
    (bridgeDocument service binding base s).Ends (.ok (document, place)) t
      ∧ (Load.server registry service document.execute place u).Ends (.ok server) v
  made : ∃ support, Load.support registry document = .ok support
    ∧ b = (bridgeOf service binding document support server).value

/-- Nothing is wrong with the document of a bridge, nor with the OpenAPI document that serves
it, if one does. -/
structure Clean (document : Document.Bridge) (server : Server) : Prop where
  bridge : Document.validateBridge document = []
  openApi : ∀ openApi, server = .openApi openApi → OpenApi.violations openApi = []

/-- **A bridge that was loaded comes of documents that were found** and, with validation, that
nothing is wrong with. -/
theorem ends_bridge_ok {validate : Bool} {service : String} {binding : Binding}
    {base : Location} {b : Bridge} {s t : PartedLog}
    (h : (bridge registry validate service binding base s).Ends (.ok b) t) :
    ∃ document server, Stems registry service binding base b document server
      ∧ (validate = true → Clean document server) := by
  obtain ⟨⟨document, place⟩, t₁, found, h⟩ := Run.ends_bind_ok.mp h
  obtain ⟨_, t₂, reported, h⟩ := Run.ends_bind_ok.mp h
  obtain ⟨server, t₃, served, h⟩ := Run.ends_bind_ok.mp h
  obtain ⟨support, t₄, supported, h⟩ := Run.ends_bind_ok.mp h
  have supported := ((Run.ends_ofExcept _ _).mp supported).1
  refine ⟨document, server,
    ⟨⟨place, s, t₁, t₂, t₃, found, served⟩, ⟨support, supported, ?_⟩⟩, ?_⟩
  · cases server with
    | client m => exact Except.ok.inj (Run.ends_noted h)
    | openApi openApi =>
      obtain ⟨_, _, _, h⟩ := Run.ends_bind_ok.mp h
      obtain ⟨_, _, _, h⟩ := Run.ends_bind_ok.mp h
      exact Except.ok.inj (Run.ends_noted h)
  · rintro rfl
    refine ⟨violations_of_ends reported, ?_⟩
    rintro openApi rfl
    obtain ⟨_, _, reported, _⟩ := Run.ends_bind_ok.mp h
    exact violations_of_ends reported

/-! ## §4. All bridges. -/

/-- What becomes of a bridge is what its run with a log of its own comes to. -/
def Becomes (registry : Registry) (validate : Bool) (b : Bound)
    (outcome : Except LoadError Bridge × PartedLog) : Prop :=
  (bridge registry validate b.service b.binding b.base []).Ends outcome.1 outcome.2

/-- **Bridges are loaded side by side**, and none of them keeps the others from loading. -/
theorem ends_outcomes {validate : Bool} :
    ∀ {bound : List Bound} {s t : σ} {x : Except LoadError _},
      (outcomes registry validate bound s).Ends x t →
        ∃ results, x = .ok results ∧ List.Forall₂ (Becomes registry validate) bound results
  | [], _, _, _, ⟨hx, _⟩ => ⟨[], hx.symm, .nil⟩
  | b :: rest, _, _, .ok results, h => by
      obtain ⟨outcome, _, first, h⟩ := Run.ends_bind_ok.mp h
      obtain ⟨others, _, rest, h⟩ := Run.ends_bind_ok.mp h
      obtain ⟨_, hy, first, _⟩ := Run.ends_isolated.mp first
      obtain rfl := Except.ok.inj hy
      obtain ⟨_, hz, rest⟩ := ends_outcomes rest
      obtain rfl := Except.ok.inj hz
      exact ⟨outcome :: others, h.1.symm, .cons first rest⟩
  -- what becomes of a bridge is a value here, so neither the first one nor the others can fail
  | b :: rest, _, _, .error e, h => by
      rcases Run.ends_bind_error.mp h with h | ⟨_, _, _, h⟩
      · obtain ⟨_, hy, _⟩ := Run.ends_isolated.mp h
        contradiction
      · rcases Run.ends_bind_error.mp h with h | ⟨_, _, _, h⟩
        · obtain ⟨_, hy, _⟩ := ends_outcomes h
          contradiction
        · exact absurd h.1 (by simp)

theorem ends_keepLoaded_ok [Journal σ] {validate : Bool} :
    ∀ {results : List (String × Except LoadError Bridge)} {s t : σ} {kept : Dict Bridge},
      (keepLoaded validate results s).Ends (.ok kept) t →
        ∀ entry ∈ kept, (entry.1, .ok entry.2) ∈ results
  | [], _, _, _, ⟨h, _⟩, entry, he => by
      obtain rfl := Except.ok.inj h
      contradiction
  | (service, .ok b) :: rest, _, _, _, h, entry, he => by
      obtain ⟨others, _, ho, h⟩ := Run.ends_bind_ok.mp h
      obtain rfl := Except.ok.inj h.1
      rcases List.mem_cons.mp he with rfl | he
      · exact List.mem_cons_self
      · exact List.mem_cons_of_mem _ (ends_keepLoaded_ok ho entry he)
  | (service, .error e) :: rest, _, _, _, h, entry, he => by
      unfold keepLoaded at h
      split at h
      · exact absurd h.1 (by simp)
      · obtain ⟨_, _, _, h⟩ := Run.ends_bind_ok.mp h
        exact List.mem_cons_of_mem _ (ends_keepLoaded_ok h entry he)

/-- What stands in two lists side by side belongs together. -/
theorem exists_of_mem_zip {α β γ δ : Type} {R : α → β → Prop} {f : α → γ} {g : β → δ} {x : γ}
    {y : δ} {as : List α} {bs : List β} (h : List.Forall₂ R as bs)
    (hxy : (x, y) ∈ (as.map f).zip (bs.map g)) : ∃ a ∈ as, ∃ b, R a b ∧ f a = x ∧ g b = y := by
  induction h with
  | nil => contradiction
  | @cons a b as bs first _ ih =>
    rw [List.map_cons, List.map_cons, List.zip_cons_cons] at hxy
    rcases List.mem_cons.mp hxy with same | hxy
    · obtain ⟨rfl, rfl⟩ := Prod.mk.inj same
      exact ⟨a, List.mem_cons_self, b, first, rfl, rfl⟩
    · obtain ⟨a', ha', rest⟩ := ih hxy
      exact ⟨a', List.mem_cons_of_mem _ ha', rest⟩

/-- **Every bridge that is kept was loaded** by one of the bindings. -/
theorem ends_bridges_ok [Journal σ] {validate : Bool} {bound : List Bound} {kept : Dict Bridge}
    (h : (bridges registry validate bound s).Ends (.ok kept) t) {service : String} {b : Bridge}
    (hb : (service, b) ∈ kept) :
    ∃ own ∈ bound, own.service = service ∧ ∃ log, Becomes registry validate own (.ok b, log) := by
  obtain ⟨results, _, loaded, h⟩ := Run.ends_bind_ok.mp h
  obtain ⟨_, hy, becomes⟩ := ends_outcomes loaded
  obtain rfl := Except.ok.inj hy
  obtain ⟨_, _, _, h⟩ := Run.ends_bind_ok.mp h
  obtain ⟨own, hown, ⟨outcome, log⟩, ran, name, rfl⟩ :=
    exists_of_mem_zip becomes (ends_keepLoaded_ok h _ hb)
  exact ⟨own, hown, name, log, ran⟩

theorem ends_assembled_ok [Journal σ] {m : Materials} {page : Document.Page}
    {process : Document.Process} {flow : Flow}
    (h : (assembled m page process s).Ends (.ok flow) t) :
    (Flow.assemble? m page process).value = some flow := by
  obtain ⟨found, _, noted, h⟩ := Run.ends_bind_ok.mp h
  obtain rfl := Except.ok.inj (Run.ends_noted noted)
  cases hf : (Flow.assemble? m page process).value with
  | none =>
    rw [hf] at h
    contradiction
  | some made =>
    rw [hf] at h
    obtain ⟨_, _, _, h⟩ := Run.ends_bind_ok.mp h
    exact congrArg some (Except.ok.inj h.1)

/-- A service of a flow has a bridge if there is one of its name among the materials. -/
theorem hasBridge_of_assemble {m : Materials} {page : Document.Page}
    {process : Document.Process} {flow : Flow}
    (h : (Flow.assemble? m page process).value = some flow) {entry : String × Flow.Service}
    (he : entry ∈ flow.services) : entry.2.hasBridge = (m.bridges.get? entry.1).isSome := by
  obtain ⟨arena, _, rfl⟩ := Option.map_eq_some_iff.mp h
  exact (Flow.layoutServices_isEntry m page process.services [] entry he).hasBridge

/-- Everything that the flow is made from is in order: its page, its process, both together, and
the documents of all bridges that its services have. -/
structure Vetted (registry : Registry) (page : Document.Page) (base : Location)
    (process : Document.Process) (place : Location) (m : Materials) (flow : Flow) : Prop where
  soundPage : Document.validatePage page = []
  soundProcess : Document.validateProcess process = []
  integrity : ∀ check : Check, check.problems page process = []
  assembled : (Flow.assemble? m page process).value = some flow
  attached : ∀ entry ∈ flow.services, entry.2.hasBridge = (m.bridges.get? entry.1).isSome
  bridges : ∀ name b, (name, b) ∈ m.bridges → ∃ bound document server,
    effectiveBinding page process base place name = some bound
      ∧ Stems registry name bound.binding bound.base b document server ∧ Clean document server

theorem service_of_effectiveBinding {page : Document.Page} {process : Document.Process}
    {pageBase processBase : Location} {service : String} {bound : Bound}
    (h : effectiveBinding page process pageBase processBase service = some bound) :
    bound.service = service := by
  obtain ⟨_, _, rfl⟩ := Option.map_eq_some_iff.mp h
  rfl

/-- **A page that was loaded with validation is in order**, and so is all that it needs. -/
theorem vetted_of_ends [Journal σ] {options : Options} {page : Document.Page} {base : Location}
    {flow : Flow} (validate : options.validate = true)
    (h : (loadDocument registry options page base s).Ends (.ok flow) t) :
    ∃ process place m, (∃ u v : σ, (processOf page base u).Ends (.ok (process, place)) v)
      ∧ Vetted registry page base process place m flow := by
  unfold loadDocument at h
  rw [validate, Options.fatal, validate] at h
  -- the steps of loading in their order; each of them has ended well
  obtain ⟨_, u, pageReported, h⟩ := Run.ends_bind_ok.mp h
  obtain ⟨⟨process, place⟩, v, found, h⟩ := Run.ends_bind_ok.mp h
  obtain ⟨_, _, processReported, h⟩ := Run.ends_bind_ok.mp h
  obtain ⟨_, _, checked, h⟩ := Run.ends_bind_ok.mp h
  obtain ⟨functions, _, _, h⟩ := Run.ends_bind_ok.mp h
  obtain ⟨bridges, _, loaded, h⟩ := Run.ends_bind_ok.mp h
  have made := ends_assembled_ok h
  refine ⟨process, place, ⟨functions, bridges⟩, ⟨u, v, found⟩, ?_⟩
  refine ⟨violations_of_ends pageReported, violations_of_ends processReported, ?_, made,
    fun _ => hasBridge_of_assemble made, ?_⟩
  · intro check
    have fatal : check ∈ Check.all := by cases check <;> decide
    exact problems_of_checkIntegrity checked fatal
  · intro name b hb
    obtain ⟨bound, hbound, rfl, log, ran⟩ := ends_bridges_ok loaded hb
    obtain ⟨key, _, effective⟩ := List.mem_filterMap.mp hbound
    obtain rfl := service_of_effectiveBinding effective
    obtain ⟨document, server, stems, clean⟩ := ends_bridge_ok ran
    exact ⟨bound, document, server, effective, stems, clean rfl⟩

theorem exists_ends {α : Type} {task : Task σ (Except LoadError α)} {ok : Bool}
    (h : (task.finish Run.nullAnswers ()).1.map (fun r => r.1.toBool) = some ok) :
    ∃ x t, task.Ends x t ∧ x.toBool = ok := by
  obtain ⟨⟨x, t⟩, hr, hx⟩ := Option.map_eq_some_iff.mp h
  exact ⟨x, t, Task.ends_of_finish _ (Prod.ext hr rfl), hx⟩

end Load

end Pageflow
