/-
  Pageflow.Proofs.References — whatever a document names is there.

  The check of a process has an index of its own: a walk over the documents collects the names of
  all activities, and apart from them the names at the top.  The arena is laid out by another walk.
  Both meet the same activities, those inside others and inside references included, so a required
  activity that is in the index is in the arena.  Services look activities up by name; the entries
  of sequences are compared with the names at the top, and these are the ones that are found.  So a
  sequence that was checked never stops because of a name that nothing goes by.

  Main definitions: `bearings`, the names of an activity and what it requires, and `Run.FailsAs`.
  Main statement: `checked_references_resolve`.
-/
import Pageflow.Proofs.Errands
import Pageflow.Proofs.Identity
import Pageflow.Proofs.Integrity
import Pageflow.Proofs.Keeping

namespace Pageflow

open Document (processService)

/-! ## §1. The index of a check. -/

namespace Load

variable {process : Document.Process} {service name : String} {a : Document.Activity}

theorem mem_declaredIn_self (service name : String) (a : Document.Activity) :
    ⟨service, name, a⟩ ∈ declaredIn service name a := by
  obtain ⟨_, _, _, _, _, _, _, _, _, _, _, _⟩ := a
  exact List.mem_cons_self

/-- What a service has at its top is in the index. -/
theorem mem_declared_of_service {s : Document.Service} (hs : (service, s) ∈ process.services)
    (ha : (name, a) ∈ s.activities) : ⟨service, name, a⟩ ∈ declared process := by
  refine List.mem_append_left _ (List.mem_flatMap.mpr ⟨(service, s), hs, ?_⟩)
  show _ ∈ declaredAll service s.activities
  rw [Flow.Trait.declaredAll_eq_flatMap]
  exact List.mem_flatMap.mpr ⟨(name, a), ha, mem_declaredIn_self service name a⟩

theorem mem_declared_of_common (ha : (name, .definition a) ∈ process.common.activities) :
    ⟨processService, name, a⟩ ∈ declared process :=
  List.mem_append_right _
    (List.mem_flatMap.mpr ⟨(name, .definition a), ha, mem_declaredIn_self processService name a⟩)

/-- What passes the check requires activities of the index only. -/
theorem mem_names_of_requiredProblems (h : requiredProblems process = []) {d : Declared}
    (hd : d ∈ declared process) {r : Document.Required} (hr : r ∈ d.activity.requiredActivities) :
    (r.serviceName.getD d.service, r.activityName) ∈ names process := by
  by_contra unknown
  have problem : Problem.unknownRequired d.service d.name (r.serviceName.getD d.service)
      r.activityName ∈ requiredProblems process := by
    refine List.mem_flatMap.mpr ⟨d, hd, List.mem_filterMap.mpr ⟨r, hr, ?_⟩⟩
    simp [unknown]
  rw [h] at problem
  contradiction

/-- What passes the check has sequences of activities at the top only. -/
theorem mem_topLevel_of_sequenceProblems (h : sequenceProblems process = [])
    {sequences : Dict Document.Sequence}
    (hs : (service, sequences) ∈ (process.services.map fun (service, s) => (service, s.sequences))
      ++ [(processService, process.common.sequences)])
    {sequence : Document.Sequence} (hq : (name, sequence) ∈ sequences) {activity : String}
    (ha : activity ∈ sequence.activities) : (service, activity) ∈ topLevel process := by
  by_contra unknown
  have problem : Problem.unknownStep service name activity ∈ sequenceProblems process := by
    refine List.mem_flatMap.mpr ⟨_, hs, List.mem_flatMap.mpr ⟨_, hq, ?_⟩⟩
    refine List.mem_filterMap.mpr ⟨activity, ha, ?_⟩
    simp [unknown]
  rw [h] at problem
  contradiction

end Load

/-! ## §2. The index and the arena. -/

namespace Flow

variable {m : Materials} {page : Document.Page} {process : Document.Process} {flow : Flow}
  {service name : String}

/-- By which names an activity goes, whether it is generated, and what it requires. -/
def bearings : Trait (Bool × String × String × List Document.Required) where
  shown a := (a.isGenerated, a.service, a.name, a.required)
  declared d := (false, d.service, d.name, d.activity.requiredActivities)
  reference _ name _ := (false, processService, name, [])
  laid _ _ _ _ _ _ _ _ := rfl
  arranged _ _ a := by
    cases a
    rfl
  forwards _ _ _ _ _ _ := rfl

/-- Every name of the index is that of a declared activity, or of a reference. -/
theorem exists_bearings_of_mem_names (services : Dict Service)
    (h : (service, name) ∈ Load.names process) :
    ∃ required, (false, service, name, required) ∈ (Load.declared process).map bearings.declared
      ++ bearings.references services process.common.activities := by
  have ofDeclared : ∀ {d : Load.Declared}, d ∈ Load.declared process →
      ∃ required, (false, d.service, d.name, required) ∈
        (Load.declared process).map bearings.declared
          ++ bearings.references services process.common.activities :=
    fun hd => ⟨_, List.mem_append_left _ (List.mem_map_of_mem hd)⟩
  rcases List.mem_append.mp h with h | h
  · rcases List.mem_append.mp h with h | h
    · obtain ⟨⟨service', s⟩, hs, h⟩ := List.mem_flatMap.mp h
      obtain ⟨name', hname, h⟩ := List.mem_map.mp h
      obtain ⟨rfl, rfl⟩ := Prod.mk.inj h
      obtain ⟨⟨_, a⟩, ha, rfl⟩ := List.mem_map.mp hname
      exact ofDeclared (Load.mem_declared_of_service hs ha)
    · obtain ⟨name', hname, h⟩ := List.mem_map.mp h
      obtain ⟨rfl, rfl⟩ := Prod.mk.inj h
      obtain ⟨⟨name', entry⟩, he, rfl⟩ := List.mem_map.mp hname
      cases entry with
      | definition a => exact ofDeclared (Load.mem_declared_of_common he)
      -- a reference is no declared activity, but it has a place of its own in the arena
      | reference r =>
        exact ⟨[], List.mem_append_right _ (List.mem_filterMap.mpr ⟨_, he, rfl⟩)⟩
  · obtain ⟨d, hd, h⟩ := List.mem_map.mp h
    obtain ⟨rfl, rfl⟩ := Prod.mk.inj h
    exact ofDeclared hd

/-- **Every name of the index is the name of an activity of the arena.** -/
theorem IsBuilt.exists_goesBy (hb : IsBuilt m page process flow)
    (h : (service, name) ∈ Load.names process) : ∃ k, flow.GoesBy service name k := by
  obtain ⟨required, h⟩ :=
    exists_bearings_of_mem_names (declared m page process).value.services h
  obtain ⟨a, ha, shown⟩ :=
    List.mem_map.mp ((bearings.declared_perm m page process).mem_iff.mpr h)
  obtain ⟨k, hk⟩ := List.mem_iff_getElem?.mp ha
  obtain ⟨b, hb, retains, _⟩ := hb.rounded.at hk
  obtain ⟨generated, hservice, hname, _⟩ : a.isGenerated = false ∧ a.service = service
      ∧ a.name = name ∧ a.required = required := by
    simpa only [bearings, Prod.mk.injEq] using shown
  refine ⟨k, b, hb, retains.isGenerated.trans generated, retains.service.trans hservice, ?_⟩
  rw [retains]
  exact hname

/-- What an activity of the arena requires is required by a declared activity of its service. -/
theorem IsBuilt.exists_declared_of_required (hb : IsBuilt m page process flow) {b : Activity}
    (hmem : b ∈ flow.arena) {r : Document.Required} (hr : r ∈ b.required) :
    ∃ d ∈ Load.declared process, d.service = b.service ∧ r ∈ d.activity.requiredActivities := by
  obtain ⟨k, hk⟩ := List.mem_iff_getElem?.mp hmem
  by_cases generated : b.isGenerated = true
  · -- a maker of a value requires nothing
    rw [((hb.orderly.placed k b hk).generated generated).required] at hr
    contradiction
  · rw [Bool.not_eq_true] at generated
    have hlt := (hb.isGenerated_iff hk).mp generated
    obtain ⟨b', hb', retains, _⟩ := hb.rounded.at (List.getElem?_eq_getElem hlt)
    obtain rfl := Option.some.inj (hk.symm.trans hb')
    have shown := (bearings.declared_perm m page process).mem_iff.mp
      (List.mem_map_of_mem (List.getElem_mem hlt))
    generalize (declared m page process).value.arena[k] = a at retains shown
    have required : b.required = a.required := by rw [retains]
    rw [required] at hr
    rcases List.mem_append.mp shown with h | h
    · obtain ⟨d, hd, h⟩ := List.mem_map.mp h
      obtain ⟨_, service, _, listed⟩ : false = a.isGenerated ∧ d.service = a.service
          ∧ d.name = a.name ∧ d.activity.requiredActivities = a.required := by
        simpa only [bearings, Prod.mk.injEq] using h
      exact ⟨d, hd, service.trans retains.service.symm, listed.symm ▸ hr⟩
    · obtain ⟨⟨_, entry⟩, _, h⟩ := List.mem_filterMap.mp h
      cases entry with
      | definition => contradiction
      | reference =>
        obtain ⟨_, _, _, none⟩ : _ ∧ _ ∧ _ ∧ [] = a.required := by
          simpa only [bearings, Prod.mk.injEq] using Option.some.inj h
        rw [← none] at hr
        contradiction

/-- The service finds an activity of its own under this name. -/
def Finds (flow : Flow) (service name : String) : Prop :=
  ∃ k, flow.find? service name = some k ∧ flow.GoesBy service name k

/-- Whatever has an address at the top is found. -/
theorem Addressed.finds {place : Document.Address → Nat} {ui : Document.Ui}
    {declared? : String → Option Document.CommonActivity} {made : Service}
    (addressed : Addressed process flow place service ui declared? made)
    (f : IsForest m process flow place) {entry : Document.CommonActivity}
    (h : declared? name = some entry) : flow.Finds service name := by
  obtain ⟨address, hd, found⟩ := addressed.activities name entry h
  exact ⟨place address, found, f.goesBy_iff.mpr ⟨address, ⟨_, hd, rfl, rfl⟩, rfl⟩⟩

/-- A service, or the process, has the activities that are at its top in the index. -/
theorem IsBuilt.finds_of_mem_topLevel (hb : IsBuilt m page process flow)
    (keyed : Dict.Keyed process.services) (other : processService ∉ process.services.keys)
    (h : (service, name) ∈ Load.topLevel process) : flow.Finds service name := by
  obtain ⟨place, f⟩ := hb.forest
  rcases List.mem_append.mp h with h | h
  · obtain ⟨⟨service', s⟩, hs, h⟩ := List.mem_flatMap.mp h
    obtain ⟨name', hname, h⟩ := List.mem_map.mp h
    obtain ⟨rfl, rfl⟩ := Prod.mk.inj h
    have hne : service' ≠ processService := by
      rintro rfl
      exact other (List.mem_map_of_mem hs)
    obtain ⟨a, ha⟩ := Dict.exists_get?_of_mem_keys hname
    obtain ⟨made, addressed, _⟩ := f.addressed_service hb (keyed.get?_of_mem hs) hne
    exact addressed.finds f (by rw [ha, Option.map_some])
  · obtain ⟨name', hname, h⟩ := List.mem_map.mp h
    obtain ⟨rfl, rfl⟩ := Prod.mk.inj h
    obtain ⟨entry, he⟩ := Dict.exists_get?_of_mem_keys hname
    exact (f.addressed_process hb).finds f he

/-- The services of a built flow, the process included, have the sequences that were checked. -/
theorem IsBuilt.sequences_of_mem (hb : IsBuilt m page process flow) {s : Service}
    (hs : s ∈ flow.allServices) :
    (s.name, s.sequences) ∈ (process.services.map fun (service, s) => (service, s.sequences))
      ++ [(processService, process.common.sequences)] := by
  rcases List.mem_append.mp hs with hs | hs
  · obtain ⟨⟨name, made⟩, hmade, rfl⟩ := List.mem_map.mp hs
    obtain ⟨i, hi⟩ := List.mem_iff_getElem?.mp hmade
    have related := hb.services_related.flip
    obtain ⟨⟨name', s⟩, hs, hname, describes⟩ := getElem?_of_forall₂ related hi
    have describes : IsServiceOf m page name' s made := describes
    refine List.mem_append_left _ (List.mem_map.mpr ⟨(name', s), List.mem_of_getElem? hs, ?_⟩)
    rw [describes]
  · rw [List.mem_singleton.mp hs, hb.common_eq]
    exact List.mem_append_right _ List.mem_cons_self

/-- What a name denotes is one of the services, or the process. -/
theorem IsBuilt.mem_allServices (hb : IsBuilt m page process flow) {s : Service}
    (h : flow.service? service = some s) : s ∈ flow.allServices ∧ s.name = service := by
  unfold Flow.service? at h
  by_cases hp : service = processService
  · rw [if_pos hp] at h
    obtain rfl := Option.some.inj h
    refine ⟨List.mem_append_right _ List.mem_cons_self, ?_⟩
    rw [hp, hb.common_eq]
  · rw [if_neg hp] at h
    have hmem := Dict.mem_of_get? h
    obtain ⟨i, hi⟩ := List.mem_iff_getElem?.mp hmem
    obtain ⟨⟨name', d⟩, _, hname, describes⟩ :=
      getElem?_of_forall₂ hb.services_related.flip hi
    have describes : IsServiceOf m page name' d s := describes
    refine ⟨List.mem_append_left _ (List.mem_map_of_mem hmem), ?_⟩
    rw [describes]
    exact hname

end Flow

/-! ## §3. How runs fail. -/

/-- Nothing is relied on, and nothing is kept to. -/
def Terms.loose {σ : Type} : Terms σ := ⟨fun _ => True, fun _ _ => True, fun _ => True⟩

theorem Task.keeps_loose {σ α : Type} {E : α → Prop} (h : ∀ a, E a) :
    ∀ t : Task σ α, t.Keeps Terms.loose E
  | .done a _ => ⟨trivial, h a⟩
  | .endless => trivial
  | .ask _ _ resume => ⟨trivial, trivial, fun answer t _ _ => keeps_loose h (resume answer t)⟩

namespace Run

open Pageflow.Flow (Activity IsBuilt Materials)

/-- The run fails in such a way if at all, whatever the answers are and whatever others do while it
waits. -/
def FailsAs {σ ε α : Type} (E : ε → Prop) (r : Run σ ε α) : Prop :=
  ∀ s, (r s).Keeps Terms.loose fun outcome => ∀ e, outcome = .error e → E e

theorem failsAs_pure {σ ε α : Type} {E : ε → Prop} (a : α) :
    (Pure.pure a : Run σ ε α).FailsAs E :=
  fun _ => ⟨trivial, fun _ h => by contradiction⟩

theorem failsAs_bind {σ ε α β : Type} {E : ε → Prop} {r : Run σ ε α} {next : α → Run σ ε β}
    (hr : r.FailsAs E) (hn : ∀ a, (next a).FailsAs E) : (r >>= next).FailsAs E := by
  intro s
  refine (hr s).bind ?_
  intro outcome t h _
  cases outcome with
  | ok a => exact hn a t
  | error e =>
    refine ⟨trivial, ?_⟩
    rintro _ ⟨⟩
    exact h e rfl

/-- What is attempted may fail as it likes. -/
theorem failsAs_attempt_bind {σ ε δ α β : Type} {E : δ → Prop} (r : Run σ ε α)
    {next : Except ε α → Run σ δ β} (hn : ∀ x, (next x).FailsAs E) :
    ((attempt r : Run σ δ (Except ε α)) >>= next).FailsAs E := by
  intro s
  show (((r s).bind fun x t => Task.done (Except.ok (ε := δ) x) t).bind _).Keeps _ _
  rw [Task.bind_assoc]
  refine Task.Keeps.bind ?_ (Task.keeps_loose (E := fun _ => True) (fun _ => trivial) (r s))
  intro x t _ _
  exact hn x t

variable {flow : Flow} {service name : String}

/-- How an errand to an activity or a sequence that a service has may fail: the service runs
already, or an activity fails. -/
inductive Expected (service : String) : HostError → Prop
  | busy : Expected service (.alreadyRunning service)
  | activity (failure : ActivityFailure) : Expected service (.activity failure)

/-- An activity at the top fails as an activity. -/
theorem runTop_failsAs (place : Nat) (a : Activity) (shows : Bool) :
    (runTop flow service name place a shows).FailsAs (Expected service) := by
  refine failsAs_attempt_bind _ ?_
  intro outcome
  cases outcome with
  | ok result => exact failsAs_pure result
  | error failure =>
    intro s
    refine ⟨trivial, ?_⟩
    rintro _ ⟨⟩
    exact .activity failure

/-- Activities that are found fail as activities. -/
theorem runSteps_failsAs : ∀ {names : List String},
    (∀ name ∈ names, ∃ found, knownActivity flow service name = .ok found) →
      (runSteps flow service names).FailsAs (Expected service)
  | [], _ => failsAs_pure []
  | name :: rest, known => by
      obtain ⟨⟨place, a⟩, found⟩ := known name List.mem_cons_self
      rw [runSteps, found]
      show (runTop flow service name place a true >>= fun result =>
        runSteps flow service rest >>= fun results => pure (result :: results)).FailsAs _
      refine failsAs_bind (runTop_failsAs place a true) fun result => ?_
      refine failsAs_bind (runSteps_failsAs fun name h => known name (List.mem_cons_of_mem _ h)) ?_
      exact fun results => failsAs_pure (result :: results)

/-- The mark of a service adds one failure: that it is taken. -/
theorem guarded_failsAs {α : Type} {r : Run State HostError α} (h : r.FailsAs (Expected service)) :
    (guarded service name r).FailsAs (Expected service) := by
  intro s
  cases hs : s.running? service with
  | some other =>
    rw [guarded_of_busy hs]
    refine ⟨trivial, ?_⟩
    rintro _ ⟨⟩
    exact .busy
  | none =>
    rw [guarded_of_free hs]
    refine (h (s.occupy service name)).bind ?_
    intro outcome t expected _
    exact ⟨trivial, expected⟩

/-! ## §4. Checked documents. -/

variable {m : Materials} {page : Document.Page} {process : Document.Process}

theorem exists_knownActivity (h : flow.Finds service name) :
    ∃ found, knownActivity flow service name = .ok found := by
  obtain ⟨k, hk, a, ha, _⟩ := h
  refine ⟨(k, a), ?_⟩
  rw [knownActivity, hk, Option.bind_some, ha]
  rfl

/-- **What was checked is there.**  Let the required activities and the sequences of a page and its
process have passed their check, let no declared service have the name of the process, and no two
the same name.  Then in every flow that is built from them whatever an activity requires is an
activity of the arena that is not generated, and every entry of every sequence is found in its
service.  So a declared sequence ends in any state, whatever the answers are and whatever others do
meanwhile; and if it fails, then because its service runs or an activity fails, never because of an
unknown name. -/
theorem checked_references_resolve {σ : Type} [Journal σ] (hb : IsBuilt m page process flow)
    (keyed : Dict.Keyed process.services) (other : processService ∉ process.services.keys)
    {fatal : List Load.Check} (required : .requiredActivities ∈ fatal)
    (sequences : .sequences ∈ fatal) {before after : σ}
    (passed : (Load.checkIntegrity fatal page process before).Ends (.ok ()) after) :
    (∀ a ∈ flow.arena, ∀ r ∈ a.required,
        ∃ k, flow.GoesBy (r.serviceName.getD a.service) r.activityName k)
      ∧ (∀ s ∈ flow.allServices, ∀ entry ∈ s.sequences, ∀ name ∈ entry.2.activities,
          flow.Finds s.name name)
      ∧ ∀ service name s sequence, flow.service? service = some s →
          s.sequences.get? name = some sequence →
          ∀ state, (executeSequence flow service name state).Terminates
            ∧ (executeSequence flow service name state).Keeps Terms.loose fun outcome =>
                ∀ e, outcome = .error e → Expected service e := by
  have noRequired := Load.problems_of_checkIntegrity passed required
  have noSequences := Load.problems_of_checkIntegrity passed sequences
  -- a sequence of a service of the flow is one of those that the check has compared
  have found : ∀ s ∈ flow.allServices, ∀ entry ∈ s.sequences, ∀ name ∈ entry.2.activities,
      flow.Finds s.name name := by
    intro s hs entry he name hn
    exact hb.finds_of_mem_topLevel keyed other
      (Load.mem_topLevel_of_sequenceProblems noSequences (hb.sequences_of_mem hs) he hn)
  refine ⟨?_, found, ?_⟩
  · intro a ha r hr
    obtain ⟨d, hd, service, hr⟩ := hb.exists_declared_of_required ha hr
    rw [← service]
    exact hb.exists_goesBy (Load.mem_names_of_requiredProblems noRequired hd hr)
  · intro service name s sequence hs hq state
    obtain ⟨hmem, rfl⟩ := hb.mem_allServices hs
    have known : knownSteps flow s.name name = .ok sequence.activities := by
      simp only [knownSteps, knownService, hs, hq]
    constructor
    · exact (executeSequence_closed (hostSteps_showing flow).toClosed (hostParts_within hb.orderly)
        s.name name state).terminates
    · rw [executeSequence_eq, known]
      refine guarded_failsAs (runSteps_failsAs ?_) state
      intro activity ha
      exact exists_knownActivity (found s hmem _ (Dict.mem_of_get? hq) activity ha)

/-! ## §5. A depot. -/


/-- A depot that loads, with a check inside, and ships; the process loads it again, by a reference
with an audit inside.  To ship needs the check and the reference, the audit needs shipping. -/
def depotProcess : Document.Process where
  services := [("depot",
    { activities := [
        ("load",
          { moduleFunction := some "count"
            subActivities := [("check", { moduleFunction := some "count" })] }),
        ("ship",
          { moduleFunction := some "count"
            requiredActivities := [{ activityName := "check" },
              { serviceName := some processService, activityName := "again" }] })]
      sequences := [("day", { activities := ["load", "ship"] })] })]
  common :=
    { activities := [("again", .reference
        { serviceName := "depot"
          activityName := "load"
          subActivities := [("audit",
            { moduleFunction := some "count"
              requiredActivities := [
                { serviceName := some "depot", activityName := "ship" }] })] })]
      sequences := [("week", { activities := ["again"] })] }

def depotMaterials : Materials where
  functions := [("count", ⟨"depot", "count", []⟩)]
  bridges := []

def depotFlow : Flow := (Flow.assemble? depotMaterials {} depotProcess).value.getD default

/-- What the two checks of the depot come to. -/
def checkedDepot : Task (List Note) (Except Load.LoadError Unit) :=
  Load.checkIntegrity [.requiredActivities, .sequences] {} depotProcess []

/-- What shipping needs is there, and the day of the depot does not stop at a name. -/
theorem checked_references_resolve_depot :
    IsBuilt depotMaterials {} depotProcess depotFlow
      ∧ (∃ notes, checkedDepot.Ends (.ok ()) notes)
      ∧ (∃ k, depotFlow.GoesBy "depot" "check" k)
      ∧ (∃ k, depotFlow.GoesBy processService "again" k)
      ∧ depotFlow.Finds "depot" "ship"
      ∧ ∀ state, (executeSequence depotFlow "depot" "day" state).Terminates
        ∧ (executeSequence depotFlow "depot" "day" state).Keeps Terms.loose fun outcome =>
            ∀ e, outcome = .error e → Expected "depot" e := by
  have built : IsBuilt depotMaterials {} depotProcess depotFlow :=
    Flow.isBuilt_getD (by decide +kernel)
  have checked : ∃ notes, checkedDepot.Ends (.ok ()) notes :=
    Task.exists_ends_ok nullAnswers () (by decide +kernel)
  have ship : depotFlow.arena.any (fun a => a.service = "depot" ∧ a.required =
      [{ activityName := "check" },
        { serviceName := some processService, activityName := "again" }]) = true := by
    decide +kernel
  have day : (depotFlow.service? "depot").bind (fun s => s.sequences.get? "day")
      = some { activities := ["load", "ship"] } := by decide +kernel
  obtain ⟨notes, passed⟩ := checked
  obtain ⟨a, ha, h⟩ := List.any_eq_true.mp ship
  obtain ⟨service, required⟩ := of_decide_eq_true h
  obtain ⟨s, hs, hq⟩ := Option.bind_eq_some_iff.mp day
  obtain ⟨mem, name⟩ := built.mem_allServices hs
  obtain ⟨needed, listed, runs⟩ := checked_references_resolve built
    (List.nodup_singleton "depot") (by decide) (by decide) (by decide) passed
  have check := needed a ha { activityName := "check" } (by rw [required]; exact .head _)
  have again := needed a ha { serviceName := some processService, activityName := "again" }
    (by rw [required]; exact .tail _ (.head _))
  have found := listed s mem _ (Dict.mem_of_get? hq) "ship" (by decide)
  rw [service] at check
  rw [name] at found
  exact ⟨built, ⟨notes, passed⟩, check, again, found, runs _ _ s _ hs hq⟩

end Run

end Pageflow
