/-
  Pageflow.Proofs.Integrity — stores that are read are written.

  The check of a page and its process looks at documents: every store that a definition reads has
  to be the slot of some `storeResult`.  The sources of a built flow go back to those definitions,
  and the activities that store go back to those declarations, so the check holds good for the
  flow: whatever an activity reads, some activity keeps its result in the same store, and under
  the same key up to its first dot.  A key without dots is looked up as it was written.  A key with
  a dot is looked up under the part before the dot, where nothing was written.

  Main definition: `Activity.Reads`.
  Main statement: `reads_are_written`.
-/
import Pageflow.Load.Page
import Pageflow.Proofs.Origins
import Pageflow.Proofs.Stored

namespace Pageflow

open Document (StoreScope StoreTarget processService)

/-! ## §1. The check. -/

namespace Load

theorem mem_storeTargetsOfAll {name : String} {p : Document.Parameter} {t : StoreTarget} :
    ∀ {ps : List (String × Document.Parameter)}, (name, p) ∈ ps → t ∈ storeTargets p →
      t ∈ storeTargetsOfAll ps
  | (_, _) :: _, hp, ht => by
      rw [storeTargetsOfAll]
      rcases List.mem_cons.mp hp with h | h
      · obtain ⟨rfl, rfl⟩ := Prod.mk.inj h
        exact List.mem_append_left _ ht
      · exact List.mem_append_right _ (mem_storeTargetsOfAll h ht)

/-- A definition reads the store that it names. -/
theorem mem_storeTargets_of_store {p : Document.Parameter} {t : StoreTarget}
    (h : p.store = some t) : t ∈ storeTargets p := by
  obtain ⟨_, _, _, _, _, store, _, _, _, _⟩ := p
  obtain rfl : store = some t := h
  exact List.mem_append_left _ List.mem_cons_self

/-- A definition reads what the definitions inside its generated value read. -/
theorem mem_storeTargets_of_generate {p : Document.Parameter} {g : Document.Generate}
    {t : StoreTarget} (hg : p.generate = some g) (h : t ∈ storeTargetsOfAll g.parameters) :
    t ∈ storeTargets p := by
  obtain ⟨_, _, _, _, _, _, _, generate, _, _⟩ := p
  obtain rfl : generate = some g := hg
  obtain ⟨_, _, _⟩ := g
  exact List.mem_append_right _ h

/-- Whatever is read in the documents is in a slot that is written. -/
def AllWritten (page : Document.Page) (process : Document.Process) : Prop :=
  ∀ r ∈ storeReads page process, slot r.service r.target ∈ writtenSlots process

theorem allWritten_of_storageProblems {page : Document.Page} {process : Document.Process}
    (h : storageProblems page process = []) : AllWritten page process := by
  intro r hr
  by_contra unwritten
  have problem : Problem.unwrittenStore r.owner r.target ∈ storageProblems page process := by
    refine List.mem_filterMap.mpr ⟨r, hr, ?_⟩
    simp [unwritten]
  rw [h] at problem
  contradiction

/-- **A check that passes finds no problems of the kinds that are fatal.** -/
theorem problems_of_checkIntegrity {σ : Type} [Journal σ] {fatal : List Check}
    {page : Document.Page} {process : Document.Process} {s t : σ}
    (h : (checkIntegrity fatal page process s).Ends (.ok ()) t) {check : Check}
    (hfatal : check ∈ fatal) : check.problems page process = [] := by
  obtain ⟨_, u, _, h⟩ := Run.ends_bind_ok.mp h
  have none : fatalProblems fatal page process = [] := by
    by_contra some
    have fails : (!(fatalProblems fatal page process).isEmpty) = true := by simpa using some
    simp only [fails, if_true] at h
    exact absurd h.1 (by simp)
  have ran : check ∈ Check.all.filter fatal.contains := by
    refine List.mem_filter.mpr ⟨?_, List.contains_iff_mem.mpr hfatal⟩
    cases check <;> decide
  exact List.flatMap_eq_nil_iff.mp none check ran

end Load

/-! ## §2. Definitions of a built flow. -/

namespace Flow

open Load (AllWritten slot storeTargets writtenSlots)

variable {m : Materials} {page : Document.Page} {process : Document.Process} {flow : Flow}

/-- The service and one of its shared parameters stand in one of the two documents. -/
theorem mem_sharedReads {service name : String} {p : Document.Parameter} {t : StoreTarget}
    (hp : (mappingOf m page process).shared? service name = some p) (ht : t ∈ storeTargets p) :
    ∃ r ∈ Load.storeReads page process, r.service = service ∧ r.target = t := by
  have read : ∀ {shared : Dict Document.SharedParameter} {d : Document.SharedParameter},
      shared.get? name = some d → d.toDefinition = p →
      ⟨.shared service name, service, t⟩ ∈ Load.sharedReads service shared := by
    rintro shared d hd rfl
    refine List.mem_flatMap.mpr ⟨(name, d), Dict.mem_of_get? hd, ?_⟩
    cases d with
    | field input => contradiction
    | definition q => exact List.mem_map_of_mem ht
  unfold Load.storeReads
  obtain ⟨maps, hmaps, hp⟩ := Option.bind_eq_some_iff.mp hp
  obtain ⟨d, hd, hp⟩ := Option.map_eq_some_iff.mp hp
  obtain ⟨shared, hshared, hd⟩ := List.exists_of_findSome?_eq_some hd
  refine ⟨⟨.shared service name, service, t⟩, ?_, rfl, rfl⟩
  have read := read hd hp
  simp only [List.mem_append]
  -- the process shares with itself, and each service with itself
  by_cases hservice : service = processService
  · subst hservice
    rw [mappingOf, Dict.get?_insert_self] at hmaps
    obtain rfl := Option.some.inj hmaps
    rcases List.mem_cons.mp hshared with rfl | hshared
    · exact .inl (.inr read)
    · rw [List.mem_singleton.mp hshared] at read
      exact .inr read
  · rw [mappingOf, Dict.get?_insert_of_ne _ _ hservice] at hmaps
    obtain ⟨⟨name', s⟩, hs, he⟩ :=
      List.mem_map.mp (Dict.mem_of_mem_ofList (Dict.mem_of_get? hmaps))
    obtain ⟨rfl, rfl⟩ := Prod.mk.inj he
    rcases List.mem_cons.mp hshared with rfl | hshared
    · exact .inl (.inl (.inl (.inr (List.mem_flatMap.mpr ⟨_, hs, read⟩))))
    · obtain ⟨s', hs', rfl⟩ := Option.map_eq_some_iff.mp (Option.mem_toList.mp hshared)
      exact .inl (.inl (.inr (List.mem_flatMap.mpr ⟨_, Dict.mem_of_get? hs', read⟩)))

/-- The stores that the definitions of an activity read are written. -/
def DefinitionsWritten (m : Mapping) (process : Document.Process) (a : Activity) : Prop :=
  ∀ p, Defines m a p → ∀ t ∈ storeTargets p, slot a.service t ∈ writtenSlots process

theorem shared_written (hw : AllWritten page process) {service name : String}
    {p : Document.Parameter} (hp : (mappingOf m page process).shared? service name = some p)
    {t : StoreTarget} (ht : t ∈ storeTargets p) : slot service t ∈ writtenSlots process := by
  obtain ⟨r, hr, rfl, rfl⟩ := mem_sharedReads hp ht
  exact hw r hr

/-- A declared activity reads what its document reads. -/
theorem declared_written (hw : AllWritten page process) {a : Activity} {d : Load.Declared}
    (hd : d ∈ Load.declared process) (outline : a.outline = outlineOf d) :
    DefinitionsWritten (mappingOf m page process) process a := by
  have service : a.service = d.service := congrArg Outline.service outline
  have definitions : a.definitions = d.activity.parameters :=
    congrArg Outline.definitions outline
  have body : a.bodyDefinitions = d.activity.requestBody.getD [] :=
    congrArg Outline.bodyDefinitions outline
  have own : ∀ {name p t}, (name, p) ∈ d.activity.parameters ++ d.activity.requestBody.getD [] →
      t ∈ storeTargets p → slot a.service t ∈ writtenSlots process := by
    intro name p t hp ht
    rw [service]
    refine hw ⟨.activity d.service d.name, d.service, t⟩ ?_
    simp only [Load.storeReads, List.mem_append]
    refine .inl (.inl (.inl (.inl (List.mem_flatMap.mpr ⟨d, hd, ?_⟩))))
    exact List.mem_map_of_mem (Load.mem_storeTargetsOfAll hp ht)
  intro p hp t ht
  cases hp with
  | parameter h =>
    rw [definitions] at h
    exact own (List.mem_append_left _ h) ht
  | body h =>
    rw [body] at h
    exact own (List.mem_append_right _ h) ht
  | shared h => exact shared_written hw h ht

/-- **Whatever mapping starts from has definitions that read what is written**: a generated value
has its definitions from inside the one that it is made for. -/
theorem IsOrigin.written (hw : AllWritten page process) {a : Activity}
    (h : IsOrigin (mappingOf m page process) (Flow.declared m page process).value.arena a) :
    DefinitionsWritten (mappingOf m page process) process a := by
  induction h with
  | declared h =>
    rcases (outline_of_mem_declared h).2 with ⟨d, hd, outline⟩ | ⟨definitions, body⟩
    · exact declared_written hw hd outline
    · intro p hp t ht
      cases hp with
      | parameter h =>
        rw [definitions] at h
        contradiction
      | body h =>
        rw [body] at h
        contradiction
      | shared h => exact shared_written hw h ht
  | @made a c _ made ih =>
    obtain ⟨parameter, q, g, hq, hg, rfl⟩ := made
    intro p hp t ht
    cases hp with
    | parameter h =>
      have inside : t ∈ Load.storeTargetsOfAll g.parameters := Load.mem_storeTargetsOfAll h ht
      exact ih q hq t (Load.mem_storeTargets_of_generate hg inside)
    | body h => contradiction
    | shared h => exact shared_written hw h ht

/-! ## §3. Reads and writes. -/

/-- The activity may read this part of this store: a parameter or a part of its request body comes
from there, or that is what a dynamic parameter selects. -/
inductive Activity.Reads (a : Activity) (scope : StoreScope) (key : String)
    (path : Option String) : Prop
  | parameter {name : String} (h : (name, .store scope key path) ∈ a.parameters)
  | body {part : String} (h : (part, .store scope key path) ∈ a.requestBody)
  | dynamic {name : String} {p : DynamicParameter} (h : (name, p) ∈ a.dynamicParameters)
      (hs : p.source? = some (.store scope key path))

variable {a b : Activity} {scope : StoreScope} {key : String} {path : Option String}

/-- A source that reads a store is the store that the definition names. -/
theorem store_of_ofParameter? {p : Document.Parameter} {generator : Option Nat}
    (h : Source.ofParameter? p generator = some (.store scope key path)) :
    ∃ t, p.store = some t ∧ t.scope = scope ∧ t.splitKey = (key, path) := by
  unfold Source.ofParameter? at h
  repeat' split at h
  all_goals simp_all [Prod.ext_iff]

/-- What is read is named by a definition. -/
theorem Activity.Reads.exists_definition {m : Mapping} (h : b.Reads scope key path)
    (hm : MapsTo m a b) :
    ∃ p t, Defines m a p ∧ p.store = some t ∧ t.scope = scope ∧ t.splitKey = (key, path) := by
  have named : ∀ {source}, Originates m a source → source = .store scope key path →
      ∃ p t, Defines m a p ∧ p.store = some t ∧ t.scope = scope ∧ t.splitKey = (key, path) := by
    intro source origin hs
    cases origin with
    | definition hp h =>
      rw [hs] at h
      obtain ⟨t, ht⟩ := store_of_ofParameter? h
      exact ⟨_, t, hp, ht⟩
    | _ => contradiction
  cases h with
  | parameter h => exact named (hm.parameters _ (List.mem_map_of_mem h)) rfl
  | body h => exact named (hm.requestBody _ (List.mem_map_of_mem h)) rfl
  | dynamic h hs =>
    obtain ⟨t, ht⟩ := store_of_ofParameter? hs
    exact ⟨_, t, hm.dynamicParameters _ (List.mem_map_of_mem h), ht⟩

/-- **Whatever a built flow reads is in a slot that is written.** -/
theorem slot_of_reads (hb : IsBuilt m page process flow) (hw : AllWritten page process)
    (hmem : b ∈ flow.arena) (h : b.Reads scope key path) :
    ∃ t, t.scope = scope ∧ t.splitKey = (key, path)
      ∧ slot b.service t ∈ writtenSlots process := by
  obtain ⟨a, origin, mapsTo⟩ := hb.exists_origin hmem
  obtain ⟨p, t, hp, hstore, hscope, hkey⟩ := h.exists_definition mapsTo
  refine ⟨t, hscope, hkey, ?_⟩
  rw [mapsTo.retains.service]
  exact origin.written hw p hp t (Load.mem_storeTargets_of_store hstore)

/-- A slot that is written is that of an activity that stores, which is no reference. -/
theorem exists_of_writtenSlots (hb : IsBuilt m page process flow) {written : Load.Slot}
    (h : written ∈ writtenSlots process) :
    ∃ b ∈ flow.arena, ∃ target, b.isReference = false ∧ b.storeResult = some target
      ∧ slot b.service target = written := by
  obtain ⟨d, hd, h⟩ := List.mem_filterMap.mp h
  obtain ⟨target, htarget, rfl⟩ := Option.map_eq_some_iff.mp h
  obtain ⟨b, hmem, outline⟩ := hb.exists_outline hd
  have stores : b.storeResult = d.activity.storeResult := congrArg Outline.storeResult outline
  have service : b.service = d.service := congrArg Outline.service outline
  exact ⟨b, hmem, target, congrArg Outline.isReference outline, stores.trans htarget,
    by rw [service]⟩

end Flow

/-! ## §4. Running. -/

namespace Run

open Load (Check checkIntegrity)
open Pageflow.Flow (Activity IsBuilt Materials)

/-- Equal slots are in the same store of a run, with the same key up to the first dot. -/
theorem owner_of_slot_eq {service service' : String} {t t' : StoreTarget}
    (h : Load.slot service t = Load.slot service' t') :
    t.splitKey.1 = t'.splitKey.1
      ∧ ∀ s : State, s.owner t.scope service = s.owner t'.scope service' := by
  have ofProcess : ∀ s : State,
      s.owner .service processService = some processService := by
    intro s
    simp [State.owner]
  unfold Load.slot at h
  cases hs : t.scope <;> cases hs' : t'.scope <;> simp only [hs, hs'] at h <;>
    repeat' split at h
  all_goals simp_all [State.owner]

/-- The activity `b` keeps its result in the store that a read of `a` means, and its key up to the
first dot is the one that is looked up. -/
structure Supplies (a : Activity) (scope : StoreScope) (key : String) (b : Activity)
    (target : StoreTarget) : Prop where
  isReference : b.isReference = false
  storeResult : b.storeResult = some target
  owner : ∀ s : State, s.owner target.scope b.service = s.owner scope a.service
  key : target.splitKey.1 = key

variable {a b : Activity} {scope : StoreScope} {key : String} {path : Option String}
  {target : StoreTarget}

/-- A result that was stored under a key without dots is found; under a key with a dot nothing is
written that is looked up. -/
theorem Supplies.get?_settle (h : Supplies a scope key b target) (place : Nat) (result : Json)
    (s : State) : ((s.settle place b result).storeFor scope a.service).get? key
      = if '.' ∈ target.key.toList then (s.storeFor scope a.service).get? key
        else some result := by
  rw [State.get?_storeFor, State.get?_storeFor, owner_settle,
    entry_settle_stored h.isReference h.storeResult, h.owner, ← h.key]
  by_cases dotted : '.' ∈ target.key.toList
  · rw [if_pos dotted, if_neg fun same => Document.splitKey_ne_key dotted same.2]
  · rw [if_neg dotted, if_pos ⟨rfl, by rw [Document.splitKey_of_not_mem dotted]⟩]

variable {m : Materials} {page : Document.Page} {process : Document.Process} {flow : Flow}

/-- **Stores that are read are written.**  If the stores of a page and its process have passed
their check, then whatever any activity of a flow that is built from them may read, some activity
of the flow that is no reference keeps its result in that store of any state, under the key that is
looked up, or one that goes on after it with a dot.  When its result is known, exactly a key
without dots gives it to the reader. -/
theorem reads_are_written {σ : Type} [Journal σ] (hb : IsBuilt m page process flow)
    {fatal : List Check} (hfatal : Check.storageAccess ∈ fatal) {before after : σ}
    (passed : (checkIntegrity fatal page process before).Ends (.ok ()) after)
    (ha : a ∈ flow.arena) (reads : a.Reads scope key path) :
    ∃ place b target, flow.arena[place]? = some b ∧ Supplies a scope key b target
      ∧ ∀ (s : State) (result : Json),
        ((s.settle place b result).storeFor scope a.service).get? key
          = if '.' ∈ target.key.toList then (s.storeFor scope a.service).get? key
            else some result := by
  have noProblems : Load.storageProblems page process = [] :=
    Load.problems_of_checkIntegrity passed hfatal
  obtain ⟨t, hscope, hkey, written⟩ :=
    Flow.slot_of_reads hb (Load.allWritten_of_storageProblems noProblems) ha reads
  obtain ⟨b, hmem, target, own, stores, slot⟩ := Flow.exists_of_writtenSlots hb written
  obtain ⟨place, hplace⟩ := List.mem_iff_getElem?.mp hmem
  obtain ⟨key, owner⟩ := owner_of_slot_eq slot
  have supplies : Supplies a scope _ b target :=
    { isReference := own
      storeResult := stores
      owner := fun s => by rw [owner, hscope]
      key := by rw [key, hkey] }
  exact ⟨place, b, target, hplace, supplies, fun s result => supplies.get?_settle place result s⟩

/-! ## §5. A tally. -/

/-- A shop that counts its stock under a key, and shows what it reads under the same key. -/
def tallyProcess (key : String) : Document.Process where
  services := [("shop",
    { activities := [
        ("count", { moduleFunction := some "count", storeResult := some { key } }),
        ("show",
          { moduleFunction := some "echo"
            parameters := [("value", { store := some { key } })] })] })]

def tallyMaterials : Materials where
  functions := [("count", ⟨"shop", "count", []⟩), ("echo", ⟨"shop", "echo", ["value"]⟩)]
  bridges := []

def tallyFlow (key : String) : Flow :=
  (Flow.assemble? tallyMaterials {} (tallyProcess key)).value.getD default

/-- What the check of the stores of a tally comes to. -/
def checkedTally (key : String) : Task (List Note) (Except Load.LoadError Unit) :=
  checkIntegrity [.storageAccess] {} (tallyProcess key) []

/-- Only counting stores something. -/
theorem eq_zero_of_stores {key : String} {place : Nat}
    (stored : (tallyFlow key).arena.map Activity.storeResult = [some { key }, none])
    (hb : (tallyFlow key).arena[place]? = some b) (h : b.storeResult = some target) :
    place = 0 ∧ target = { key } := by
  have kept : ([some { key }, none] : List (Option StoreTarget))[place]? = some (some target) := by
    rw [← stored, List.getElem?_map, hb, Option.map_some, h]
  match place with
  | 0 => exact ⟨rfl, (Option.some.inj (Option.some.inj kept)).symm⟩
  | 1 => exact absurd (Option.some.inj kept) (by simp)
  | _ + 2 => exact absurd kept (by simp)

/-- What shows the stock reads what counting stores. -/
theorem reads_are_written_tally :
    ∃ a b, (tallyFlow "stock").arena[1]? = some a ∧ a.Reads .service "stock" none
      ∧ (tallyFlow "stock").arena[0]? = some b
      ∧ ∀ (s : State) (result : Json),
        ((s.settle 0 b result).storeFor .service a.service).get? "stock" = some result := by
  have built : IsBuilt tallyMaterials {} (tallyProcess "stock") (tallyFlow "stock") :=
    Flow.isBuilt_getD (by decide +kernel)
  have shows : ((tallyFlow "stock").arena[1]?).map Activity.parameters
      = some [("value", .store .service "stock" none)] := by decide +kernel
  have checked : ∃ notes, (checkedTally "stock").Ends (.ok ()) notes :=
    Task.exists_ends_ok nullAnswers () (by decide +kernel)
  obtain ⟨notes, passed⟩ := checked
  obtain ⟨a, ha, parameters⟩ := Option.map_eq_some_iff.mp shows
  have reads : a.Reads .service "stock" none :=
    .parameter (by rw [parameters]; exact List.mem_singleton.mpr rfl)
  obtain ⟨place, b, target, hb, supplies, found⟩ := reads_are_written built
    (List.mem_singleton.mpr rfl) passed (List.mem_of_getElem? ha) reads
  obtain ⟨rfl, rfl⟩ := eq_zero_of_stores (by decide +kernel) hb supplies.storeResult
  refine ⟨a, b, ha, reads, hb, ?_⟩
  intro s result
  rw [found, if_neg (by decide +kernel)]

/-- The check passes, but nothing is ever written where what shows the total looks for it. -/
theorem dotted_slot_not_written :
    IsBuilt tallyMaterials {} (tallyProcess "stock.total") (tallyFlow "stock.total")
    ∧ (∃ notes, (checkedTally "stock.total").Ends (.ok ()) notes)
    ∧ ∃ a, (tallyFlow "stock.total").arena[1]? = some a
      ∧ a.Reads .service "stock" (some "total")
      ∧ ∀ place b, (tallyFlow "stock.total").arena[place]? = some b →
          ∀ (s : State) (result : Json) (who : Option String),
            (s.settle place b result).entry who "stock" = s.entry who "stock" := by
  have shows : ((tallyFlow "stock.total").arena[1]?).map Activity.parameters
      = some [("value", .store .service "stock" (some "total"))] := by decide +kernel
  obtain ⟨a, ha, parameters⟩ := Option.map_eq_some_iff.mp shows
  refine ⟨Flow.isBuilt_getD (by decide +kernel),
    Task.exists_ends_ok nullAnswers () (by decide +kernel), a, ha, ?_, ?_⟩
  · exact .parameter (by rw [parameters]; exact List.mem_singleton.mpr rfl)
  · intro place b hb s result who
    rw [entry_settle, if_neg]
    intro slot
    obtain ⟨_, target, stores, _, key⟩ := State.slot?_eq_some.mp slot
    obtain ⟨_, rfl⟩ := eq_zero_of_stores (by decide +kernel) hb stores
    exact absurd key (by decide)

end Run

end Pageflow
