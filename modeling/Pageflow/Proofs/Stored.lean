/-
  Pageflow.Proofs.Stored — what becomes of stored results.

  A result is written under the whole key that its activity names.  Whoever reads a key takes the
  part of it before the first dot as the key and the rest as a path into the value there.  So a
  result is read back under a key without dots.  A result that was stored under a key with a dot
  is never seen by a reader of that key.

  Main definition: `ReadsBack`.
  Main statements: `entry_execute`, `entry_executeActivity` and `stored_result_reads_back`.
-/
import Pageflow.Proofs.Untouched
import Pageflow.Proofs.Written

namespace Pageflow

open Document (StoreScope StoreTarget)

/-! ## §1. Keys. -/

namespace Document

/-- The key that a reader looks up has no dots. -/
theorem dot_not_mem_splitKey {t : StoreTarget} : '.' ∉ t.splitKey.1.toList := by
  unfold StoreTarget.splitKey
  split
  next base h => simpa using (Text.eq_of_cutAt? h).2
  next base path _ h => simpa using (Text.eq_of_cutAt? h).2
  next h => exact Text.cutAt?_eq_none.mp h

theorem splitKey_of_not_mem {t : StoreTarget} (h : '.' ∉ t.key.toList) :
    t.splitKey = (t.key, none) := by
  rw [StoreTarget.splitKey, Text.cutAt?_eq_none.mpr h]

theorem splitKey_ne_key {t : StoreTarget} (h : '.' ∈ t.key.toList) : t.splitKey.1 ≠ t.key := by
  intro he
  refine absurd h ?_
  rw [← he]
  exact dot_not_mem_splitKey

end Document

/-- The value under a key, or the part of it at a path; `null` if there is none. -/
def Store.readAt (store : Store) (key : String) : Option String → Json
  | none => store.read key
  | some path => ((store.read key).select path).getD .null

theorem Store.readAt_congr {store store' : Store} {key : String}
    (h : store.get? key = store'.get? key) (path : Option String) :
    store.readAt key path = store'.readAt key path := by
  have read : store.read key = store'.read key := by rw [Store.read, h, Store.read]
  cases path <;> simp only [Store.readAt, read]

namespace Run

open Pageflow.Flow (Activity IsBuilt Materials Orderly Source)

/-- Both readers take a key apart in the same way. -/
theorem splitStored_key (t : StoreTarget) : splitStored t.key = t.splitKey := by
  have noDot : ∀ {cs : List Char}, '.' ∉ cs → ∀ c ∈ cs, decide (c = '.') = false := by
    intro cs h c hc
    exact decide_eq_false (fun he => h (he ▸ hc))
  unfold splitStored StoreTarget.splitKey
  cases hcut : Text.cutAt? '.' t.key.toList with
  | none =>
    have key := Text.dropEndWhile_of_forall_not (noDot (Text.cutAt?_eq_none.mp hcut))
    simp only [key, String.ofList_toList]
  | some parts =>
    obtain ⟨base, path⟩ := parts
    cases path with
    | cons c path => rfl
    | nil =>
      -- a dot at the end is dropped with the others, and there are no others
      obtain ⟨hkey, hbase⟩ := Text.eq_of_cutAt? hcut
      have key : Text.dropEndWhile (fun c => decide (c = '.')) t.key.toList = base := by
        rw [hkey, Text.dropEndWhile_append_singleton (decide_eq_true rfl),
          Text.dropEndWhile_of_forall_not (noDot hbase)]
      simp only [key]

/-! ## §2. The entries after a run. -/

/-- A mark by which the activity at this place does not settle a result. -/
def Unsettled (place : Nat) (m : Mark) : Prop := ∀ result, m ≠ ⟨place, .settled result⟩

variable {flow : Flow} {allowed : Mark → Prop} {s t : State}
variable {place : Nat} {a : Activity} {target : StoreTarget} {before : Inherited} {shows : Bool}
  {result : Json} {who : Option String} {key : String}

theorem not_writes_of_unsettled {m : Mark} (hm : Unsettled place m)
    (h : m.place ≠ place → ¬ Writes flow s who key m) : ¬ Writes flow s who key m := by
  intro writes
  by_cases hp : m.place = place
  · obtain ⟨_, _, value, _, hstage, _⟩ := writes
    refine hm value ?_
    rw [← hp, ← hstage]
  · exact h hp writes

/-- No activity below another one is that one. -/
theorem unsettled_callee (ho : Orderly flow) (ha : flow.arena[place]? = some a) {k : Nat}
    (hk : k ∈ a.callees) (before : Inherited) (shows : Bool) :
    (execute flow k before shows).Within (Steps flow (Unsettled place)) := by
  have calls : flow.Calls place k := ⟨a, ha, hk⟩
  obtain ⟨b, hb⟩ := Flow.exists_of_calls ho calls
  -- calls lead to ever lower ranks, and never back to this one
  have closed : ∀ h k, flow.rank h < flow.rank place → flow.Calls h k →
      flow.rank k < flow.rank place := by
    intro h k hlt hc
    exact Nat.lt_trans (Flow.rank_lt_of_calls ho hc) hlt
  refine execute_within ho closed ?_ k (List.getElem?_eq_some_iff.mp hb).1
    (Flow.rank_lt_of_calls ho calls) before shows
  intro k stage hlt value he
  obtain rfl : k = place := congrArg Mark.place he
  exact absurd hlt (Nat.lt_irrefl _)

/-- No mark of another stage settles a result. -/
theorem unsettled_of_stage {k : Nat} {stage : Stage} (h : ∀ value, stage ≠ .settled value) :
    Unsettled place ⟨k, stage⟩ := by
  intro value he
  exact h value (congrArg Mark.stage he)

theorem resultFor_unsettled (ho : Orderly flow) (ha : flow.arena[place]? = some a)
    {strategy : Flow.Strategy} (hs : a.strategy = some strategy) (before : Inherited) :
    (resultFor flow (execute flow) place a strategy before).Within
      (Steps flow (Unsettled place)) := by
  refine resultFor_within ha hs (unsettled_of_stage (by simp)) (unsettled_of_stage (by simp))
    ?_ ?_ before
  · intro k hk
    exact unsettled_callee ho ha (Activity.mem_callees.mpr (.inl hk)) _ _
  · intro k before hk
    exact unsettled_callee ho ha (Activity.mem_callees.mpr (.inr (.inl hk))) _ _

theorem handDown_unsettled (ho : Orderly flow) (ha : flow.arena[place]? = some a)
    (result : Json) (shows : Bool) :
    (handDown flow (execute flow) place a result shows).Within
      (Steps flow (Unsettled place)) := by
  refine handDown_within ha (unsettled_of_stage (by simp)) ?_
  intro k hk before
  exact unsettled_callee ho ha (Activity.mem_callees.mpr (.inr (.inr hk))) _ _

theorem entry_settle_stored (hr : a.isReference = false) (hstore : a.storeResult = some target)
    (s : State) : (s.settle place a result).entry who key
      = if who = s.owner target.scope a.service ∧ key = target.key then some result
        else s.entry who key := by
  have slot : s.slot? a = some (s.owner target.scope a.service, target.key) :=
    State.slot?_eq_some.mpr ⟨hr, target, hstore, rfl, rfl⟩
  rw [entry_settle, slot]
  simp only [Option.some.injEq, Prod.mk.injEq, eq_comm]

/-- **The entries after a run that ends well**: its result where it is to be stored, and all
else as before, unless others write it. -/
theorem entry_execute (ho : Orderly flow) (ha : flow.arena[place]? = some a)
    (hr : a.isReference = false) (hstore : a.storeResult = some target) {new : List Mark}
    (hends : (execute flow place before shows s).Ends (.ok result) t)
    (hnew : t.trail = s.trail ++ new) : t.owner = s.owner ∧
      ∀ who key, (∀ m ∈ new, m.place ≠ place → ¬ Writes flow s who key m) →
        t.entry who key = if who = s.owner target.scope a.service ∧ key = target.key
          then some result else s.entry who key := by
  rw [execute_eq ho ha, ends_traced_ok] at hends
  obtain ⟨strategy, u, hs, hfor, hdown⟩ := ends_runActivity_ok hends
  have chained := (steps_noting flow (Unsettled place)).toChained
  have upTo : Steps flow (Unsettled place) (s.mark place (.entered before)) u :=
    Task.ends_of_within chained (resultFor_unsettled ho ha hs before _) hfor
  have onwards : Steps flow (Unsettled place) (u.settle place a result) t :=
    Task.ends_of_within chained (handDown_unsettled ho ha result shows _) hdown
  obtain ⟨first, hfirst, unsettled⟩ := trail_steps upTo
  obtain ⟨last, hlast, unsettled'⟩ := trail_steps onwards
  obtain ⟨howner, hentry⟩ := entry_steps upTo
  obtain ⟨howner', hentry'⟩ := entry_steps onwards
  have settled : (u.settle place a result).owner = s.owner :=
    (owner_settle ..).trans howner
  refine ⟨howner'.trans settled, ?_⟩
  intro who key h
  -- the marks are those up to the result, the one of the result, and those from there on
  rw [hlast, trail_settle, hfirst, State.trail_mark, List.append_assoc, List.append_assoc,
    List.append_assoc] at hnew
  obtain rfl := List.append_cancel_left hnew
  rw [hentry' last hlast who key, entry_settle_stored hr hstore, howner,
    hentry first hfirst who key]
  · rfl
  · intro m hm
    refine not_writes_of_unsettled (unsettled m hm) (h m ?_)
    exact List.mem_append_right _ (List.mem_append_left _ hm)
  · intro m hm
    unfold Writes
    rw [settled]
    refine not_writes_of_unsettled (unsettled' m hm) (h m ?_)
    exact List.mem_append_right _ (List.mem_append_right _ (List.mem_append_right _ hm))

/-! ## §3. Operations. -/

/-- A run under the mark of a service ends well only if it does by itself, between start and
release. -/
theorem ends_guarded_ok {α : Type} {service name : String} {r : Run State HostError α} {x : α}
    (h : (guarded service name r s).Ends (.ok x) t) :
    ∃ u, (r (s.occupy service name)).Ends (.ok x) u ∧ u.release service = t := by
  cases hs : s.running? service with
  | some other =>
    rw [guarded_of_busy hs] at h
    exact absurd h.1 (by simp)
  | none =>
    rw [guarded_of_free hs] at h
    obtain ⟨outcome, u, hr, rfl, hu⟩ := (Task.ends_bind _ _ _ _).mp h
    exact ⟨u, hr, hu⟩

theorem ends_runTop_ok {service name : String}
    (h : (runTop flow service name place a shows s).Ends (.ok result) t) :
    (execute flow place {} shows s).Ends (.ok result) t := by
  obtain ⟨outcome, u, hr, h⟩ := ends_bind_ok.mp h
  rw [ends_attempt_ok] at hr
  cases outcome with
  | ok value =>
    obtain ⟨hv, hu⟩ := h
    rw [← Except.ok.inj hv, ← hu]
    exact hr
  | error e =>
    obtain ⟨_, _, _, h, _⟩ := ends_bind_ok.mp h
    contradiction

/-- An operation that ends well runs the activity of that name, between start and release. -/
theorem ends_executeActivity_ok {service name : String}
    (hfind : flow.find? service name = some place)
    (h : (executeActivity flow service name shows s).Ends (.ok result) t) :
    (∃ known, knownService flow service = .ok known) ∧
      ∃ u, (execute flow place {} shows (s.occupy service name)).Ends (.ok result) u
        ∧ u.release service = t := by
  obtain ⟨known, _, hk, h⟩ := ends_bind_ok.mp h
  obtain ⟨hknown, rfl⟩ := (ends_ofExcept _ _).mp hk
  obtain ⟨⟨place', a⟩, _, hf, h⟩ := ends_bind_ok.mp h
  obtain ⟨hfound, rfl⟩ := (ends_ofExcept _ _).mp hf
  obtain rfl := Option.some.inj (hfind.symm.trans (getElem?_of_knownActivity hfound).1)
  obtain ⟨u, hrun, hu⟩ := ends_guarded_ok h
  exact ⟨⟨known, hknown⟩, u, ends_runTop_ok hrun, hu⟩

/-- **The entries after an operation that ends well**: the result of its activity where it is to
be stored, and all else as before, unless others write it. -/
theorem entry_executeActivity (ho : Orderly flow) {service name : String} {new : List Mark}
    (hfind : flow.find? service name = some place) (ha : flow.arena[place]? = some a)
    (hr : a.isReference = false) (hstore : a.storeResult = some target)
    (hends : (executeActivity flow service name shows s).Ends (.ok result) t)
    (hnew : t.trail = s.trail ++ new) : t.owner = s.owner ∧
      ∀ who key, (∀ m ∈ new, m.place ≠ place → ¬ Writes flow s (some who) key m) →
        t.entry (some who) key
          = if some who = s.owner target.scope service ∧ key = target.key then some result
            else s.entry (some who) key := by
  obtain ⟨b, hb, hservice, _⟩ := ho.top service name place hfind
  obtain rfl := Option.some.inj (ha.symm.trans hb)
  obtain ⟨_, u, hrun, rfl⟩ := ends_executeActivity_ok hfind hends
  have started := sameEntries_occupy s service name
  obtain ⟨released, hreleased⟩ := entry_release u service
  have htrail : u.trail = (s.occupy service name).trail ++ new := by
    rw [State.trail_occupy, ← hnew, State.trail_release]
  obtain ⟨howner, hentry⟩ := entry_execute ho ha hr hstore hrun htrail
  rw [started.owner] at howner
  refine ⟨released.trans howner, ?_⟩
  intro who key h
  rw [hreleased, hentry (some who) key, started.owner, started.entry, hservice]
  intro m hm hp
  unfold Writes
  rw [started.owner]
  exact h m hm hp

/-! ## §4. Readers. -/

/-- The store is the first source that the definition of a parameter names. -/
structure NamesStore (p : Document.Parameter) (target : StoreTarget) : Prop where
  field : p.field = none
  parent : p.parent = false
  previous : p.previous = false
  constant : p.constant = none
  store : p.store = some target

theorem NamesStore.ofParameter? {p : Document.Parameter} (h : NamesStore p target)
    (generator : Option Nat) : Source.ofParameter? p generator
      = some (.store target.scope target.splitKey.1 target.splitKey.2) := by
  simp [Source.ofParameter?, h.field, h.parent, h.previous, h.constant, h.store]

/-- Whom one asks for a stored value: the service, or else the process. -/
def askedService (scope : StoreScope) (service : String) : Option String :=
  match scope with
  | .service => some service
  | _ => none

/-- Whoever asks for the key gets this value, and so does a parameter of the service whose
definition names it; at once, and without a failure. -/
structure ReadsBack (flow : Flow) (service : String) (target : StoreTarget) (value : Json)
    (s : State) : Prop where
  asked : ∃ t, storedValue flow target.key (askedService target.scope service) s
    = .done (.ok value) t
  parameter : ∀ make a before p generator, a.service = service → NamesStore p target →
    ∃ source t, Source.ofParameter? p generator = some source
      ∧ sourceValue make a before source s = .done (.ok value) t

theorem readStore_eq {ε : Type} (store : Store) (key : String) (path : Option String)
    (s : State) : ∃ t, (readStore store key path : Run State ε Json) s
      = .done (.ok (store.readAt key path)) t := by
  cases path with
  | none => exact ⟨_, rfl⟩
  | some path => exact ⟨_, rfl⟩

theorem storedValue_eq {service : String} (hknown : ∃ known, knownService flow service = .ok known)
    (hscope : target.scope ≠ .activity) (s : State) :
    storedValue flow target.key (askedService target.scope service) s
      = readStore (s.storeFor target.scope service) target.splitKey.1 target.splitKey.2 s := by
  obtain ⟨known, hknown⟩ := hknown
  rw [← splitStored_key]
  cases hs : target.scope with
  | activity => contradiction
  | process =>
    have store : s.storeFor .service Document.processService = s.storeFor .process service := by
      simp [State.storeFor]
    rw [← store]
    rfl
  | service =>
    simp only [askedService, storedValue, hknown]
    rfl

/-- Both readers look up the part of the key before its first dot, and select the rest. -/
theorem readsBack_iff {service : String} (hknown : ∃ known, knownService flow service = .ok known)
    (hscope : target.scope ≠ .activity) {value : Json} {s : State} :
    ReadsBack flow service target value s ↔
      (s.storeFor target.scope service).readAt target.splitKey.1 target.splitKey.2 = value := by
  obtain ⟨u, hu⟩ := readStore_eq (ε := HostError) (s.storeFor target.scope service)
    target.splitKey.1 target.splitKey.2 s
  constructor
  · intro h
    obtain ⟨t, ht⟩ := h.asked
    rw [storedValue_eq hknown hscope, hu] at ht
    exact Except.ok.inj (Task.done.inj ht).1
  · rintro rfl
    refine ⟨⟨u, (storedValue_eq hknown hscope s).trans hu⟩, ?_⟩
    rintro make a before p generator rfl names
    obtain ⟨t, ht⟩ := readStore_eq (ε := ExecutionError) (s.storeFor target.scope a.service)
      target.splitKey.1 target.splitKey.2 s
    exact ⟨_, t, names.ofParameter? generator, ht⟩

/-! ## §5. Reading back. -/

variable {m : Materials} {page : Document.Page} {process : Document.Process}

/-- **When stored results are read back.**  After an operation has run an activity of a built
flow to a good end, its result is the entry under its key, and all other entries of services and
of the process are as before, unless another activity wrote them.  A key without dots reads back
that result.  A key with a dot reads back a value iff it did so before. -/
theorem stored_result_reads_back (hb : IsBuilt m page process flow) {service name : String}
    {new : List Mark} (hfind : flow.find? service name = some place)
    (ha : flow.arena[place]? = some a) (hr : a.isReference = false)
    (hstore : a.storeResult = some target) (hscope : target.scope ≠ .activity)
    (hends : (executeActivity flow service name shows s).Ends (.ok result) t)
    (hnew : t.trail = s.trail ++ new) :
    ('.' ∉ target.key.toList →
      (∀ mark ∈ new, mark.place ≠ place →
        ¬ Writes flow s (s.owner target.scope service) target.key mark) →
      ReadsBack flow service target result t)
    ∧ ('.' ∈ target.key.toList →
      (∀ mark ∈ new, mark.place ≠ place →
        ¬ Writes flow s (s.owner target.scope service) target.splitKey.1 mark) →
      ∀ value, ReadsBack flow service target value t ↔ ReadsBack flow service target value s)
    ∧ ∀ who key, (∀ mark ∈ new, mark.place ≠ place → ¬ Writes flow s (some who) key mark) →
      t.entry (some who) key
        = if some who = s.owner target.scope service ∧ key = target.key then some result
          else s.entry (some who) key := by
  obtain ⟨hknown, _⟩ := ends_executeActivity_ok hfind hends
  obtain ⟨howner, entries⟩ := entry_executeActivity hb.orderly hfind ha hr hstore hends hnew
  obtain ⟨who, hwho⟩ := State.exists_owner s hscope service
  refine ⟨?_, ?_, entries⟩
  · intro dotFree alone
    rw [readsBack_iff hknown hscope, Document.splitKey_of_not_mem dotFree]
    have entry := entries who target.key (by rw [← hwho]; exact alone)
    rw [if_pos ⟨hwho.symm, rfl⟩, ← hwho, ← howner, ← State.get?_storeFor] at entry
    rw [Store.readAt, Store.read, entry, Option.getD_some]
  · intro dotted alone value
    rw [readsBack_iff hknown hscope, readsBack_iff hknown hscope]
    have entry := entries who target.splitKey.1 (by rw [← hwho]; exact alone)
    -- the entry that is looked up is not the one that was written
    rw [if_neg fun h => Document.splitKey_ne_key dotted h.2, ← hwho, ← State.get?_storeFor,
      ← howner, ← State.get?_storeFor] at entry
    rw [Store.readAt_congr entry]

/-! ## §6. The shop. -/

/-- Functions give 7. -/
def sevenAnswers : Task.Environment Unit
  | .call _ _, _ => (.ok (.value (.integer 7)), ())
  | q, world => nullAnswers q world

/-- What loading the shop comes to with these answers. -/
def loadedShop : Option (Except HostError Json × State) :=
  ((executeActivity shopFlow "shop" "load" true (initial shopFlow)).finish sevenAnswers ()).1

/-- What was loaded is read back; checking it and making its key wrote nothing. -/
theorem stored_result_reads_back_shop :
    ∃ t, (executeActivity shopFlow "shop" "load" true (initial shopFlow)).Ends (.ok (.integer 7)) t
      ∧ ReadsBack shopFlow "shop" { key := "stock" } (.integer 7) t := by
  have outcome : (loadedShop.map fun r => (r.1, r.2.trail.all fun m =>
      m.place = 0 || ((shopFlow.arena[m.place]?).bind Activity.storeResult).isNone))
        = some (.ok (.integer 7), true) := by decide +kernel
  have load : (shopFlow.arena[0]?).map (fun a => (a.isReference, a.storeResult))
      = some (false, some { key := "stock" }) := by decide +kernel
  obtain ⟨⟨result, t⟩, ht, hr⟩ := Option.map_eq_some_iff.mp outcome
  obtain ⟨rfl, quiet⟩ : result = .ok (.integer 7) ∧ _ = true := Prod.mk.inj hr
  obtain ⟨a, ha, h⟩ := Option.map_eq_some_iff.mp load
  obtain ⟨own, hstore⟩ := Prod.mk.inj h
  have ends := Task.ends_of_finish sevenAnswers (Prod.ext ht rfl)
  refine ⟨t, ends, ?_⟩
  refine (stored_result_reads_back shopFlow_isBuilt (by decide +kernel) ha own hstore
    (by decide) ends (List.nil_append t.trail).symm).1 (by decide +kernel) ?_
  rintro mark hm hp ⟨b, target, _, hb, _, _, htarget, _⟩
  have none := List.all_eq_true.mp quiet mark hm
  simp [hp, hb, htarget] at none

/-- A shop that counts its stock, and stores the result under a key with a dot. -/
def countProcess : Document.Process where
  services := [("shop",
    { activities := [
        ("count", { moduleFunction := some "count", storeResult := some { key := "stock.total" } })]
    })]

def countMaterials : Materials where
  functions := [("count", ⟨"shop", "count", []⟩)]
  bridges := []

def countFlow : Flow := (Flow.assemble? countMaterials {} countProcess).value.getD default

/-- What counting comes to if it gives 7. -/
def counted : Option (Except HostError Json × State) :=
  ((executeActivity countFlow "shop" "count" true (initial countFlow)).finish sevenAnswers ()).1

/-- Counting ends well and nothing else runs, but its result is not read back. -/
theorem dotted_key_not_read_back :
    IsBuilt countMaterials {} countProcess countFlow
    ∧ countFlow.find? "shop" "count" = some 0
    ∧ ∃ a t, countFlow.arena[0]? = some a ∧ a.isActive = true ∧ a.isReference = false
      ∧ a.storeResult = some { scope := .service, key := "stock.total" }
      ∧ (executeActivity countFlow "shop" "count" true (initial countFlow)).Ends
          (.ok (.integer 7)) t
      ∧ (∀ mark ∈ t.trail, mark.place = 0)
      ∧ ¬ ReadsBack countFlow "shop" { scope := .service, key := "stock.total" }
          (.integer 7) t := by
  have outcome : (counted.map fun r => (r.1, r.2.trail.all (fun m => m.place = 0),
      (r.2.storeFor .service "shop").readAt "stock" (some "total")))
        = some (.ok (.integer 7), true, .null) := by decide +kernel
  have count : (countFlow.arena[0]?).map (fun a => (a.isActive, a.isReference, a.storeResult))
      = some (true, false, some { key := "stock.total" }) := by decide +kernel
  obtain ⟨⟨result, t⟩, ht, hr⟩ := Option.map_eq_some_iff.mp outcome
  obtain ⟨rfl, alone, value⟩ : result = .ok (.integer 7) ∧ (∀ mark ∈ t.trail, mark.place = 0)
      ∧ (t.storeFor .service "shop").readAt "stock" (some "total") = .null := by
    simpa using hr
  obtain ⟨a, ha, h⟩ := Option.map_eq_some_iff.mp count
  obtain ⟨active, own, hstore⟩ : a.isActive = true ∧ a.isReference = false ∧ _ := by
    simpa using h
  refine ⟨Flow.isBuilt_getD (by decide +kernel), by decide +kernel, a, t, ha, active, own, hstore,
    Task.ends_of_finish sevenAnswers (Prod.ext ht rfl), alone, ?_⟩
  have known : ∃ known, knownService countFlow "shop" = .ok known := by
    cases h : countFlow.service? "shop" with
    | none => exact absurd h (by decide +kernel)
    | some service => exact ⟨service, by rw [knownService, h]⟩
  have key : StoreTarget.splitKey { key := "stock.total" } = ("stock", some "total") := by
    decide +kernel
  rw [readsBack_iff known (by decide), key, value]
  decide

end Run

end Pageflow
