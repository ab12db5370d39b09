/-
  Pageflow.Proofs.Lookups — the two readers of stored values agree.

  The host of a process asks for a stored value by a dotted key; a parameter of an activity names
  one.  The keys are taken apart in two places, one of which drops dots at the end of a key
  without a path, the other only the first dot.  Yet it is the same part of the same entry that
  they look up, whatever the key and whatever is stored; and they write the same to the log.

  Main definition: `State.missed`.
  Main statement: `stored_readers_agree`.
-/
import Pageflow.Proofs.Stored

namespace Pageflow

open Document (StoreTarget)

/-! ## §1. Keys with a dot. -/

/-- Nothing is selected by an empty path but the value itself. -/
theorem Json.select_empty (value : Json) : value.select "" = some value := by
  have : Json.segments "" = [] := by decide +kernel
  rw [Json.select, this, Json.walk_nil]

/-- A key with a dot is read as the entry before the dot, and the part of it that the rest
selects. -/
theorem Store.readAt_splitKey (store : Store) {t : StoreTarget} {base path : String}
    (dotFree : '.' ∉ base.toList) (key : t.key = base ++ "." ++ path) :
    store.readAt t.splitKey.1 t.splitKey.2 = ((store.read base).select path).getD .null := by
  have chars : t.key.toList = base.toList ++ '.' :: path.toList := by
    rw [key, String.toList_append, String.toList_append, List.append_assoc]
    rfl
  rw [StoreTarget.splitKey, chars, Text.cutAt?_append dotFree]
  cases hpath : path.toList with
  | nil =>
    obtain rfl : path = "" := String.toList_eq_nil_iff.mp hpath
    simp [Store.readAt, Json.select_empty]
  | cons c cs => simp [Store.readAt, ← hpath]

namespace Run

open Pageflow.Flow (Activity Source)

/-! ## §2. Readers. -/

/-- The state once it is noted what a store does not have. -/
def State.missed (s : State) (store : Store) (key : String) : State :=
  (store.missNotes key).foldl (fun s n => Journal.write n s) s

theorem readStore_apply {ε : Type} (store : Store) (key : String) (path : Option String)
    (s : State) : (readStore store key path : Run State ε Json) s
      = .done (.ok (store.readAt key path)) (s.missed store key) := by
  cases path <;> rfl

variable {flow : Flow} {target : StoreTarget} {service : String}

/-- What the host is told. -/
theorem storedValue_apply (known : target.scope = .service → (flow.service? service).isSome)
    (hscope : target.scope ≠ .activity) (s : State) :
    storedValue flow target.key (askedService target.scope service) s
      = .done (.ok ((s.storeFor target.scope service).readAt target.splitKey.1 target.splitKey.2))
          (s.missed (s.storeFor target.scope service) target.splitKey.1) := by
  rw [← readStore_apply (ε := HostError), ← splitStored_key]
  cases hs : target.scope with
  | activity => contradiction
  | process =>
    have store : s.storeFor .service Document.processService = s.storeFor .process service := by
      simp [State.storeFor]
    rw [← store]
    rfl
  | service =>
    obtain ⟨found, hfound⟩ := Option.isSome_iff_exists.mp (known hs)
    simp only [askedService, storedValue, knownService, hfound]
    rfl

/-- What a parameter is given whose definition names the store. -/
theorem sourceValue_apply {p : Document.Parameter} (names : NamesStore p target)
    {a : Activity} (ha : a.service = service) (make : Maker) (before : Inherited)
    (generator : Option Nat) (s : State) :
    ∃ source, Source.ofParameter? p generator = some source
      ∧ sourceValue make a before source s
        = .done (.ok ((s.storeFor target.scope service).readAt target.splitKey.1
              target.splitKey.2))
            (s.missed (s.storeFor target.scope service) target.splitKey.1) := by
  subst ha
  refine ⟨_, names.ofParameter? generator, ?_⟩
  rw [← readStore_apply (ε := ExecutionError)]
  rfl

/-- A dynamic parameter has the value of its source, if that does not fail. -/
theorem dynamicValue_apply {make : Maker} {a : Activity} {before : Inherited}
    {p : Flow.DynamicParameter} {source : Source} (h : p.source? = some source) {s t : State}
    {value : Json} (hv : sourceValue make a before source s = .done (.ok value) t)
    (name : String) : dynamicValue make a before name p s = .done (.ok (some value)) t := by
  have attempted : (attempt (sourceValue make a before source) :
      Run State ExecutionError (Except ExecutionError Json)) s = .done (.ok (.ok value)) t := by
    rw [attempt, hv]
    rfl
  rw [dynamicValue, h]
  show (attempt (sourceValue make a before source) s).bind _ = _
  rw [attempted]
  rfl

/-- **The two readers of stored values agree.**  Whatever the key and whatever the stores hold,
asking for the key of a service, or of the process, comes at once to the value of every parameter
of that service whose definition names the key; static or dynamic; and leaves the same state
behind.  Without a dot the key is that of an entry; else the entry is that of what stands before
the first dot, and the rest, empty or not, is a path into it. -/
theorem stored_readers_agree (flow : Flow) (target : StoreTarget) (service : String)
    (hscope : target.scope ≠ .activity)
    (known : target.scope = .service → (flow.service? service).isSome) (s : State) :
    ∃ value t,
      storedValue flow target.key (askedService target.scope service) s = .done (.ok value) t
      ∧ (∀ make a before p generator, a.service = service → NamesStore p target →
        ∃ source, Source.ofParameter? p generator = some source
          ∧ sourceValue make a before source s = .done (.ok value) t
          ∧ ∀ name, dynamicValue make a before name ⟨p, generator⟩ s
            = .done (.ok (some value)) t)
      ∧ ('.' ∉ target.key.toList → value = (s.storeFor target.scope service).read target.key)
      ∧ ∀ base path, '.' ∉ base.toList → target.key = base ++ "." ++ path →
        value = (((s.storeFor target.scope service).read base).select path).getD .null := by
  refine ⟨_, _, storedValue_apply known hscope s, ?parameter, ?plain, ?dotted⟩
  case parameter =>
    intro make a before p generator ha names
    obtain ⟨source, hsource, hv⟩ := sourceValue_apply names ha make before generator s
    exact ⟨source, hsource, hv, dynamicValue_apply (p := ⟨p, generator⟩) hsource hv⟩
  case plain =>
    intro dotFree
    rw [Document.splitKey_of_not_mem dotFree, Store.readAt]
  case dotted =>
    intro base path dotFree key
    exact Store.readAt_splitKey _ dotFree key

/-! ## §3. A count. -/

/-- The shop that counts its stock, which is 5 already. -/
def stockedState : State :=
  (initial countFlow).modifyStore .service "shop"
    fun store => store.write "stock" (.object [("total", .integer 5)])

/-- The host and a parameter read the total in the stock; with dots at its end the key is that
of all the stock. -/
theorem stored_readers_agree_stock :
    (∃ t, storedValue countFlow "stock.total" (some "shop") stockedState
        = .done (.ok (.integer 5)) t
      ∧ sourceValue (fun _ => Run.endless) { (default : Activity) with service := "shop" } {}
          (.store .service "stock" (some "total")) stockedState = .done (.ok (.integer 5)) t)
    ∧ ∃ t, storedValue countFlow "stock.." (some "shop") stockedState
        = .done (.ok (.object [("total", .integer 5)])) t := by
  have known : (countFlow.service? "shop").isSome := by decide +kernel
  have stock : (stockedState.storeFor .service "shop").read "stock"
      = .object [("total", .integer 5)] := by decide +kernel
  constructor
  · obtain ⟨value, t, asked, parameter, -, dotted⟩ := stored_readers_agree countFlow
      { scope := .service, key := "stock.total" } "shop" (by decide) (fun _ => known) stockedState
    obtain ⟨source, hsource, hv, -⟩ := parameter (fun _ => Run.endless)
      { (default : Activity) with service := "shop" } {}
      { store := some { scope := .service, key := "stock.total" } } none rfl
      ⟨rfl, rfl, rfl, rfl, rfl⟩
    obtain rfl : value = .integer 5 := by
      rw [dotted "stock" "total" (by decide) (by decide), stock]
      decide +kernel
    have named : some source = some (.store .service "stock" (some "total")) := by
      rw [← hsource]
      decide +kernel
    obtain rfl := Option.some.inj named
    exact ⟨t, asked, hv⟩
  · obtain ⟨value, t, asked, -, -, dotted⟩ := stored_readers_agree countFlow
      { scope := .service, key := "stock.." } "shop" (by decide) (fun _ => known) stockedState
    obtain rfl : value = .object [("total", .integer 5)] := by
      rw [dotted "stock" "." (by decide) (by decide), stock]
      decide +kernel
    exact ⟨t, asked⟩

end Run

end Pageflow
