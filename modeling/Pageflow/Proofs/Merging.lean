/-
  Pageflow.Proofs.Merging — the parameters of a path and of an operation of it are merged.

  A path and its operations each declare parameters, some of them by reference and some of them
  malformed.  Two entries with one name and one location are the same parameter, and the later one
  counts; its place is that of the first one.

  Entries are written one after the other into a list with their keys (`putEntries`).  What one
  write does to the keys and to the entries (`keys_putEntry`, `mem_putEntry`) gives what all of
  them do: the keys are those of the entries in the order of their first occurrence, and under
  each stands the last entry with it.  That no key stands twice is carried from there through the
  operation, whose parameters have different names or locations, to the request, where no name
  stands twice among the query pairs or among the cookies of parameters.

  Main definitions: `declaredEntries` and `IsMerged`.
  Main statements: `keys_putEntries`, `mem_putEntries`, `isMerged_collectParameters` and
  `parameters_are_merged`.
-/
import Mathlib.Data.List.Induction
import Mathlib.Data.List.Nodup
import Pageflow.Proofs.Headers

namespace Pageflow

theorem Json.textAt?_eq_some_iff {value : Json} {key s : String} :
    value.textAt? key = some s ↔ value.get? key = some (.string s) := by
  unfold textAt?
  cases value.get? key with
  | none => simp
  | some v => cases v <;> simp [text?]

namespace OpenApi

/-! ## §1. Entries written one after the other. -/

section Writing

variable {key k : EntryKey} {entry e : Json} {merged : List (EntryKey × Json)}

/-- A write leaves the order of the known keys and puts a new one last. -/
theorem keys_putEntry (key : EntryKey) (entry : Json) (merged : List (EntryKey × Json)) :
    (putEntry key entry merged).map Prod.fst
      = if key ∈ merged.map Prod.fst then merged.map Prod.fst
        else merged.map Prod.fst ++ [key] := by
  induction merged with
  | nil => rfl
  | cons first rest ih =>
    obtain ⟨k, e⟩ := first
    by_cases hk : k = key
    · simp [putEntry, hk]
    · by_cases hm : key ∈ rest.map Prod.fst <;>
        simp [putEntry, hk, Ne.symm hk, hm, ih]

theorem nodup_putEntry (h : (merged.map Prod.fst).Nodup) :
    ((putEntry key entry merged).map Prod.fst).Nodup := by
  rw [keys_putEntry]
  split
  next => exact h
  next fresh => exact List.nodup_append.mpr ⟨h, List.nodup_singleton key, by
      intro a ha b hb heq
      rw [heq, List.mem_singleton.mp hb] at ha
      exact fresh ha⟩

/-- After a write its entry stands under its key, and nothing else has changed. -/
theorem mem_putEntry (h : (merged.map Prod.fst).Nodup) :
    (k, e) ∈ putEntry key entry merged ↔ if key = k then e = entry else (k, e) ∈ merged := by
  induction merged with
  | nil => by_cases hk : key = k <;> simp [putEntry, hk, eq_comm]
  | cons first rest ih =>
    obtain ⟨k₀, e₀⟩ := first
    obtain ⟨fresh, h⟩ := List.nodup_cons.mp h
    by_cases hk₀ : k₀ = key
    · subst hk₀
      have elsewhere : (k₀, e) ∉ rest := fun hm =>
        fresh (List.mem_map.mpr ⟨(k₀, e), hm, rfl⟩)
      by_cases hk : k₀ = k
      · subst hk
        simp [putEntry, elsewhere]
      · simp [putEntry, hk, Ne.symm hk]
    · rw [putEntry, if_neg hk₀, List.mem_cons, ih h]
      by_cases hk : key = k
      · subst hk
        simp [Ne.symm hk₀]
      · simp [hk]

/-- Entries written one after the other under their keys. -/
def putEntries (merged entries : List (EntryKey × Json)) : List (EntryKey × Json) :=
  entries.foldl (fun merged (key, entry) => putEntry key entry merged) merged

theorem putEntries_append (merged first last : List (EntryKey × Json)) :
    putEntries merged (first ++ last) = putEntries (putEntries merged first) last :=
  List.foldl_append

theorem nodup_putEntries (entries : List (EntryKey × Json)) :
    ((putEntries [] entries).map Prod.fst).Nodup := by
  induction entries using List.reverseRecOn with
  | nil => exact List.nodup_nil
  | append_singleton first last ih =>
    rw [putEntries_append]
    exact nodup_putEntry ih

/-- **The keys are in the order in which they first occur.** -/
theorem keys_putEntries (entries : List (EntryKey × Json)) :
    (putEntries [] entries).map Prod.fst = (entries.map Prod.fst).eraseDups := by
  -- from the last write back: whether its key is new depends on the writes before it
  induction entries using List.reverseRecOn with
  | nil => rfl
  | append_singleton first last ih =>
    have step : putEntries [] (first ++ [last])
        = putEntry last.1 last.2 (putEntries [] first) := putEntries_append [] first [last]
    have known : last.1 ∈ (putEntries [] first).map Prod.fst ↔ last.1 ∈ first.map Prod.fst := by
      rw [ih]
      exact List.mem_eraseDups
    rw [step, keys_putEntry, List.map_append, List.eraseDups_append, ← ih]
    by_cases hm : last.1 ∈ first.map Prod.fst
    · rw [if_pos (known.mpr hm)]
      simp [List.removeAll, hm]
    · rw [if_neg (mt known.mp hm)]
      simp [List.removeAll, hm, List.eraseDups_cons]

/-- **Under a key stands the last entry that was written with it.** -/
theorem mem_putEntries (k : EntryKey) (e : Json) (entries : List (EntryKey × Json)) :
    (k, e) ∈ putEntries [] entries
      ↔ (entries.filter fun w => w.1 = k).getLast? = some (k, e) := by
  induction entries using List.reverseRecOn with
  | nil => simp [putEntries]
  | append_singleton first last ih =>
    have step : putEntries [] (first ++ [last])
        = putEntry last.1 last.2 (putEntries [] first) := putEntries_append [] first [last]
    rw [step, mem_putEntry (nodup_putEntries first), ih, List.filter_append, List.getLast?_append]
    obtain ⟨key, entry⟩ := last
    by_cases hk : key = k
    · simp [hk, eq_comm]
    · simp [hk]

end Writing

/-! ## §2. The parameter entries of an operation. -/

/-- The parameter entries of a path or an operation, each replaced by what it refers to. -/
def resolvedEntries (root level : Json) : List Json :=
  (((level.get? "parameters").bind Json.items?).getD []).map (dereference root)

/-- The entries of a path and then those of an operation of it. -/
def declaredEntries (root pathItem operation : Json) : List Json :=
  resolvedEntries root pathItem ++ resolvedEntries root operation

/-- What merging makes of entries: one for each name and location that entries have, in the order
in which these first occur, and for each the last entry that has them. -/
structure IsMerged (entries merged : List Json) : Prop where
  order : merged.map entryKey? = ((entries.filterMap entryKey?).eraseDups).map some
  distinct : merged.Pairwise fun a b => entryKey? a ≠ entryKey? b
  last : ∀ entry ∈ merged,
    (entries.filter fun e => entryKey? e = entryKey? entry).getLast? = some entry

/-- What is merged has a name and a location. -/
theorem IsMerged.exists_key {entries merged : List Json} (h : IsMerged entries merged)
    {entry : Json} (he : entry ∈ merged) : ∃ key, entryKey? entry = some key := by
  have known : entryKey? entry ∈ merged.map entryKey? := List.mem_map_of_mem he
  rw [h.order] at known
  obtain ⟨key, _, hkey⟩ := List.mem_map.mp known
  exact ⟨key, hkey.symm⟩

/-- What tells an entry apart is its name and its location, if both are texts and not empty. -/
theorem entryKey?_eq_some_iff {entry : Json} {name location : String} :
    entryKey? entry = some (name, location)
      ↔ entry.get? "name" = some (.string name) ∧ entry.get? "in" = some (.string location)
        ∧ name ≠ "" ∧ location ≠ "" := by
  rw [← Json.textAt?_eq_some_iff, ← Json.textAt?_eq_some_iff]
  unfold entryKey?
  cases entry.textAt? "name" with
  | none => simp
  | some n =>
    cases entry.textAt? "in" with
    | none => simp
    | some l =>
      simp only [Option.getD_some, Bool.or_eq_true, String.isEmpty_iff]
      split
      next empty => grind
      next full => grind

/-- An entry with what tells it apart, if it has a name and a location. -/
def keyed? (entry : Json) : Option (EntryKey × Json) :=
  (entryKey? entry).map fun key => (key, entry)

theorem addLevel_eq (root level : Json) (merged : List (EntryKey × Json)) :
    addLevel root merged level
      = putEntries merged ((resolvedEntries root level).filterMap keyed?) := by
  unfold addLevel putEntries resolvedEntries
  rw [List.foldl_filterMap, List.foldl_map]
  congr 1
  funext merged entry
  cases h : entryKey? (dereference root entry) <;> simp [keyed?, h]

/-- Entries are merged by writing those with a name and a location one after the other. -/
theorem collectParameters_eq (root pathItem operation : Json) :
    collectParameters root pathItem operation
      = (putEntries [] ((declaredEntries root pathItem operation).filterMap keyed?)).map
          Prod.snd := by
  unfold collectParameters declaredEntries
  rw [addLevel_eq, addLevel_eq, List.filterMap_append, putEntries_append]

theorem filter_keyed? (key : EntryKey) (entries : List Json) :
    (entries.filterMap keyed?).filter (fun w => w.1 = key)
      = (entries.filter fun e => entryKey? e = some key).map fun e => (key, e) := by
  induction entries with
  | nil => rfl
  | cons entry rest ih =>
    cases hk : entryKey? entry with
    | none =>
      have skipped : keyed? entry = none := by simp [keyed?, hk]
      rw [List.filterMap_cons_none skipped, ih, List.filter_cons_of_neg (by simp [hk])]
    | some found =>
      have kept : keyed? entry = some (found, entry) := by simp [keyed?, hk]
      rw [List.filterMap_cons_some kept]
      by_cases hf : found = key
      · rw [List.filter_cons_of_pos (by simp [hf]), List.filter_cons_of_pos (by simp [hk, hf]), ih,
          List.map_cons, hf]
      · rw [List.filter_cons_of_neg (by simp [hf]), List.filter_cons_of_neg (by simp [hk, hf]), ih]

/-- What stands under a key after all writes is the last entry with it. -/
theorem mem_putEntries_keyed? {entries : List Json} {key : EntryKey} {entry : Json} :
    (key, entry) ∈ putEntries [] (entries.filterMap keyed?)
      ↔ (entries.filter fun e => entryKey? e = some key).getLast? = some entry := by
  rw [mem_putEntries, filter_keyed?, List.getLast?_map]
  simp

theorem entryKey?_of_mem_putEntries {entries : List Json} {key : EntryKey} {entry : Json}
    (h : (key, entry) ∈ putEntries [] (entries.filterMap keyed?)) :
    entryKey? entry = some key := by
  have last := List.mem_of_getLast? (mem_putEntries_keyed?.mp h)
  exact of_decide_eq_true (List.mem_filter.mp last).2

/-- **The parameters of a path and an operation are merged.** -/
theorem isMerged_collectParameters (root pathItem operation : Json) :
    IsMerged (declaredEntries root pathItem operation)
      (collectParameters root pathItem operation) := by
  rw [collectParameters_eq]
  generalize declaredEntries root pathItem operation = entries
  have keys : (putEntries [] (entries.filterMap keyed?)).map (fun w => entryKey? w.2)
      = (putEntries [] (entries.filterMap keyed?)).map fun w => some w.1 :=
    List.map_congr_left fun w hw => entryKey?_of_mem_putEntries hw
  have occurring : (entries.filterMap keyed?).map Prod.fst = entries.filterMap entryKey? := by
    rw [List.map_filterMap]
    congr 1
    funext entry
    simp [keyed?, Function.comp_def]
  constructor
  case order =>
    have first := keys_putEntries (entries.filterMap keyed?)
    rw [occurring] at first
    rw [← first, List.map_map, List.map_map]
    exact keys
  case distinct =>
    have nodup := nodup_putEntries (entries.filterMap keyed?)
    rw [List.pairwise_map]
    refine (List.pairwise_map.mp nodup).imp_of_mem ?_
    intro a b ha hb ne same
    rw [entryKey?_of_mem_putEntries ha, entryKey?_of_mem_putEntries hb] at same
    exact ne (Option.some.inj same)
  case last =>
    intro entry hentry
    obtain ⟨⟨key, _⟩, hw, rfl⟩ := List.mem_map.mp hentry
    rw [entryKey?_of_mem_putEntries hw]
    exact mem_putEntries_keyed?.mp hw

/-! ## §3. The parameters of a flattened operation. -/

theorem Location.label_of_ofLabel? {label : String} {location : Location}
    (h : Location.ofLabel? label = some location) : label = location.label := by
  unfold Location.ofLabel? at h
  split at h <;> first | contradiction | (obtain rfl := Option.some.inj h; rfl)

/-- The parameter of an entry has the name and the location of the entry. -/
theorem entryKey?_of_parameter? {entry : Json} {p : Parameter} {key : EntryKey}
    (hp : parameter? entry = some p) (hk : entryKey? entry = some key) :
    key = (p.name, p.location.label) := by
  obtain ⟨name, hname, hp⟩ := Option.bind_eq_some_iff.mp hp
  obtain ⟨label, hlabel, hp⟩ := Option.bind_eq_some_iff.mp hp
  obtain ⟨location, hlocation, hp⟩ := Option.bind_eq_some_iff.mp hp
  obtain rfl := Option.some.inj hp
  obtain ⟨hname', hlabel', _, _⟩ := entryKey?_eq_some_iff.mp hk
  rw [Json.textAt?_eq_some_iff, hname'] at hname
  rw [Json.textAt?_eq_some_iff, hlabel'] at hlabel
  obtain rfl := Json.string.inj (Option.some.inj hname)
  obtain rfl := Json.string.inj (Option.some.inj hlabel)
  exact Prod.ext rfl (Location.label_of_ofLabel? hlocation)

/-- **A flattened operation has no two parameters of one name and location.** -/
theorem nodup_parameters (root : Json) (path method : String) (pathItem operation : Json) :
    ((flatten root path method pathItem operation).parameters.map
      fun p => (p.name, p.location)).Nodup := by
  have merged := isMerged_collectParameters root pathItem operation
  refine List.pairwise_map.mpr (List.pairwise_filterMap.mpr ?_)
  refine merged.distinct.imp_of_mem ?_
  intro a b ha hb ne p hp q hq same
  -- two parameters of one name and location would come of two entries with one key
  obtain ⟨key, hkey⟩ := merged.exists_key ha
  obtain ⟨key', hkey'⟩ := merged.exists_key hb
  obtain ⟨name, location⟩ := Prod.mk.inj same
  rw [hkey, hkey', entryKey?_of_parameter? hp hkey, entryKey?_of_parameter? hq hkey', name,
    location] at ne
  exact ne rfl

end OpenApi

namespace Remote

open OpenApi (IsMerged collectParameters declaredEntries entryKey? flatten)

/-! ## §4. The parameters of a request. -/

variable {o : Operation} {parameters : Dict Json}

/-- Among the parameters at a location no name stands twice. -/
theorem nodup_placedTexts (h : (o.operation.parameters.map fun p => (p.name, p.location)).Nodup)
    (location : OpenApi.Location) :
    ((o.placedTexts location parameters).map Prod.fst).Nodup := by
  unfold Operation.placedTexts Operation.placed
  refine List.pairwise_map.mpr (List.pairwise_map.mpr (List.pairwise_filterMap.mpr ?_))
  refine (List.pairwise_map.mp h).imp ?_
  intro p q ne a ha b hb same
  have placed {p : OpenApi.Parameter} {a : String × Json}
      (h : (if p.location = location then
        (given? parameters p.name).map fun value => (p.name, value) else none) = some a) :
      (p.name, p.location) = (a.1, location) := by
    split at h
    next hp =>
      obtain ⟨value, _, rfl⟩ := Option.map_eq_some_iff.mp h
      rw [hp]
    next => contradiction
  have same : a.1 = b.1 := same
  rw [placed ha, placed hb, same] at ne
  exact ne rfl

variable {σ : Type} [Journal σ] {e : Endpoint} {value : Option Json} {s t : σ} {r : Http.Request}

/-- The query of a request: parameters, then credentials. -/
theorem query_of_request (h : (o.request e parameters value s).Ends (.ok r) t) :
    r.query = o.placedTexts .query parameters
      ++ (o.carriers e.credentials).filterMap Carrier.query? := by
  obtain ⟨method, server, body, _, _, rfl⟩ := request_eq_outline h
  obtain ⟨headers, outlined⟩ := outline_eq o method server e.credentials parameters
  exact congrArg Http.Request.query outlined

/-- **Parameters are merged, the last entry of a name and a location in the place of the first.**
Of what a path and then an operation of it declare, each entry replaced by what it refers to, those
count whose name and location are texts and not empty.  There is one for each name and location,
in the order in which they first occur, and it is the last entry that has them.  So the flattened
operation has no two parameters of one name and location; and a request built from it has no name
twice among the query pairs, nor among the cookies, that do not come of credentials. -/
theorem parameters_are_merged (root pathItem operation : Json) :
    (∀ (entry : Json) (name location : String), entryKey? entry = some (name, location)
      ↔ entry.get? "name" = some (.string name) ∧ entry.get? "in" = some (.string location)
        ∧ name ≠ "" ∧ location ≠ "")
    ∧ IsMerged (declaredEntries root pathItem operation)
        (collectParameters root pathItem operation)
    ∧ ∀ path method, ((flatten root path method pathItem operation).parameters.map
          fun p => (p.name, p.location)).Nodup
      ∧ ∀ (σ : Type) [Journal σ] (o : Operation) (e : Endpoint) (parameters : Dict Json)
          (value : Option Json) (s t : σ) (r : Http.Request),
        o.operation = flatten root path method pathItem operation →
        (o.request e parameters value s).Ends (.ok r) t →
          (r.query = o.placedTexts .query parameters
              ++ (o.carriers e.credentials).filterMap Carrier.query?
            ∧ ((o.placedTexts .query parameters).map Prod.fst).Nodup)
          ∧ (o.cookies e.credentials parameters ≠ [] → r.header? "Cookie"
            = some (Operation.cookieText (o.placedTexts .cookie parameters
              ++ (o.carriers e.credentials).filterMap Carrier.cookie?)))
          ∧ ((o.placedTexts .cookie parameters).map Prod.fst).Nodup := by
  refine ⟨fun _ _ _ => OpenApi.entryKey?_eq_some_iff,
    OpenApi.isMerged_collectParameters root pathItem operation, fun path method => ?_⟩
  have nodup := OpenApi.nodup_parameters root path method pathItem operation
  refine ⟨nodup, ?_⟩
  intro σ _ o e parameters value s t r own h
  rw [← own] at nodup
  exact ⟨⟨query_of_request h, nodup_placedTexts nodup .query⟩, header?_cookie h,
    nodup_placedTexts nodup .cookie⟩

/-! ## §5. A list of teams. -/

/-- A parameter entry with a note that tells it from others of its name and location. -/
def teamEntry (name location note : String) : Json :=
  .object [("name", .string name), ("in", .string location), ("description", .string note)]

/-- Teams are listed page by page.  The page is declared twice, the trace by reference, and one
entry has no name. -/
def listTeams : Json := .object
  [("operationId", .string "teams"),
    ("parameters", .array [teamEntry "page" "query" "second", teamEntry "session" "cookie" ""])]

def teamsItem : Json := .object
  [("parameters", .array [teamEntry "page" "query" "first",
      .object [("$ref", .string "#/components/parameters/Trace")], teamEntry "" "query" ""]),
    ("get", listTeams)]

def teamsApi : Json := .object
  [("components", .object [("parameters", .object [("Trace", teamEntry "trace" "header" "")])]),
    ("paths", .object [("/teams", teamsItem)])]

/-- The operation as a capability. -/
def teams : Operation where
  capability := "teams"
  operation := flatten teamsApi "/teams" "get" teamsItem listTeams
  backend := { service := "teams", defaultServer := some "https://api.example.com" }

/-- The second entry of the page takes the place of the first, before the trace; and the request
has one page and one session. -/
theorem parameters_are_merged_teams :
    IsMerged (declaredEntries teamsApi teamsItem listTeams)
      [teamEntry "page" "query" "second", teamEntry "trace" "header" "",
        teamEntry "session" "cookie" ""]
    ∧ ∃ r t, (teams.request {} [("page", .integer 2), ("session", .string "s1")] none
        ({} : Run.State)).Ends (.ok r) t
      ∧ r.query = [("page", "2")] ∧ r.header? "Cookie" = some "session=s1" := by
  obtain ⟨-, merged, requests⟩ := parameters_are_merged teamsApi teamsItem listTeams
  have collected : collectParameters teamsApi teamsItem listTeams
      = [teamEntry "page" "query" "second", teamEntry "trace" "header" "",
        teamEntry "session" "cookie" ""] := by
    decide +kernel
  rw [collected] at merged
  have written : ((teams.request {} [("page", .integer 2), ("session", .string "s1")] none
      ({} : Run.State)).value?).isSome = true := by
    decide +kernel
  obtain ⟨r, value⟩ := Option.isSome_iff_exists.mp written
  obtain ⟨t, ends⟩ := Task.exists_ends_of_value? value
  obtain ⟨⟨query, -⟩, cookie, -⟩ :=
    (requests "/teams" "get").2 Run.State teams _ _ _ _ _ r rfl ends
  refine ⟨merged, r, t, ends, ?_, ?_⟩
  · rw [query]
    decide +kernel
  · rw [cookie (by decide +kernel)]
    decide +kernel

end Remote

end Pageflow
