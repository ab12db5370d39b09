/-
  Pageflow.Dict — dictionaries that remember the order of first insertion.

  A dictionary is the list of its entries.  Writing an existing key keeps its place, a new key
  goes to the end, and removal closes the gap: the order is what documents, stores and answers
  show, so it is part of the value.

  Main statements: `get?_insert_self` and `get?_insert_of_ne` say what a write does to every
  reader, `keys_insert` what it does to the order.
-/

namespace Pageflow

/-- Entries by key, in the order in which the keys were first written. -/
abbrev Dict (α : Type) := List (String × α)

namespace Dict

variable {α β : Type}

/-! ## §1. Reading -/

/-- The value under `key`: that of the first entry with this key. -/
def get? : Dict α → String → Option α
  | [], _ => none
  | (k, v) :: rest, key => if k = key then some v else get? rest key

/-- Whether `key` has an entry. -/
def contains (d : Dict α) (key : String) : Bool := (d.get? key).isSome

/-- The keys, in order. -/
def keys (d : Dict α) : List String := d.map Prod.fst

/-- The values, in order. -/
def values (d : Dict α) : List α := d.map Prod.snd

/-- The position of `key`. -/
def index? (d : Dict α) (key : String) : Option Nat := d.findIdx? (·.1 = key)

/-- Each value changed in place. -/
def mapValues (f : α → β) (d : Dict α) : Dict β := d.map fun (k, v) => (k, f v)

/-! ## §2. Writing -/

/-- Writes `value` under `key`: in place if the key is known, else at the end. -/
def insert : Dict α → String → α → Dict α
  | [], key, value => [(key, value)]
  | (k, v) :: rest, key, value =>
    if k = key then (k, value) :: rest else (k, v) :: insert rest key value

/-- Drops every entry of `key`. -/
def erase (d : Dict α) (key : String) : Dict α := d.filter (·.1 ≠ key)

/-- The entries written one after the other: of equal keys the last value at the first place. -/
def ofList (entries : List (String × α)) : Dict α :=
  entries.foldl (fun d (k, v) => d.insert k v) []

/-- Writes every entry of `more` into `d`. -/
def insertAll (d more : Dict α) : Dict α :=
  more.foldl (fun d (k, v) => d.insert k v) d

/-! ## §3. Laws -/

@[simp] theorem get?_nil (key : String) : get? ([] : Dict α) key = none := rfl

theorem get?_cons (k : String) (v : α) (rest : Dict α) (key : String) :
    get? ((k, v) :: rest) key = if k = key then some v else get? rest key := rfl

theorem mem_of_get? {d : Dict α} {key : String} {value : α} (h : d.get? key = some value) :
    (key, value) ∈ d := by
  induction d with
  | nil => simp at h
  | cons e rest ih =>
    obtain ⟨k, v⟩ := e
    by_cases hk : k = key
    · simp_all [get?_cons]
    · rw [get?_cons, if_neg hk] at h
      exact List.mem_cons_of_mem _ (ih h)

@[simp] theorem get?_insert_self (d : Dict α) (key : String) (value : α) :
    (d.insert key value).get? key = some value := by
  induction d with
  | nil => simp [insert, get?]
  | cons e rest ih =>
    obtain ⟨k, v⟩ := e
    by_cases h : k = key <;> simp [insert, get?, h, ih]

theorem get?_insert_of_ne (d : Dict α) {key other : String} (value : α) (h : other ≠ key) :
    (d.insert key value).get? other = d.get? other := by
  induction d with
  | nil => simp [insert, get?, Ne.symm h]
  | cons e rest ih =>
    obtain ⟨k, v⟩ := e
    by_cases hk : k = key
    · subst hk; simp [insert, get?, Ne.symm h]
    · simp only [insert, if_neg hk, get?_cons, ih]

/-- The last of two writes counts. -/
theorem insert_insert (d : Dict α) (key : String) (value last : α) :
    (d.insert key value).insert key last = d.insert key last := by
  induction d with
  | nil => simp [insert]
  | cons e rest ih =>
    obtain ⟨k, v⟩ := e
    by_cases h : k = key <;> simp [insert, h, ih]

/-- To write the value that is there changes nothing. -/
theorem insert_of_get? {d : Dict α} {key : String} {value : α} (h : d.get? key = some value) :
    d.insert key value = d := by
  induction d with
  | nil => simp at h
  | cons e rest ih =>
    obtain ⟨k, v⟩ := e
    by_cases hk : k = key
    · simp_all [insert, get?_cons]
    · rw [get?_cons, if_neg hk] at h
      simp [insert, hk, ih h]

@[simp] theorem get?_mapValues (f : α → β) (d : Dict α) (key : String) :
    (d.mapValues f).get? key = (d.get? key).map f := by
  induction d with
  | nil => rfl
  | cons e rest ih =>
    obtain ⟨k, v⟩ := e
    by_cases h : k = key
    · simp [mapValues, get?_cons, h]
    · simpa [mapValues, get?_cons, h] using ih

theorem mapValues_insert (f : α → β) (d : Dict α) (key : String) (value : α) :
    (d.insert key value).mapValues f = (d.mapValues f).insert key (f value) := by
  induction d with
  | nil => rfl
  | cons e rest ih =>
    obtain ⟨k, v⟩ := e
    by_cases h : k = key
    · simp [mapValues, insert, h]
    · simpa [mapValues, insert, h] using ih

/-- After a write there are the entry that was written and entries that there were before. -/
theorem mem_of_mem_insert {d : Dict α} {key : String} {value : α} {e : String × α}
    (h : e ∈ d.insert key value) : e = (key, value) ∨ e ∈ d := by
  induction d with
  | nil => exact .inl (List.mem_singleton.mp h)
  | cons e' rest ih =>
    obtain ⟨k, w⟩ := e'
    by_cases hk : k = key
    · rw [insert, if_pos hk, hk] at h
      exact (List.mem_cons.mp h).imp_right (List.mem_cons_of_mem _)
    · rw [insert, if_neg hk] at h
      rcases List.mem_cons.mp h with rfl | h
      · exact .inr List.mem_cons_self
      · exact (ih h).imp_right (List.mem_cons_of_mem _)

theorem mem_values_insert {d : Dict α} {key : String} {value v : α}
    (h : v ∈ (d.insert key value).values) : v = value ∨ v ∈ d.values := by
  obtain ⟨e, he, rfl⟩ := List.mem_map.mp h
  rcases mem_of_mem_insert he with rfl | he
  · exact .inl rfl
  · exact .inr (List.mem_map_of_mem he)

/-- After many writes there are entries that were written and entries that there were before. -/
theorem mem_of_mem_insertAll {d more : Dict α} {e : String × α} (h : e ∈ d.insertAll more) :
    e ∈ d ∨ e ∈ more := by
  induction more generalizing d with
  | nil => exact .inl h
  | cons first rest ih =>
    rcases ih h with h | h
    · rcases mem_of_mem_insert h with rfl | h
      · exact .inr List.mem_cons_self
      · exact .inl h
    · exact .inr (List.mem_cons_of_mem _ h)

/-- What is read was among the entries. -/
theorem mem_of_mem_ofList {entries : List (String × α)} {e : String × α}
    (h : e ∈ ofList entries) : e ∈ entries :=
  (mem_of_mem_insertAll h).resolve_left List.not_mem_nil

/-- A write leaves the order of the known keys and puts a new one last. -/
theorem keys_insert (d : Dict α) (key : String) (value : α) :
    (d.insert key value).keys = if key ∈ d.keys then d.keys else d.keys ++ [key] := by
  induction d with
  | nil => simp [insert, keys]
  | cons e rest ih =>
    obtain ⟨k, v⟩ := e
    by_cases hk : k = key
    · subst hk; simp [insert, keys]
    · simp only [keys] at ih
      by_cases hm : key ∈ List.map Prod.fst rest <;>
        simp [insert, keys, hk, Ne.symm hk, hm, ih]

end Dict

end Pageflow
