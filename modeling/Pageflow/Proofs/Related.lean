/-
  Pageflow.Proofs.Related — keys of dictionaries.

  Two dictionaries are related if they have the same keys in the same order and the values under
  each key are related.  Readers find related values then, and related values may be written.  In a
  dictionary that was written key by key no key has two entries.  What a reader finds after many
  writes is what was there or one of the values that were written.

  Main definitions: `Dict.Related` and `Dict.Keyed`.
  Main statements: `Related.get?`, `Related.insert`, `exists_index_of_get?`, `keyed_ofList` and
  `exists_get?_insertAll`.
-/
import Mathlib.Data.List.Forall2
import Mathlib.Data.List.Nodup
import Pageflow.Dict

namespace Pageflow

namespace Dict

variable {α β : Type} {r : String → α → β → Prop} {d : Dict α} {e : Dict β} {key : String}

/-! ## §1. The same keys. -/

/-- The dictionaries have the same keys in the same order, and related values. -/
def Related (r : String → α → β → Prop) (d : Dict α) (e : Dict β) : Prop :=
  List.Forall₂ (fun x y => x.1 = y.1 ∧ r x.1 x.2 y.2) d e

theorem Related.get? (h : Related r d e) (key : String) :
    Option.Rel (r key) (d.get? key) (e.get? key) := by
  induction h with
  | nil => exact .none
  | @cons x y d e hxy _ ih =>
    obtain ⟨k, v⟩ := x
    obtain ⟨k', w⟩ := y
    obtain ⟨rfl, hr⟩ := hxy
    rw [get?_cons, get?_cons]
    split
    next hk =>
      subst hk
      exact .some hr
    next => exact ih

/-- Related values may be written under the same key. -/
theorem Related.insert (h : Related r d e) {v : α} {w : β} (hr : r key v w) :
    Related r (d.insert key v) (e.insert key w) := by
  induction h with
  | nil => exact .cons ⟨rfl, hr⟩ .nil
  | @cons x y d e hxy rest ih =>
    obtain ⟨k, _⟩ := x
    obtain ⟨k', _⟩ := y
    obtain ⟨rfl, hxy⟩ := hxy
    unfold Dict.insert
    split
    next hk =>
      subst hk
      exact .cons ⟨rfl, hr⟩ rest
    next => exact .cons ⟨rfl, hxy⟩ ih

theorem Related.refl {r : String → α → α → Prop} (hr : ∀ key v, r key v v) (d : Dict α) :
    Related r d d :=
  List.forall₂_same.mpr fun _ _ => ⟨rfl, hr _ _⟩

theorem Related.trans {r : String → α → α → Prop}
    (hr : ∀ key u v w, r key u v → r key v w → r key u w) :
    ∀ {d e f : Dict α}, Related r d e → Related r e f → Related r d f
  | _, _, _, .nil, .nil => .nil
  | _, _, _, .cons ⟨hk, h⟩ rest, .cons ⟨hk', h'⟩ rest' =>
      .cons ⟨hk.trans hk', hr _ _ _ _ h (by rwa [hk])⟩ (Related.trans hr rest rest')

/-- The value under a key may be replaced by a related one. -/
theorem Related.replace {r : String → α → α → Prop} (hr : ∀ key v, r key v v) {v w : α}
    (hv : d.get? key = some v) (h : r key v w) : Related r d (d.insert key w) := by
  have replaced : Related r (d.insert key v) (d.insert key w) := (Related.refl hr d).insert h
  rwa [insert_of_get? hv] at replaced

theorem Related.keys_eq (h : Related r d e) : d.keys = e.keys := by
  induction h with
  | nil => rfl
  | cons hxy _ ih => exact congrArg₂ List.cons hxy.1 ih

/-- A reader finds the entry at one position in every dictionary with these keys. -/
theorem exists_index_of_get? (β : Type) {v : α} (h : d.get? key = some v) :
    ∃ i : Nat, d[i]? = some (key, v)
      ∧ ∀ e : Dict β, d.keys = e.keys → e.get? key = (e[i]?).map Prod.snd := by
  induction d with
  | nil => contradiction
  | cons first d ih =>
    obtain ⟨k, w⟩ := first
    rw [get?_cons] at h
    by_cases hk : k = key
    · rw [if_pos hk] at h
      obtain rfl := Option.some.inj h
      refine ⟨0, by rw [hk]; rfl, ?_⟩
      intro e he
      match e, he with
      | (k', w') :: e, he =>
        obtain rfl : k = k' := (List.cons.inj he).1
        rw [get?_cons, if_pos hk]
        rfl
    · rw [if_neg hk] at h
      obtain ⟨i, hi, same⟩ := ih h
      refine ⟨i + 1, hi, ?_⟩
      intro e he
      match e, he with
      | (k', w') :: e, he =>
        obtain ⟨rfl, hkeys⟩ := List.cons.inj he
        rw [get?_cons, if_neg hk]
        exact same e hkeys

/-- A key that has an entry has a value. -/
theorem exists_get?_of_mem_keys (h : key ∈ d.keys) : ∃ value, d.get? key = some value := by
  induction d with
  | nil => contradiction
  | cons entry rest ih =>
    obtain ⟨k, v⟩ := entry
    by_cases hk : k = key
    · exact ⟨v, by rw [get?_cons, if_pos hk]⟩
    · rw [get?_cons, if_neg hk]
      exact ih ((List.mem_cons.mp h).resolve_left (Ne.symm hk))

/-! ## §2. Keys that are written once. -/

/-- No key has two entries. -/
def Keyed (d : Dict α) : Prop := d.keys.Nodup

/-- Without a second entry for its key an entry is the one that is found. -/
theorem Keyed.get?_of_mem (keyed : Keyed d) {value : α} (h : (key, value) ∈ d) :
    d.get? key = some value := by
  induction d with
  | nil => contradiction
  | cons entry rest ih =>
    obtain ⟨k, v⟩ := entry
    obtain ⟨fresh, keyed⟩ := List.nodup_cons.mp keyed
    rw [get?_cons]
    by_cases hk : k = key
    · subst hk
      rcases List.mem_cons.mp h with h | h
      · rw [if_pos rfl, (Prod.mk.inj h).2]
      · exact absurd (List.mem_map_of_mem h) fresh
    · rw [if_neg hk]
      refine ih keyed ((List.mem_cons.mp h).resolve_left ?_)
      intro heq
      exact hk (Prod.mk.inj heq).1.symm

theorem Keyed.get?_eq_some_iff (keyed : Keyed d) {value : α} :
    d.get? key = some value ↔ (key, value) ∈ d :=
  ⟨mem_of_get?, keyed.get?_of_mem⟩

/-- The order of the entries does not matter to a reader. -/
theorem Keyed.get?_of_perm {more : Dict α} (keyed : Keyed d) (perm : more.Perm d)
    (key : String) : d.get? key = more.get? key := by
  have keyed' : Keyed more := (perm.map Prod.fst).nodup_iff.mpr keyed
  ext value
  rw [keyed.get?_eq_some_iff, keyed'.get?_eq_some_iff, perm.mem_iff]

theorem Keyed.insert (h : Keyed d) (key : String) (v : α) : Keyed (d.insert key v) := by
  unfold Keyed
  rw [keys_insert]
  split
  next => exact h
  next hk => exact List.nodup_append.mpr ⟨h, List.nodup_singleton key, by
      intro a ha b hb heq
      rw [heq, List.mem_singleton.mp hb] at ha
      exact hk ha⟩

theorem Keyed.insertAll (h : Keyed d) (more : Dict α) : Keyed (d.insertAll more) := by
  induction more generalizing d with
  | nil => exact h
  | cons entry more ih => exact ih (h.insert entry.1 entry.2)

theorem keyed_nil : Keyed ([] : Dict α) := List.nodup_nil

theorem keyed_ofList (entries : List (String × α)) : Keyed (ofList entries) :=
  keyed_nil.insertAll entries

theorem insert_of_not_mem {v : α} (h : key ∉ d.keys) : d.insert key v = d ++ [(key, v)] := by
  induction d with
  | nil => rfl
  | cons entry d ih =>
    obtain ⟨k, w⟩ := entry
    rw [keys, List.map_cons, List.mem_cons, not_or] at h
    rw [Dict.insert, if_neg (Ne.symm h.1), ih h.2, List.cons_append]

theorem insertAll_of_keyed {more : Dict α} (h : Keyed (d ++ more)) :
    d.insertAll more = d ++ more := by
  induction more generalizing d with
  | nil => exact (List.append_nil d).symm
  | cons entry more ih =>
    have fresh : entry.1 ∉ d.keys := by
      intro hd
      rw [Keyed, keys, List.map_append] at h
      exact (List.nodup_append.mp h).2.2 _ hd _ List.mem_cons_self rfl
    show insertAll (d.insert entry.1 entry.2) more = _
    rw [insert_of_not_mem fresh, ih (by rw [List.append_assoc]; exact h), List.append_assoc]
    rfl

/-- To write the entries of a dictionary gives the dictionary. -/
theorem ofList_of_keyed (h : Keyed d) : ofList d = d := insertAll_of_keyed h

/-! ## §3. Readers. -/

theorem mem_keys_iff : key ∈ d.keys ↔ (d.get? key).isSome = true := by
  constructor
  · intro h
    obtain ⟨value, hvalue⟩ := exists_get?_of_mem_keys h
    rw [hvalue]
    rfl
  · intro h
    obtain ⟨value, hvalue⟩ := Option.isSome_iff_exists.mp h
    exact List.mem_map_of_mem (mem_of_get? hvalue)

theorem keys_map (f : String → α → β) (d : Dict α) :
    keys (d.map fun entry => (entry.1, f entry.1 entry.2)) = d.keys := by
  rw [keys, List.map_map]
  rfl

/-- The value under a key if each was made from the key and the value that was there. -/
theorem get?_map (f : String → α → β) (d : Dict α) (key : String) :
    Dict.get? (d.map fun entry => (entry.1, f entry.1 entry.2)) key
      = (d.get? key).map (f key) := by
  induction d with
  | nil => rfl
  | cons entry rest ih =>
    obtain ⟨k, v⟩ := entry
    rw [List.map_cons, get?_cons, get?_cons]
    split
    next hk =>
      subst hk
      rfl
    next => exact ih

theorem get?_ofList_map (h : Keyed d) (f : String → α → β) (key : String) :
    (ofList (d.map fun entry => (entry.1, f entry.1 entry.2))).get? key
      = (d.get? key).map (f key) := by
  have keyed : Keyed (d.map fun entry => (entry.1, f entry.1 entry.2)) := by
    unfold Keyed
    rwa [keys_map]
  rw [ofList_of_keyed keyed, get?_map]

/-- Writing other keys leaves the value of a key. -/
theorem get?_insertAll_of_not_mem {more : Dict α} (h : key ∉ more.keys) :
    (d.insertAll more).get? key = d.get? key := by
  induction more generalizing d with
  | nil => rfl
  | cons entry more ih =>
    obtain ⟨first, others⟩ := not_or.mp (List.mem_cons.not.mp h)
    exact (ih others).trans (get?_insert_of_ne d entry.2 first)

/-- A key that was written has one of the values that were written under it. -/
theorem exists_get?_insertAll {more : Dict α} (h : key ∈ more.keys) :
    ∃ value, (key, value) ∈ more ∧ (d.insertAll more).get? key = some value := by
  induction more generalizing d with
  | nil => contradiction
  | cons entry more ih =>
    by_cases again : key ∈ keys more
    · obtain ⟨value, hmem, hvalue⟩ := ih again
      exact ⟨value, List.mem_cons_of_mem _ hmem, hvalue⟩
    · obtain rfl : key = entry.1 := (List.mem_cons.mp h).resolve_right again
      refine ⟨entry.2, List.mem_cons_self, ?_⟩
      exact (get?_insertAll_of_not_mem again).trans (get?_insert_self d entry.1 entry.2)

end Dict

end Pageflow
