/-
  Pageflow.Proofs.Readers — what readers yield, and what they read back.

  A reader restores what it has read if it reads every value that it can give from the way in which
  that value is written.  The law is about values that come from a reader: a value that no reader
  gives, such as the constant `null` in a place where `null` is a missing value, is not asked for.

      Restores read write  :  read v = .ok a  →  read (write a) = .ok a

  There are two halves for every combinator of readers: what is known of a value that it gives
  (`Yields`), and that it reads the value from its written form (`Rereads` for the fields of a
  record).  For a record the first half hands the second one the facts about the single fields.

  Main definitions: `Yields`, `FieldReader.Yields`, `FieldReader.Rereads` and `Restores`.
  Main statements: `yields_record`, `record_object`, `yields_oneOf`, `restores_optional`,
  `restores_dict` and `restores_list`.
-/
import Pageflow.Document.Decode
import Pageflow.Document.Writing

namespace Pageflow.Document

variable {α β : Type}

/-! ## §1. Readers of whole values -/

/-- Every value that the reader gives has the property. -/
def Yields (read : Reader α) (P : α → Prop) : Prop := ∀ v a, read v = .ok a → P a

/-- The reader reads everything that it gives from its written form. -/
def Restores (read : Reader α) (write : α → Json) : Prop :=
  Yields read fun a => read (write a) = .ok a

theorem Yields.imp {read : Reader α} {P Q : α → Prop} (h : Yields read P)
    (imp : ∀ a, P a → Q a) : Yields read Q :=
  fun v a ok => imp a (h v a ok)

theorem restores_text : Restores text .string := fun _ _ _ => rfl

theorem restores_truth : Restores truth .bool := fun _ _ _ => rfl

theorem restores_binary : Restores binary writeBinary := fun _ _ _ => rfl

/-! ## §2. Values that may be missing -/

theorem optional_of_ne_null {read : Reader α} {v : Json} (h : v ≠ .null) :
    optional read v = (read v).map some := by
  cases v <;> first | contradiction | rfl

theorem yields_optional {read : Reader α} {P : α → Prop} (h : Yields read P) :
    Yields (optional read) fun o => ∀ a, o = some a → P a := by
  intro v o ok a given
  subst given
  by_cases null : v = .null
  · subst null
    exact nomatch ok
  · rw [optional_of_ne_null null] at ok
    obtain ⟨b, given, same⟩ := exists_of_map_eq_ok ok
    obtain rfl := Option.some.inj same
    exact h v b given

/-- A missing value is read back, and one that is there if its written form is not `null`. -/
theorem optional_writeOption {read : Reader α} {write : α → Json} (notNull : ∀ a, write a ≠ .null)
    {o : Option α} (h : ∀ a, o = some a → read (write a) = .ok a) :
    optional read (writeOption write o) = .ok o := by
  cases o with
  | none => rfl
  | some a =>
    rw [writeOption, optional_of_ne_null (notNull a), h a rfl]
    rfl

theorem restores_optional {read : Reader α} {write : α → Json} (h : Restores read write)
    (notNull : ∀ a, write a ≠ .null) : Restores (optional read) (writeOption write) :=
  (yields_optional h).imp fun _ => optional_writeOption notNull

theorem restores_text? : Restores (optional text) writeText? :=
  restores_optional restores_text nofun

theorem restores_bool? : Restores (optional truth) writeBool? :=
  restores_optional restores_truth nofun

/-- A value of any form is never `null` where `null` is a missing value. -/
theorem restores_json? : Restores (optional anything) fun o => o.getD .null := by
  intro v o ok
  by_cases null : v = .null
  · subst null
    obtain rfl := Except.ok.inj ok
    rfl
  · rw [optional_of_ne_null null] at ok
    obtain rfl := Except.ok.inj ok
    exact optional_of_ne_null null

/-! ## §3. Lists and dictionaries -/

theorem yields_list {read : Reader α} {P : α → Prop} (h : Yields read P) :
    Yields (list read) fun l => ∀ a ∈ l, P a := by
  intro v l ok
  cases v with
  | array items =>
    rw [list] at ok
    induction items generalizing l with
    | nil =>
      obtain rfl := Except.ok.inj ok
      exact fun _ mem => absurd mem List.not_mem_nil
    | cons v rest ih =>
      unfold readAll at ok
      split at ok
      next => contradiction
      next a first =>
        split at ok
        next => contradiction
        next as others =>
          obtain rfl := Except.ok.inj ok
          exact List.forall_mem_cons.mpr ⟨h v a first, ih as others⟩
  | _ => contradiction

theorem list_map {read : Reader α} {write : α → Json} {l : List α}
    (h : ∀ a ∈ l, read (write a) = .ok a) : list read (.array (l.map write)) = .ok l := by
  rw [list]
  induction l with
  | nil => rfl
  | cons a rest ih =>
    obtain ⟨first, others⟩ := List.forall_mem_cons.mp h
    rw [List.map_cons, readAll, first, ih others]

theorem restores_list {read : Reader α} {write : α → Json} (h : Restores read write) :
    Restores (list read) fun l => .array (l.map write) :=
  (yields_list h).imp fun _ => list_map

theorem yields_dict {read : Reader α} {P : α → Prop} (h : Yields read P) :
    Yields (dict read) fun d => ∀ e ∈ d, P e.2 := by
  intro v d ok
  cases v with
  | object members =>
    rw [dict] at ok
    induction members generalizing d with
    | nil =>
      obtain rfl := Except.ok.inj ok
      exact fun _ mem => absurd mem List.not_mem_nil
    | cons e rest ih =>
      obtain ⟨k, v⟩ := e
      unfold readMembers at ok
      split at ok
      next => contradiction
      next a first =>
        split at ok
        next => contradiction
        next as others =>
          obtain rfl := Except.ok.inj ok
          exact List.forall_mem_cons.mpr ⟨h v a first, ih as others⟩
  | _ => contradiction

/-- The entries of a dictionary are read back in their order. -/
theorem dict_writeDict {read : Reader α} {write : α → Json} {d : Dict α}
    (h : ∀ e ∈ d, read (write e.2) = .ok e.2) : dict read (writeDict write d) = .ok d := by
  rw [writeDict, dict]
  induction d with
  | nil => rfl
  | cons e rest ih =>
    obtain ⟨first, others⟩ := List.forall_mem_cons.mp h
    have rest := ih others
    simp only [Dict.mapValues] at rest ⊢
    rw [List.map_cons, readMembers, first, rest]

theorem restores_dict {read : Reader α} {write : α → Json} (h : Restores read write) :
    Restores (dict read) (writeDict write) :=
  (yields_dict h).imp fun _ => dict_writeDict

/-! ## §4. Fields of records -/

theorem Placed.exists_of_both_eq_ok {f : Placed (α → β)} {x : Placed α} {b : β}
    (h : f.both x = .ok b) : ∃ g a, f = .ok g ∧ x = .ok a ∧ g a = b := by
  cases f with
  | error e => cases x <;> contradiction
  | ok g =>
    cases x with
    | error e => contradiction
    | ok a => exact ⟨g, a, rfl, rfl, Except.ok.inj h⟩

namespace FieldReader

/-- Whatever the fields are read from, their value has the property. -/
def Yields (r : FieldReader α) (P : α → Prop) : Prop :=
  ∀ source a, (r.run source).1 = .ok a → P a

/-- From an object with these members the fields are read as `a`. -/
def Rereads (r : FieldReader α) (members : List (String × Json)) (a : α) : Prop :=
  r.run (.members members) = (.ok a, .members members)

theorem run_map (f : α → β) (r : FieldReader α) (source : Source) :
    (f <$> r).run source = ((r.run source).1.map f, (r.run source).2) := rfl

theorem run_seq (f : FieldReader (α → β)) (r : FieldReader α) (source : Source) :
    (f <*> r).run source = ((f.run source).1.both (r.run (f.run source).2).1,
      (r.run (f.run source).2).2) := rfl

theorem Yields.map {r : FieldReader α} {P : α → Prop} {f : α → β} {Q : β → Prop}
    (imp : ∀ a, P a → Q (f a)) (h : r.Yields P) : (f <$> r).Yields Q := by
  intro source b ok
  rw [run_map] at ok
  obtain ⟨a, given, rfl⟩ := exists_of_map_eq_ok ok
  exact imp a (h source a given)

/-- The function first, then its argument, each with what is known of it. -/
theorem Yields.seq {f : FieldReader (α → β)} {r : FieldReader α} {P : α → Prop} {Q : β → Prop}
    (hf : f.Yields fun g => ∀ a, P a → Q (g a)) (hr : r.Yields P) : (f <*> r).Yields Q := by
  intro source b ok
  rw [run_seq] at ok
  -- the argument is read from what the function leaves of the source
  obtain ⟨g, a, function, argument, rfl⟩ := Placed.exists_of_both_eq_ok ok
  exact hf source g function a (hr _ a argument)

theorem Rereads.map {r : FieldReader α} {members : List (String × Json)} {a : α} {f : α → β}
    (h : r.Rereads members a) : (f <$> r).Rereads members (f a) := by
  rw [Rereads, run_map, h]
  rfl

theorem Rereads.seq {f : FieldReader (α → β)} {r : FieldReader α}
    {members : List (String × Json)} {g : α → β} {a : α} (hf : f.Rereads members g)
    (hr : r.Rereads members a) : (f <*> r).Rereads members (g a) := by
  rw [Rereads, run_seq, hf, hr]
  rfl

end FieldReader

/-- Of one field it is known what its reader yields, and its value where it is not written. -/
theorem yields_fieldAs {name : String} {others : List String} {absent : Option α}
    {read : Reader α} {P : α → Prop} (h : Yields read P) (default : ∀ a, absent = some a → P a) :
    (fieldAs name others absent read).Yields P := by
  have written {place : Nat} {v : Json} {a : α} (ok : placed place (read v) = .ok a) : P a := by
    cases given : read v with
    | error e => rw [given] at ok; contradiction
    | ok b =>
      rw [given] at ok
      obtain rfl := Except.ok.inj ok
      exact h v b given
  intro source a ok
  cases source with
  | members entries =>
    -- not written, with and without a value for that; written once; written twice
    simp only [fieldAs] at ok
    split at ok
    next => exact default a (congrArg some (Except.ok.inj ok))
    next => contradiction
    next => exact written ok
    next => split at ok <;> contradiction
  | items place left shape =>
    cases left with
    | cons v rest => exact written ok
    | nil =>
      simp only [fieldAs] at ok
      split at ok
      next => exact default a (congrArg some (Except.ok.inj ok))
      next => contradiction

/-- A field that is written once is read from what is written. -/
theorem rereads_fieldAs {name : String} {others : List String} {absent : Option α}
    {read : Reader α} {members : List (String × Json)} {place : Nat} {v : Json} {a : α}
    (h : read v = .ok a) (once : occurrences (name :: others) 0 members = [(place, v)]) :
    (fieldAs name others absent read).Rereads members a := by
  rw [FieldReader.Rereads, fieldAs]
  simp only [once, h, placed]

theorem yields_required {name : String} {read : Reader α} {P : α → Prop} (h : Yields read P) :
    (required name read).Yields P :=
  yields_fieldAs h nofun

theorem yields_field {name : String} {absent : α} {read : Reader α} {P : α → Prop}
    (h : Yields read P) (default : P absent) : (field name absent read).Yields P :=
  yields_fieldAs h fun _ same => Option.some.inj same ▸ default

/-! ## §5. Records -/

theorem yields_record {type : String} {size : Nat} {fields : FieldReader α} {P : α → Prop}
    (h : fields.Yields P) : Yields (record type size fields) P := by
  intro v a ok
  cases v with
  | object members =>
    simp only [record] at ok
    split at ok
    next b read => exact Except.ok.inj ok ▸ h _ b read
    next => contradiction
  | array items =>
    -- a field is wrong, items are left over, or all is well
    simp only [record] at ok
    split at ok
    next => contradiction
    next => contradiction
    next b _ _ read => exact Except.ok.inj ok ▸ h _ b (by rw [read])
  | _ => contradiction

theorem record_object {type : String} {size : Nat} {fields : FieldReader α}
    {members : List (String × Json)} {a : α} (h : fields.Rereads members a) :
    record type size fields (.object members) = .ok a := by
  rw [record, h]

/-! ## §6. Fields that are missing -/

namespace FieldReader

/-- From an object with these members the fields cannot be read. -/
def Fails (r : FieldReader α) (members : List (String × Json)) : Prop :=
  ∃ e, (r.run (.members members)).1 = .error e

theorem Fails.map {r : FieldReader α} {members : List (String × Json)} {f : α → β}
    (h : r.Fails members) : (f <$> r).Fails members := by
  obtain ⟨e, h⟩ := h
  exact ⟨e, by rw [run_map, h]; rfl⟩

/-- What is wrong with the first fields is not made good by later ones. -/
theorem Fails.seq {f : FieldReader (α → β)} {r : FieldReader α}
    {members : List (String × Json)} (h : f.Fails members) : (f <*> r).Fails members := by
  obtain ⟨e, h⟩ := h
  rw [Fails, run_seq, h]
  cases (r.run (f.run (.members members)).2).1 with
  | error d => exact ⟨_, rfl⟩
  | ok a => exact ⟨_, rfl⟩

end FieldReader

theorem fails_required {name : String} {read : Reader α} {members : List (String × Json)}
    (never : occurrences [name] 0 members = []) : (required name read).Fails members := by
  rw [FieldReader.Fails, required, fieldAs]
  simp only [never]
  exact ⟨_, rfl⟩

theorem record_of_fails {type : String} {size : Nat} {fields : FieldReader α}
    {members : List (String × Json)} (h : fields.Fails members) :
    ∃ e, record type size fields (.object members) = .error e := by
  obtain ⟨e, h⟩ := h
  exact ⟨e.2, by rw [record, h]⟩

/-! ## §7. Alternatives -/

theorem yields_map {read : Reader α} {P : α → Prop} {f : α → β} {Q : β → Prop}
    (h : Yields read P) (imp : ∀ a, P a → Q (f a)) : Yields (fun v => (read v).map f) Q := by
  intro v b ok
  obtain ⟨a, given, rfl⟩ := exists_of_map_eq_ok ok
  exact imp a (h v a given)

/-- Whatever the alternatives yield, the choice among them yields. -/
theorem yields_oneOf {type : String} {readers : List (Reader α)} {P : α → Prop}
    (h : ∀ read ∈ readers, Yields read P) : Yields (oneOf type readers) P := by
  intro v a ok
  rw [oneOf] at ok
  split at ok
  next b found =>
    obtain rfl := Except.ok.inj ok
    obtain ⟨read, mem, accepted⟩ := List.exists_of_findSome?_eq_some found
    cases given : read v with
    | error e => rw [given] at accepted; contradiction
    | ok c =>
      rw [given] at accepted
      obtain rfl := Option.some.inj accepted
      exact h read mem v c given
  next => contradiction

/-- The first alternative counts if it accepts the value. -/
theorem oneOf_of_ok {type : String} {read : Reader α} {more : List (Reader α)} {v : Json} {a : α}
    (h : read v = .ok a) : oneOf type (read :: more) v = .ok a := by
  rw [oneOf, List.findSome?_cons, h]
  rfl

/-- An alternative that refuses the value leaves it to the others. -/
theorem oneOf_of_error {type : String} {read : Reader α} {more : List (Reader α)} {v : Json}
    {e : DecodeError} (h : read v = .error e) :
    oneOf type (read :: more) v = oneOf type more v := by
  rw [oneOf, List.findSome?_cons, h]
  rfl

/-! ## §8. Depth -/

theorem depth_le_depthMembers {members : List (String × Json)} {e : String × Json}
    (h : e ∈ members) : depth e.2 ≤ depthMembers members := by
  induction members with
  | nil => contradiction
  | cons first rest ih =>
    obtain ⟨k, v⟩ := first
    rw [depthMembers]
    rcases List.mem_cons.mp h with rfl | h
    · exact Nat.le_max_left ..
    · exact Nat.le_trans (ih h) (Nat.le_max_right ..)

/-- A member is not as deep as its object. -/
theorem depth_lt_of_mem {members : List (String × Json)} {name : String} {v : Json}
    (h : (name, v) ∈ members) : depth v < depth (.object members) := by
  rw [depth]
  exact Nat.lt_succ_of_le (depth_le_depthMembers h)

end Pageflow.Document
