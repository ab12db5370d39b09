/-
  Pageflow.Proofs.Vouched — values and the files that they describe.

  A value that describes a file is told from others by its looks, wherever it comes from and
  however deep inside another value it stands.  So what matters about a value is which files are
  described anywhere inside it: it is vouched for if they all belong to a given set.  To take a
  part of a value, or to put values under names, describes no further file.

  Main definitions: `Json.Inside`, `Vouched` and `Fine`.
  Main statements: `inside_select`, `Vouched.select`, `vouched_keptFile` and `vouched_ofBytes`.
-/
import Pageflow.Json.Selection
import Pageflow.Run.Input

namespace Pageflow

/-! ## §1. Values inside values. -/

namespace Json

/-- A value stands somewhere inside another one, or is it. -/
inductive Inside (w : Json) : Json → Prop
  | self : Inside w w
  | item {items : List Json} {v : Json} (hv : v ∈ items) (h : Inside w v) :
      Inside w (.array items)
  | member {members : List (String × Json)} {e : String × Json} (he : e ∈ members)
      (h : Inside w e.2) : Inside w (.object members)

variable {u v w : Json}

theorem Inside.trans (h : Inside w v) (h' : Inside v u) : Inside w u := by
  induction h' with
  | self => exact h
  | item hv _ ih => exact .item hv ih
  | member he _ ih => exact .member he ih

theorem inside_step {segment : String} (h : v.step segment = some w) : Inside w v := by
  cases v with
  | object members => exact .member (Dict.mem_of_get? h) .self
  | array items =>
    obtain ⟨i, _, hi⟩ := Option.bind_eq_some_iff.mp h
    exact .item (List.mem_of_getElem? hi) .self
  | _ => contradiction

theorem inside_walk : ∀ {segments : List String} {v : Json}, v.walk segments = some w →
    Inside w v
  | [], v, h => by
      obtain rfl := Option.some.inj h
      exact .self
  | segment :: rest, v, h => by
      obtain ⟨u, hu, h⟩ := Option.bind_eq_some_iff.mp h
      exact (inside_walk h).trans (inside_step hu)

/-- **A part of a value stands inside it.** -/
theorem inside_select {path : String} (h : v.select path = some w) : Inside w v := inside_walk h

end Json

namespace Run

open Json (Inside)

/-! ## §2. Values that are vouched for. -/

/-- Every file that is described anywhere inside the value is one of these. -/
def Vouched (V : String → Prop) (v : Json) : Prop :=
  ∀ w, Inside w v → ∀ name path, keptFile? w = some (name, path) → V path

variable {V W : String → Prop} {v w : Json}

theorem Vouched.mono (h : Vouched V v) (hVW : ∀ path, V path → W path) : Vouched W v :=
  fun w hw name path hk => hVW path (h w hw name path hk)

/-- Whatever stands inside a value that is vouched for is vouched for. -/
theorem Vouched.inside (h : Vouched V v) (hw : Inside w v) : Vouched V w :=
  fun u hu => h u (hu.trans hw)

/-- A value without parts describes nothing. -/
theorem vouched_of_flat (members : v.members? = none) (items : v.items? = none) :
    Vouched V v := by
  intro w hw
  cases hw with
  | self =>
    intro name path hk
    rw [keptFile?, members] at hk
    contradiction
  | item => contradiction
  | member => contradiction

theorem vouched_null : Vouched V .null := vouched_of_flat rfl rfl

theorem vouched_string (s : String) : Vouched V (.string s) := vouched_of_flat rfl rfl

theorem vouched_number (n : Number) : Vouched V (.number n) := vouched_of_flat rfl rfl

theorem vouched_ofText? (s : Option String) : Vouched V (.ofText? s) := by
  cases s <;> exact vouched_of_flat rfl rfl

/-- **A part of a value that is vouched for is**, and so is the lack of one. -/
theorem Vouched.select (h : Vouched V v) (path : String) :
    Vouched V ((v.select path).getD .null) := by
  cases hs : v.select path with
  | some w => exact h.inside (Json.inside_select hs)
  | none => exact vouched_null

theorem vouched_array {items : List Json} (h : ∀ v ∈ items, Vouched V v) :
    Vouched V (.array items) := by
  intro w hw
  cases hw with
  -- a list has no members, so it is no description itself
  | self => exact fun name path hk => by contradiction
  | item hv hw => exact h _ hv w hw

/-- A list of bytes describes nothing. -/
theorem vouched_ofBytes (bytes : Bytes) : Vouched V (.ofBytes bytes) := by
  refine vouched_array ?_
  intro v hv
  obtain ⟨b, _, rfl⟩ := List.mem_map.mp hv
  exact vouched_number _

/-! ## §3. Values under names. -/

/-- All values under names are vouched for. -/
def Fine (V : String → Prop) (d : Dict Json) : Prop := ∀ e ∈ d, Vouched V e.2

variable {d more : Dict Json}

theorem fine_nil : Fine V [] := fun _ h => absurd h List.not_mem_nil

theorem Fine.mono (h : Fine V d) (hVW : ∀ path, V path → W path) : Fine W d :=
  fun e he => (h e he).mono hVW

theorem Fine.get? (h : Fine V d) {key : String} (hk : d.get? key = some v) : Vouched V v :=
  h _ (Dict.mem_of_get? hk)

theorem Fine.insert (h : Fine V d) {key : String} (hv : Vouched V v) :
    Fine V (d.insert key v) := by
  intro e he
  rcases Dict.mem_of_mem_insert he with rfl | he
  · exact hv
  · exact h e he

theorem Fine.insertAll (h : Fine V d) (hm : Fine V more) : Fine V (d.insertAll more) := by
  intro e he
  rcases Dict.mem_of_mem_insertAll he with he | he
  · exact h e he
  · exact hm e he

/-- The members of a value that is vouched for are. -/
theorem Vouched.members (h : Vouched V v) : Fine V (v.members?.getD []) := by
  cases v with
  | object members => exact fun e he => h.inside (.member he .self)
  | _ => exact fine_nil

/-- An object describes a file at most itself, besides what its members describe. -/
theorem vouched_object (h : Fine V d)
    (own : ∀ name path, keptFile? (.object d) = some (name, path) → V path) :
    Vouched V (.object d) := by
  intro w hw
  cases hw with
  | self => exact own
  | member he hw => exact h _ he w hw

theorem vouched_empty : Vouched V (.object []) :=
  vouched_object fine_nil fun name path hk => by contradiction

/-! ## §4. Descriptions of files. -/

theorem keptFile?_keptFile (path : String) (size : Nat) :
    keptFile? (keptFile path size) = some ((Path.fileName? path).getD "", path) := by
  simp [keptFile?, keptFile, Json.members?, Dict.get?, Json.text?, Json.integer, Json.nat?]

/-- **The description of a file describes no other file.** -/
theorem vouched_keptFile {path : String} (h : V path) (size : Nat) :
    Vouched V (keptFile path size) := by
  refine vouched_object ?_ ?_
  · intro e he
    simp only [List.mem_cons, List.not_mem_nil, or_false] at he
    rcases he with rfl | rfl | rfl
    · exact vouched_string _
    · exact vouched_string _
    · exact vouched_number _
  · intro name other hk
    -- what it is taken for is read back from its own members
    have described : keptFile? (keptFile path size) = some (name, other) := hk
    rw [keptFile?_keptFile] at described
    obtain ⟨_, rfl⟩ := Prod.mk.inj (Option.some.inj described)
    exact h

end Run

end Pageflow
