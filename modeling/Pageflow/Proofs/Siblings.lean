/-
  Pageflow.Proofs.Siblings — activities inside another one stand by priority.

  Siblings are laid out in the order of a stable sort by the total order of doubles.  What that
  order says of numbers is that smaller ones come first, and that nothing is said of equal ones,
  which then stay as they are declared; a missing priority lies above all numbers.  Only the two
  zeros are told apart though they are one number: the negative one comes first, wherever it is
  declared.

  Main definitions: `Activity.priorityValue`, `Activity.IsNumbered` and `InOrder`.
  Main statements: `pairwise_mergeSort_zipIdx`, `Declaration.ranked_inOrder` and
  `siblings_are_sorted_stably`.
-/
import Mathlib.Algebra.Order.Monoid.WithTop
import Pageflow.Proofs.Forest
import Pageflow.Proofs.Magnitudes

namespace Pageflow

/-! ## §1. Stable sorting. -/

/-- **Sorting is stable**: of two items of which the first comes no later than the second, and the
second no later than the first, the one that stood before the other still does. -/
theorem pairwise_mergeSort_zipIdx {α : Type} {le : α → α → Bool}
    (trans : ∀ a b c, le a b = true → le b c = true → le a c = true)
    (total : ∀ a b, (le a b || le b a) = true) (items : List α) :
    (items.zipIdx.mergeSort fun x y => le x.1 y.1).Pairwise fun x y =>
      le x.1 y.1 = true ∧ (le y.1 x.1 = true → x.2 < y.2) := by
  -- the library says it with numbers of its own, which here are those that the items have
  let le' : α × Nat → α × Nat → Bool := fun x y => le x.1 y.1
  have trans' : ∀ x y z, le' x y = true → le' y z = true → le' x z = true := fun x y z =>
    trans x.1 y.1 z.1
  have total' : ∀ x y, (le' x y || le' y x) = true := fun x y => total x.1 y.1
  have sorted := List.pairwise_mergeSort (List.zipIdxLE_trans trans')
    (List.zipIdxLE_total total') items.zipIdx.zipIdx
  have perm := List.mergeSort_perm items.zipIdx.zipIdx (List.zipIdxLE le')
  have distinct : (items.zipIdx.zipIdx.mergeSort (List.zipIdxLE le')).Pairwise
      fun x y => x.2 ≠ y.2 := by
    rw [← List.pairwise_map (f := Prod.snd) (R := fun i j => i ≠ j)]
    refine (perm.map Prod.snd).nodup_iff.mpr ?_
    rw [List.zipIdx_map_snd]
    exact List.nodup_range'
  have number : ∀ x ∈ items.zipIdx.zipIdx, x.1.2 = x.2 := by
    intro x hx
    have := List.mem_zipIdx_iff_getElem?.mp hx
    rw [List.getElem?_zipIdx] at this
    obtain ⟨_, _, h⟩ := Option.map_eq_some_iff.mp this
    rw [← h, Nat.zero_add]
  rw [← @List.mergeSort_zipIdx _ le', List.pairwise_map]
  refine (sorted.and distinct).imp_of_mem ?_
  intro x y hx hy ⟨hle, hne⟩
  rw [number x (perm.mem_iff.mp hx), number y (perm.mem_iff.mp hy)]
  unfold List.zipIdxLE at hle
  split at hle
  next before =>
    refine ⟨before, fun after => ?_⟩
    rw [if_pos after, decide_eq_true_eq] at hle
    omega
  next => contradiction

/-! ## §2. Priorities. -/

namespace Document

open Binary64 (zero negativeZero infinity)

/-- The priority as a number; without one an activity comes after all numbers. -/
def Activity.priorityValue (a : Activity) : WithTop ℚ :=
  match a.priority with
  | some x => (x.value : WithTop ℚ)
  | none => ⊤

/-- The priority, if there is one, is a number. -/
def Activity.IsNumbered (a : Activity) : Prop := ∀ x, a.priority = some x → x.isFinite = true

instance (a : Activity) : Decidable a.IsNumbered :=
  decidable_of_iff (a.priority.all Binary64.isFinite = true)
    (Option.all_eq_true _ _)

variable {a b : Activity}

theorem priorityValue_le_of_totalLe (hb : b.IsNumbered)
    (h : a.effectivePriority.totalLe b.effectivePriority = true) :
    a.priorityValue ≤ b.priorityValue := by
  unfold Activity.effectivePriority at h
  unfold Activity.priorityValue
  cases hy : b.priority with
  | none => exact le_top
  | some y =>
    cases hx : a.priority with
    | none =>
      rw [hx, hy, Binary64.totalLe, decide_eq_true_eq] at h
      exact absurd (Binary64.rank_lt_infinity (hb y hy)) (not_lt.mpr h)
    | some x =>
      rw [hx, hy] at h
      exact WithTop.coe_le_coe.mpr (Binary64.value_le_of_totalLe h)

theorem totalLe_of_priorityValue_eq (h : a.priorityValue = b.priorityValue) :
    a.effectivePriority.totalLe b.effectivePriority = true
      ∨ a.priority = some zero ∧ b.priority = some negativeZero := by
  unfold Activity.priorityValue at h
  unfold Activity.effectivePriority
  cases hx : a.priority with
  | none =>
    cases hy : b.priority with
    | none => exact .inl (decide_eq_true (le_refl infinity.rank))
    | some y =>
      rw [hx, hy] at h
      exact absurd h WithTop.top_ne_coe
  | some x =>
    cases hy : b.priority with
    | none =>
      rw [hx, hy] at h
      exact absurd h WithTop.coe_ne_top
    | some y =>
      rw [hx, hy] at h
      refine (Binary64.totalLe_of_value_eq (WithTop.coe_inj.mp h)).imp id ?_
      rintro ⟨rfl, rfl⟩
      exact ⟨rfl, rfl⟩

/-! ## §3. Siblings in order. -/

/-- How what is declared at two positions inside a declaration is ordered if the first of them
comes first: its number is smaller, or they are the same and it is declared first.  Nothing is
said of a negative zero before a zero. -/
def InOrder (d : Declaration) (i j : Nat) : Prop :=
  ∀ e f, d.inner[i]? = some e → d.inner[j]? = some f →
    e.activity.priorityValue ≤ f.activity.priorityValue
      ∧ (e.activity.priorityValue = f.activity.priorityValue →
        i < j ∨ e.activity.priority = some negativeZero ∧ f.activity.priority = some zero)

/-- **What is declared inside a declaration is ranked by number, and then as it is declared.** -/
theorem Declaration.ranked_inOrder (d : Declaration)
    (numbered : ∀ e ∈ d.inner, e.activity.IsNumbered) :
    (d.ranked.map Prod.snd).Pairwise (InOrder d) := by
  have sorted := pairwise_mergeSort_zipIdx
    (fun a b c : Declaration => Binary64.totalLe_trans (x := a.activity.effectivePriority)
      (y := b.activity.effectivePriority) (z := c.activity.effectivePriority))
    (fun a b => Binary64.totalLe_total a.activity.effectivePriority b.activity.effectivePriority)
    d.inner
  rw [List.pairwise_map]
  refine List.Pairwise.imp_of_mem ?_ sorted
  rintro ⟨e, i⟩ ⟨f, j⟩ he hf ⟨hle, stable⟩ e' f' he' hf'
  have he := Declaration.mem_ranked.mp he
  have hf := Declaration.mem_ranked.mp hf
  obtain rfl := Option.some.inj (he.symm.trans he')
  obtain rfl := Option.some.inj (hf.symm.trans hf')
  refine ⟨priorityValue_le_of_totalLe (numbered f (List.mem_of_getElem? hf)) hle,
    fun same => ?_⟩
  exact (totalLe_of_priorityValue_eq same.symm).imp stable And.symm

end Document

namespace Flow

open Document (Address Declaration InOrder)

variable {m : Materials} {page : Document.Page} {process : Document.Process} {flow : Flow}

/-- What a declaration becomes lists what is declared inside it by priority. -/
theorem IsBuilt.ranks (hb : IsBuilt m page process flow) :
    ∃ place, IsForest m process flow place
      ∧ ∀ address d, process.declaration? address = some d →
        ∃ b, flow.arena[place address]? = some b
          ∧ b.subActivities = rankedPlaces place address d := by
  have follows := Follows.idxOf process.nodup_route
  have laid := declared_isLaid m page process follows
  refine ⟨_, laid.isForest hb follows, ?_⟩
  intro address d hd
  obtain ⟨parent, ha⟩ := laid.stands address d hd
  obtain ⟨b, hb, retains, _⟩ := hb.rounded.at ha
  exact ⟨b, hb, retains.subActivities⟩

/-- **Siblings are sorted stably.**  In every flow the activities that are made of what is declared
inside a declaration stand in the order of a permutation of their positions.  What comes first
there has the smaller number as its priority, where a missing one counts as larger than all; or
the numbers are the same, and it is declared first.  Only of a zero and a negative zero nothing is
said. -/
theorem siblings_are_sorted_stably (hb : IsBuilt m page process flow) :
    ∃ place, IsForest m process flow place
      ∧ ∀ address d, process.declaration? address = some d →
        (∀ e ∈ d.inner, e.activity.IsNumbered) →
        ∃ (b : Activity) (order : List Nat), flow.arena[place address]? = some b
          ∧ b.subActivities = order.map (fun i => place (address ++ [i]))
          ∧ order.Perm (List.range d.inner.length)
          ∧ order.Pairwise (InOrder d) := by
  obtain ⟨place, forest, ranks⟩ := hb.ranks
  refine ⟨place, forest, ?_⟩
  intro address d hd numbered
  obtain ⟨b, hat, hsub⟩ := ranks address d hd
  refine ⟨b, d.ranked.map Prod.snd, hat, ?_, ?_, d.ranked_inOrder numbered⟩
  · rw [hsub, rankedPlaces, List.map_map]
    rfl
  · rw [List.range_eq_range', ← List.zipIdx_map_snd 0 d.inner]
    exact d.ranked_perm.map _

/-! ## §4. Jobs. -/

/-- The activities inside another one, in order, by name. -/
def innerNames (flow : Flow) (place : Nat) : List String :=
  ((flow.arena[place]?).map Activity.subActivities).getD [] |>.filterMap fun k =>
    (flow.arena[k]?).map Activity.name

/-- A job with others inside it, as they are declared. -/
def jobDeclaration (inner : List (String × Document.Activity)) : Declaration :=
  .ofActivity "jobs" ("run", { moduleFunction := some "run", subActivities := inner })

def jobProcess (inner : List (String × Document.Activity)) : Document.Process where
  services := [("jobs",
    { activities := [("run", { moduleFunction := some "run", subActivities := inner })] })]

def jobMaterials : Materials where
  functions := [("run", ⟨"jobs", "run", []⟩)]
  bridges := []

/-- Jobs with whole numbers, fractions and none. -/
def mixedJobs : List (String × Document.Activity) :=
  [("third", { moduleFunction := some "run", priority := some (.ofInt 3) }),
    ("last", { moduleFunction := some "run" }),
    ("half", { moduleFunction := some "run", priority := some (.ofRatio false 1 2) }),
    ("tie", { moduleFunction := some "run", priority := some (.ofInt 3) }),
    ("first", { moduleFunction := some "run", priority := some (.ofInt (-1)) })]

theorem byPriority_mixedJobs : byPriority (arrangedAll mixedJobs) =
    [("first", { moduleFunction := some "run", priority := some (.ofInt (-1)) }),
      ("half", { moduleFunction := some "run", priority := some (.ofRatio false 1 2) }),
      ("third", { moduleFunction := some "run", priority := some (.ofInt 3) }),
      ("tie", { moduleFunction := some "run", priority := some (.ofInt 3) }),
      ("last", { moduleFunction := some "run" })] := by
  simp +decide [byPriority, arrangedAll, arranged, mixedJobs, List.mergeSort,
    List.MergeSort.Internal.splitInTwo]

/-- The jobs stand by number; of the two with the same number the first one comes first. -/
theorem siblings_are_sorted_stably_mixed : ∃ flow,
    IsBuilt jobMaterials {} (jobProcess mixedJobs) flow
    ∧ (∀ e ∈ (jobDeclaration mixedJobs).inner, e.activity.IsNumbered)
    ∧ innerNames flow 0 = ["first", "half", "third", "tie", "last"]
    ∧ ∃ order : List Nat, order.Perm (List.range 5)
      ∧ order.Pairwise (InOrder (jobDeclaration mixedJobs)) := by
  -- a merge sort does not compute in the kernel, so its result is put in first
  have assembled : (assemble? jobMaterials {} (jobProcess mixedJobs)).value.map (innerNames · 0)
      = some ["first", "half", "third", "tie", "last"] := by
    simp only [assemble?, declared, jobProcess, layoutServices, layoutTop, arranged,
      byPriority_mixedJobs]
    decide +kernel
  obtain ⟨flow, hflow, names⟩ := Option.map_eq_some_iff.mp assembled
  have built := isBuilt_of_assemble hflow
  have numbered : ∀ e ∈ (jobDeclaration mixedJobs).inner, e.activity.IsNumbered := by
    decide +kernel
  obtain ⟨_, -, sorted⟩ := siblings_are_sorted_stably built
  obtain ⟨_, order, -, -, perm, inOrder⟩ := sorted [0, 0] (jobDeclaration mixedJobs) rfl numbered
  exact ⟨flow, built, numbered, names, order, perm, inOrder⟩

/-- Two jobs with one number, written with and without a sign. -/
def zeroJobs : List (String × Document.Activity) :=
  [("first", { moduleFunction := some "run", priority := some .zero }),
    ("second", { moduleFunction := some "run", priority := some .negativeZero })]

theorem byPriority_zeroJobs : byPriority (arrangedAll zeroJobs) =
    [("second", { moduleFunction := some "run", priority := some .negativeZero }),
      ("first", { moduleFunction := some "run", priority := some .zero })] := by
  simp +decide [byPriority, arrangedAll, arranged, zeroJobs, List.mergeSort,
    List.MergeSort.Internal.splitInTwo]

/-- Zero and negative zero are one number, but jobs with them do not stay as they are declared. -/
theorem signed_zeros_change_places : ∃ flow,
    IsBuilt jobMaterials {} (jobProcess zeroJobs) flow
    ∧ (∀ e ∈ (jobDeclaration zeroJobs).inner, e.activity.IsNumbered)
    ∧ Binary64.zero.value = Binary64.negativeZero.value
    ∧ zeroJobs.map Prod.fst = ["first", "second"]
    ∧ innerNames flow 0 = ["second", "first"] := by
  have assembled : (assemble? jobMaterials {} (jobProcess zeroJobs)).value.map (innerNames · 0)
      = some ["second", "first"] := by
    simp only [assemble?, declared, jobProcess, layoutServices, layoutTop, arranged,
      byPriority_zeroJobs]
    decide +kernel
  obtain ⟨flow, hflow, names⟩ := Option.map_eq_some_iff.mp assembled
  exact ⟨flow, isBuilt_of_assemble hflow, by decide +kernel,
    Binary64.value_inj.mpr (by decide +kernel), rfl, names⟩

end Flow

end Pageflow
