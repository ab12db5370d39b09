/-
  Pageflow.Proofs.Starts — how often an activity starts in a story.

  A story is about what its activity comes to run.  No run comes back to its own activity, and none
  comes to a sub-activity but from the activity above it or from itself.  So an activity starts once
  in its own story, and each of its sub-activities starts there as often as it stands among them.

  Main definitions: `Reaches`, `Inner` and `starts`.
  Main statements: `not_reaches_sub`, `Ran.inner` and `Story.starts_sub`.
-/
import Pageflow.Proofs.Frame
import Pageflow.Proofs.Stories

namespace Pageflow

open Pageflow.Flow (Activity Orderly)

/-! ## §1. What a run may come to. -/

namespace Flow

/-- A run of the activity at place `h` may come to run the one at place `k`. -/
abbrev Reaches (flow : Flow) : Nat → Nat → Prop := Relation.ReflTransGen flow.Calls

variable {flow : Flow} {h j k p : Nat} {a b : Activity}

/-- No run comes back to its own activity. -/
theorem not_reaches_of_calls (ho : Orderly flow) (hc : flow.Calls h j) : ¬ flow.Reaches j h := by
  have falls : ∀ {k}, flow.Reaches j k → flow.rank k ≤ flow.rank j := by
    intro k reaches
    induction reaches with
    | refl => exact Nat.le_refl _
    | tail _ call ih => exact Nat.le_trans (Nat.le_of_lt (rank_lt_of_calls ho call)) ih
  intro reaches
  exact Nat.not_lt.mpr (falls reaches) (rank_lt_of_calls ho hc)

/-- What stands below an activity stands behind it. -/
theorem le_of_below (ho : Orderly flow) (below : flow.Below j k) : j ≤ k := by
  induction below with
  | refl => exact Nat.le_refl _
  | @tail h i _ sub ih =>
    obtain ⟨c, hc, hi⟩ := sub
    exact Nat.le_trans ih (Nat.le_of_lt ((ho.placed h c hc).sub i hi).1)

theorem covers_or_makerAt_of_reaches (ho : Orderly flow) (reaches : flow.Reaches j k) :
    flow.Covers j k ∨ Run.MakerAt flow k := by
  induction reaches with
  | refl => exact .inl (covers_refl flow j)
  | tail _ call ih => exact Run.covers_or_makerAt_of_calls ho ih call

/-- A run that does not start below the activity above a sub-activity never comes to it, unless it
starts there. -/
theorem not_reaches_sub (ho : Orderly flow) (ha : flow.arena[p]? = some a)
    (hk : k ∈ a.subActivities) (hb : flow.arena[j]? = some b) (own : b.isReference = false)
    (hne : j ≠ k) (apart : ¬ flow.Below j p) : ¬ flow.Reaches j k := by
  intro reaches
  obtain ⟨_, c, hc, declared, above, _⟩ := (ho.placed p a ha).sub k hk
  rcases covers_or_makerAt_of_reaches ho reaches with
    (below | ⟨b', t, hb', ht, _⟩) | ⟨c', hc', maker⟩
  · rcases below.cases_tail with rfl | ⟨q, below, a', ha', hk'⟩
    · exact hne rfl
    · -- an activity is below one other
      obtain ⟨_, c', hc', _, above', _⟩ := (ho.placed q a' ha').sub k hk'
      obtain rfl := Option.some.inj (hc.symm.trans hc')
      obtain rfl := Option.some.inj (above.symm.trans above')
      exact apart below
  · -- only a reference has a target
    obtain rfl := Option.some.inj (hb.symm.trans hb')
    rw [Activity.isReference_of_target?_eq_some ht] at own
    contradiction
  · -- what is declared is not made for a value
    obtain rfl := Option.some.inj (hc.symm.trans hc')
    have generated := maker.isGenerated
    rw [declared.isGenerated] at generated
    contradiction

/-- To run one sub-activity never comes to another. -/
theorem not_reaches_sibling (ho : Orderly flow) (ha : flow.arena[p]? = some a)
    (hk : k ∈ a.subActivities) (hj : j ∈ a.subActivities) (hne : j ≠ k) : ¬ flow.Reaches j k := by
  obtain ⟨hlt, b, hb, declared, _⟩ := (ho.placed p a ha).sub j hj
  refine not_reaches_sub ho ha hk hb declared.isReference hne ?_
  intro below
  exact Nat.not_lt.mpr (le_of_below ho below) hlt

/-- What runs before a result is settled never comes to a sub-activity. -/
theorem not_reaches_of_runsBefore (ho : Orderly flow) (ha : flow.arena[p]? = some a)
    (hk : k ∈ a.subActivities) (hj : Run.RunsBefore a j) : ¬ flow.Reaches j k := by
  obtain ⟨_, c, hc, _, above, _⟩ := (ho.placed p a ha).sub k hk
  have hne : j ≠ k := by
    rintro rfl
    obtain ⟨b, hb, top⟩ := Run.isTop_of_runsBefore ho ha hj
    obtain rfl := Option.some.inj (hb.symm.trans hc)
    rw [top] at above
    contradiction
  rcases hj with hj | hj
  · obtain ⟨hlt, b, hb, maker, _⟩ := (ho.placed p a ha).maker j hj
    refine not_reaches_sub ho ha hk hb maker.isReference hne ?_
    intro below
    exact Nat.not_lt.mpr (le_of_below ho below) hlt
  · obtain ⟨hlt, b, hb, declared', _⟩ := (ho.placed p a ha).target j hj
    refine not_reaches_sub ho ha hk hb declared'.isReference hne ?_
    -- a target stands before the activity, but a reference stands below nothing
    intro below
    rcases below.cases_tail with rfl | ⟨q, _, sub⟩
    · exact Nat.lt_irrefl _ hlt
    · have own := isReference_of_hasSub ho sub ha
      rw [Activity.isReference_of_target?_eq_some hj] at own
      contradiction

end Flow

namespace Run

/-! ## §2. Who starts in a story, and how often. -/

/-- A mark of the run of the activity at place `h`, other than its start, or one of what it
runs. -/
def Inner (flow : Flow) (h : Nat) (m : Mark) : Prop :=
  (m.place = h ∧ ∀ before, m.stage ≠ .entered before) ∨ ∃ j, flow.Calls h j ∧ flow.Reaches j m.place

variable {flow : Flow} {h k p : Nat} {a : Activity}

theorem Inner.reaches {m : Mark} (inner : Inner flow h m) : flow.Reaches h m.place := by
  rcases inner with ⟨rfl, _⟩ | ⟨j, call, reaches⟩
  · exact .refl
  · exact .head call reaches

/-- A mark of one's own, or one of what runs before the result is settled. -/
theorem inner_opening (ha : flow.arena[h]? = some a) {m : Mark}
    (hm : OwnCall h m ∨ ∃ j, RunsBefore a j ∧ flow.Reaches j m.place) : Inner flow h m := by
  rcases hm with own | ⟨j, hj, reaches⟩
  · cases own <;> exact .inl ⟨rfl, by simp⟩
  · refine .inr ⟨j, ⟨a, ha, Activity.mem_callees.mpr ?_⟩, reaches⟩
    exact hj.imp_right .inl

theorem inner_below (ha : flow.arena[h]? = some a) {m : Mark}
    (hm : ∃ j ∈ a.subActivities, flow.Reaches j m.place) : Inner flow h m := by
  obtain ⟨j, hj, reaches⟩ := hm
  exact .inr ⟨j, ⟨a, ha, Activity.mem_callees.mpr (.inr (.inr hj))⟩, reaches⟩

theorem inner_settled {upTo down : List Mark} {result : Json} (first : ∀ m ∈ upTo, Inner flow h m)
    (last : ∀ m ∈ down, Inner flow h m) :
    ∀ m ∈ upTo ++ ⟨h, .settled result⟩ :: down, Inner flow h m :=
  List.forall_mem_append.mpr ⟨first, List.forall_mem_cons.mpr ⟨.inl ⟨rfl, by simp⟩, last⟩⟩

mutual

/-- **A story is about what its activity comes to run.** -/
theorem Story.reaches : ∀ {h : Nat} {before : Inherited} {told : List Mark}
    {x : Except ActivityFailure Json} {t : State}, Story flow h before told x t →
      ∀ m ∈ told, flow.Reaches h m.place
  | _, _, _, _, _, .ended ha ran => by
      refine List.forall_mem_cons.mpr ⟨.refl, fun m hm => ?_⟩
      exact (ran.inner ha m hm).reaches
  | _, _, _, _, _, .failed ha ran => by
      refine List.forall_mem_cons.mpr ⟨.refl, List.forall_mem_append.mpr ⟨fun m hm => ?_, ?_⟩⟩
      · exact (ran.inner ha m hm).reaches
      · exact List.forall_mem_singleton.mpr .refl

theorem Ran.inner : ∀ {h : Nat} {a : Activity} {told : List Mark}
    {x : Except ActivityFailure Json} {t : State}, Ran flow h a told x t →
      flow.arena[h]? = some a → ∀ m ∈ told, Inner flow h m
  | _, _, _, _, _, .unsettled opening, ha => fun m hm => inner_opening ha (opening.among m hm)
  | _, _, _, _, _, .finished opening _ handed, ha =>
      inner_settled (fun m hm => inner_opening ha (opening.among m hm)) (handed.inner ha)
  | _, _, _, _, _, .unfinished opening _ handed, ha =>
      inner_settled (fun m hm => inner_opening ha (opening.among m hm)) (handed.inner ha)

theorem HandedDown.inner : ∀ {h : Nat} {a : Activity} {result : Json} {told : List Mark}
    {x : Except ActivityFailure Unit} {t : State}, HandedDown flow h a result told x t →
      flow.arena[h]? = some a → ∀ m ∈ told, Inner flow h m
  | _, _, _, _, _, _, .completed subs, ha => by
      refine List.forall_mem_append.mpr ⟨fun m hm => inner_below ha (subs.among m hm), ?_⟩
      exact List.forall_mem_singleton.mpr (.inl ⟨rfl, by simp⟩)
  | _, _, _, _, _, _, .unpresented subs, ha => fun m hm => inner_below ha (subs.among m hm)
  | _, _, _, _, _, _, .stopped subs, ha => fun m hm => inner_below ha (subs.among m hm)

theorem Siblings.among : ∀ {parent : Json} {places : List Nat} {previous : Option Json}
    {told : List Mark} {x : Except ActivityFailure Unit} {t : State},
    Siblings flow parent places previous told x t →
      ∀ m ∈ told, ∃ j ∈ places, flow.Reaches j m.place
  | _, _, _, _, _, _, .none => by simp
  | _, _, _, _, _, _, .next first others => by
      refine List.forall_mem_append.mpr ⟨fun m hm => ?_, fun m hm => ?_⟩
      · exact ⟨_, List.mem_cons_self, first.reaches m hm⟩
      · obtain ⟨j, hj, reaches⟩ := others.among m hm
        exact ⟨j, List.mem_cons_of_mem _ hj, reaches⟩
  | _, _, _, _, _, _, .stop first => fun m hm => ⟨_, List.mem_cons_self, first.reaches m hm⟩

theorem Medley.among : ∀ {own : Mark → Prop} {others : Nat → Prop} {told : List Mark},
    Medley flow own others told →
      ∀ m ∈ told, own m ∨ ∃ j, others j ∧ flow.Reaches j m.place
  | _, _, _, .nil => by simp
  | _, _, _, .mark h rest => List.forall_mem_cons.mpr ⟨.inl h, rest.among⟩
  | _, _, _, .story h first rest =>
      List.forall_mem_append.mpr ⟨fun m hm => .inr ⟨_, h, first.reaches m hm⟩, rest.among⟩

end

/-! ## §3. How often. -/

/-- The mark is the start of the activity at this place. -/
def Mark.isStart (k : Nat) (m : Mark) : Bool :=
  match m.stage with
  | .entered _ => m.place = k
  | _ => false

/-- How often the activity at a place starts. -/
def starts (k : Nat) (told : List Mark) : Nat := told.countP (Mark.isStart k)

@[simp] theorem starts_append (k : Nat) (first last : List Mark) :
    starts k (first ++ last) = starts k first + starts k last := List.countP_append

@[simp] theorem starts_cons_entered (k place : Nat) (before : Inherited) (more : List Mark) :
    starts k (⟨place, .entered before⟩ :: more)
      = starts k more + if place = k then 1 else 0 := by
  simp [starts, List.countP_cons, Mark.isStart]

/-- Only a start counts. -/
theorem starts_cons_of_later (k : Nat) {m : Mark} (h : ∀ before, m.stage ≠ .entered before)
    (more : List Mark) : starts k (m :: more) = starts k more := by
  have later : m.isStart k = false := by
    unfold Mark.isStart
    split
    next before hm => exact absurd hm (h before)
    next => rfl
  rw [starts, List.countP_cons, later, starts]
  rfl

theorem starts_eq_zero {told : List Mark}
    (h : ∀ m ∈ told, m.place = k → ∀ before, m.stage ≠ .entered before) : starts k told = 0 := by
  refine List.countP_eq_zero.mpr fun m hm start => ?_
  unfold Mark.isStart at start
  split at start
  next before hs => exact h m hm (of_decide_eq_true start) before hs
  next => contradiction

/-- Nothing that is not reached starts. -/
theorem starts_eq_zero_of_not_reaches {told : List Mark}
    (h : ∀ m ∈ told, ∃ j, flow.Reaches j m.place ∧ ¬ flow.Reaches j k) : starts k told = 0 := by
  refine starts_eq_zero fun m hm place => ?_
  obtain ⟨j, reaches, not⟩ := h m hm
  rw [place] at reaches
  exact absurd reaches not

/-- Whatever is inside a run, its activity does not start again. -/
theorem starts_inner (ho : Orderly flow) {told : List Mark} (h' : ∀ m ∈ told, Inner flow h m) :
    starts h told = 0 := by
  refine starts_eq_zero fun m hm place => ?_
  rcases h' m hm with ⟨_, later⟩ | ⟨j, call, reaches⟩
  · exact later
  · rw [place] at reaches
    exact absurd reaches (Flow.not_reaches_of_calls ho call)

/-- **An activity starts once in its own story.** -/
theorem Story.starts_self (ho : Orderly flow) {before : Inherited} {told : List Mark}
    {x : Except ActivityFailure Json} {t : State} (story : Story flow h before told x t) :
    starts h told = 1 := by
  cases story with
  | ended ha ran => rw [starts_cons_entered, starts_inner ho (ran.inner ha), if_pos rfl]
  | failed ha ran =>
    rw [starts_cons_entered, starts_inner ho ?_, if_pos rfl]
    exact List.forall_mem_append.mpr ⟨ran.inner ha,
      List.forall_mem_singleton.mpr (.inl ⟨rfl, by simp⟩)⟩

section SubActivities

variable {j : Nat} {told : List Mark} {t : State} (ho : Orderly flow)
  (ha : flow.arena[p]? = some a) (hk : k ∈ a.subActivities)

include ho ha hk

theorem starts_sibling {before : Inherited} {x : Except ActivityFailure Json}
    (hj : j ∈ a.subActivities) (story : Story flow j before told x t) :
    starts k told ≤ if j == k then 1 else 0 := by
  by_cases h : j = k
  · subst h
    rw [story.starts_self ho]
    simp
  · have none : starts k told = 0 := starts_eq_zero_of_not_reaches fun m hm =>
      ⟨j, story.reaches m hm, Flow.not_reaches_sibling ho ha hk hj h⟩
    rw [none]
    exact Nat.zero_le _

/-- Among siblings each one starts at most as often as it stands among them. -/
theorem starts_siblings : ∀ {parent : Json} {places : List Nat} {previous : Option Json}
    {told : List Mark} {x : Except ActivityFailure Unit} {t : State},
    Siblings flow parent places previous told x t → places ⊆ a.subActivities →
      starts k told ≤ places.count k
  | _, _, _, _, _, _, .none, _ => Nat.zero_le _
  | _, j :: rest, _, _, _, _, .next first others, among => by
      obtain ⟨hj, among⟩ := List.cons_subset.mp among
      rw [starts_append, List.count_cons, Nat.add_comm]
      exact Nat.add_le_add (starts_siblings others among) (starts_sibling ho ha hk hj first)
  | _, j :: rest, _, _, _, _, .stop first, among => by
      obtain ⟨hj, _⟩ := List.cons_subset.mp among
      rw [List.count_cons]
      exact Nat.le_add_left_of_le (starts_sibling ho ha hk hj first)

theorem starts_opening (opening : Medley flow (OwnCall p) (RunsBefore a) told) :
    starts k told = 0 := by
  refine starts_eq_zero fun m hm place => ?_
  rcases opening.among m hm with own | ⟨j, hj, reaches⟩
  · cases own <;> simp
  · rw [place] at reaches
    exact absurd reaches (Flow.not_reaches_of_runsBefore ho ha hk hj)

theorem starts_handedDown {result : Json} {x : Except ActivityFailure Unit}
    (handed : HandedDown flow p a result told x t) :
    starts k told ≤ a.subActivities.count k := by
  cases handed with
  | completed subs =>
    rw [starts_append, starts_cons_of_later k (by simp)]
    exact starts_siblings ho ha hk subs (List.Subset.refl _)
  | unpresented subs => exact starts_siblings ho ha hk subs (List.Subset.refl _)
  | stopped subs => exact starts_siblings ho ha hk subs (List.Subset.refl _)

theorem starts_ran {x : Except ActivityFailure Json} (ran : Ran flow p a told x t) :
    starts k told ≤ a.subActivities.count k := by
  cases ran with
  | unsettled opening =>
    rw [starts_opening ho ha hk opening]
    exact Nat.zero_le _
  | finished opening _ handed =>
    rw [starts_append, starts_opening ho ha hk opening, starts_cons_of_later k (by simp),
      Nat.zero_add]
    exact starts_handedDown ho ha hk handed
  | unfinished opening _ handed =>
    rw [starts_append, starts_opening ho ha hk opening, starts_cons_of_later k (by simp),
      Nat.zero_add]
    exact starts_handedDown ho ha hk handed

/-- **In a story each sub-activity of its activity starts at most as often as it stands among
them.** -/
theorem Story.starts_sub {before : Inherited} {x : Except ActivityFailure Json}
    (story : Story flow p before told x t) : starts k told ≤ a.subActivities.count k := by
  have hne : p ≠ k := Nat.ne_of_lt ((ho.placed p a ha).sub k hk).1
  cases story with
  | ended hb ran =>
    obtain rfl := Option.some.inj (ha.symm.trans hb)
    rw [starts_cons_entered, if_neg hne]
    exact starts_ran ho ha hk ran
  | failed hb ran =>
    obtain rfl := Option.some.inj (ha.symm.trans hb)
    rw [starts_cons_entered, if_neg hne, starts_append, starts_cons_of_later k (by simp)]
    exact starts_ran ho ha hk ran

end SubActivities

end Run

end Pageflow
