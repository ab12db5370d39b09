/-
  Pageflow.Proofs.Projection — some of the services on their own.

  The makers that mapping adds for a service stand between those of other services, so what else
  is mapped decides which numbers they get, and nothing else.  To take the activities of some
  services out of an arena and to map these alone gives the same as to map all of them first.
  What is taken out is numbered anew, by how many of its kind stand before it.

  Main definitions: `ofServices`, `rankOf` and `counterpart`.
  Main statements: `mapRounds_ofServices` and `renumbers_counterpart`.
-/
import Mathlib.Data.Nat.Nth
import Mathlib.Data.Set.Function
import Pageflow.Proofs.Renaming

namespace Pageflow.Flow

/-! ## §1. Activities of some services. -/

/-- The activities of these services. -/
def ofServices (these : String → Bool) (arena : List Activity) : List Activity :=
  arena.filter fun a => these a.service

/-- How many activities of these services stand before a place. -/
def rankOf (these : String → Bool) (arena : List Activity) (k : Nat) : Nat :=
  (ofServices these (arena.take k)).length

section Rank

variable {these : String → Bool} {arena arena' others : List Activity} {a : Activity}

theorem ofServices_cons_of_true (h : these a.service = true) :
    ofServices these (a :: arena) = a :: ofServices these arena :=
  List.filter_cons_of_pos h

theorem ofServices_cons_of_false (h : these a.service = false) :
    ofServices these (a :: arena) = ofServices these arena :=
  List.filter_cons_of_neg (by rw [h]; exact Bool.false_ne_true)

theorem ofServices_append :
    ofServices these (arena ++ others) = ofServices these arena ++ ofServices these others :=
  List.filter_append arena others

theorem ofServices_eq_self (h : ∀ a ∈ arena, these a.service = true) :
    ofServices these arena = arena :=
  List.filter_eq_self.mpr h

theorem ofServices_eq_nil (h : ∀ a ∈ arena, these a.service = false) :
    ofServices these arena = [] := by
  refine List.filter_eq_nil_iff.mpr ?_
  intro a ha
  rw [h a ha]
  exact Bool.false_ne_true

theorem length_ofServices (these : String → Bool) (arena : List Activity) :
    (ofServices these arena).length = (arena.map Activity.service).countP these := by
  rw [List.countP_map, List.countP_eq_length_filter]
  rfl

/-- Behind some activities, these count first. -/
theorem rankOf_append (i : Nat) :
    rankOf these (arena ++ others) (arena.length + i)
      = (ofServices these arena).length + rankOf these others i := by
  unfold rankOf
  rw [List.take_length_add_append, ofServices_append, List.length_append]

/-- What stands behind a place does not count, nor what an activity is but its service. -/
theorem rankOf_congr (h : arena.map Activity.service <+: arena'.map Activity.service) {k : Nat}
    (hk : k ≤ arena.length) : rankOf these arena' k = rankOf these arena k := by
  obtain ⟨more, hmore⟩ := h
  unfold rankOf
  rw [length_ofServices, length_ofServices, List.map_take, List.map_take, ← hmore,
    List.take_append_of_le_length (by rw [List.length_map]; exact hk)]

theorem rankOf_of_le (h : ∀ a ∈ arena, these a.service = true) {k : Nat} (hk : k ≤ arena.length) :
    rankOf these arena k = k := by
  unfold rankOf
  rw [ofServices_eq_self fun a ha => h a (List.mem_of_mem_take ha), List.length_take]
  omega

end Rank

/-! ## §2. One round. -/

/-- What was added for these services, the first one of it at `place`. -/
def Additions.ofServices (these : String → Bool) (place : Nat) (added : Additions) : Additions where
  place := place
  activities := Flow.ofServices these added.activities

/-- Activities of these services are numbered among themselves, from `place` on. -/
def Ranks (these : String → Bool) (place : Nat) (f : Nat → Nat) (added : Additions) : Prop :=
  ∀ i ≤ added.activities.length, f (added.place + i) = place + rankOf these added.activities i

section Round

variable {these : String → Bool} {place : Nat} {f : Nat → Nat} {m m' : Mapping}
  {start : Additions} {more : List Activity}

theorem Additions.ofServices_pushAll (h : ∀ c ∈ more, these c.service = true) :
    (start.pushAll more).ofServices these place
      = (start.ofServices these place).pushAll more := by
  unfold Additions.ofServices Additions.pushAll
  rw [ofServices_append, ofServices_eq_self h]

theorem Additions.ofServices_pushAll_of_false (h : ∀ c ∈ more, these c.service = false) :
    (start.pushAll more).ofServices these place = start.ofServices these place := by
  unfold Additions.ofServices Additions.pushAll
  rw [ofServices_append, ofServices_eq_nil h, List.append_nil]

/-- Makers for these services that stand next to each other move together. -/
theorem Ranks.moved {after : Additions} (h : Ranks these place f after)
    (grows : (start.pushAll more).Grows after) (kept : ∀ c ∈ more, these c.service = true)
    {k : Nat} (hle : start.next ≤ k) (hlt : k < start.next + more.length) :
    f k = moved start (start.ofServices these place) k := by
  obtain ⟨hplace, others, hmore, _⟩ := grows
  obtain ⟨j, rfl⟩ := Nat.exists_eq_add_of_le hle
  have hj : j < more.length := by omega
  have hactivities : after.activities = start.activities ++ (more ++ others) := by
    rw [hmore, Additions.pushAll, List.append_assoc]
  have services : more.map Activity.service <+: (more ++ others).map Activity.service := by
    rw [List.map_append]
    exact List.prefix_append _ _
  have first : rankOf these (more ++ others) j = j := by
    rw [rankOf_congr services hj.le, rankOf_of_le kept hj.le]
  have hf := h (start.activities.length + j) (by
    rw [hactivities, List.length_append, List.length_append]
    omega)
  rw [hactivities, rankOf_append, first, hplace] at hf
  calc f (start.next + j)
      = f (start.place + (start.activities.length + j)) := by rw [Additions.next, Nat.add_assoc]
    _ = place + ((Flow.ofServices these start.activities).length + j) := hf
    _ = (start.ofServices these place).next + j := (Nat.add_assoc _ _ _).symm
    _ = Flow.moved start (start.ofServices these place) (start.next + j) := by
        rw [Flow.moved, Nat.add_sub_cancel_left]

/-- **To map activities of some services alone is to map all activities and to take these out.** -/
theorem mapRound_ofServices (agrees : ∀ service, these service = true → m.AgreesAt m' service)
    (place : Nat) :
    ∀ (activities : List Activity) (added : Additions), (∀ a ∈ activities, IsUnmapped a) →
      Ranks these place f (mapRound m added activities).value.2 →
      (mapRound m' (added.ofServices these place) (ofServices these activities)).value
        = ((ofServices these (mapRound m added activities).value.1).map (Activity.rename f),
            (mapRound m added activities).value.2.ofServices these place)
  | [], _, _, _ => rfl
  | a :: rest, added, h, ranks => by
      obtain ⟨b, more, adds⟩ := mapActivity_adds m (h a List.mem_cons_self) added
      have unmapped : ∀ a ∈ rest, IsUnmapped a := fun a ha => h a (List.mem_cons_of_mem _ ha)
      have service : b.service = a.service := adds.mapsTo.retains.service
      have services : ∀ c ∈ more, c.service = a.service := by
        intro c hc
        obtain ⟨_, _, _, _, _, rfl⟩ := adds.made c hc
        rfl
      simp only [mapRound, Noted.value_bind, Noted.value_pure, adds.value] at ranks ⊢
      obtain ⟨grows, _⟩ := mapRound_mapped m rest (added.pushAll more)
        fun a ha => (unmapped a ha).makers
      have ih := mapRound_ofServices agrees place rest (added.pushAll more) unmapped ranks
      cases ha : these a.service with
      | true =>
        have kept : ∀ c ∈ more, these c.service = true := fun c hc => by rw [services c hc, ha]
        have same : b.rename (moved added (added.ofServices these place)) = b.rename f := by
          refine Activity.rename_congr ?_
          intro k hk
          obtain ⟨hle, hlt⟩ := adds.makers k hk
          exact (ranks.moved grows kept hle hlt).symm
        rw [Additions.ofServices_pushAll kept] at ih
        rw [ofServices_cons_of_true ha, ofServices_cons_of_true (service ▸ ha), mapRound]
        simp only [Noted.value_bind, Noted.value_pure, adds.elsewhere m' _ (agrees _ ha), same, ih,
          List.map_cons]
      | false =>
        have left : ∀ c ∈ more, these c.service = false := fun c hc => by rw [services c hc, ha]
        rw [Additions.ofServices_pushAll_of_false left] at ih
        rw [ofServices_cons_of_false ha, ofServices_cons_of_false (service ▸ ha)]
        exact ih

end Round

/-! ## §3. Rounds. -/

/-- A round and those after it, also if there is nothing to map. -/
theorem mapRounds_succ (m : Mapping) (rounds place : Nat) (activities : List Activity) :
    (mapRounds m (rounds + 1) place activities).value
      = (mapRounds m rounds (mapRound m { place } activities).value.2.next
          (mapRound m { place } activities).value.2.activities).value.map
        ((mapRound m { place } activities).value.1 ++ ·) := by
  cases activities with
  | nil => cases rounds <;> rfl
  | cons a rest => rfl

theorem mapRound_services (m : Mapping) {activities : List Activity} (added : Additions)
    (h : ∀ a ∈ activities, IsUnmapped a) :
    (mapRound m added activities).value.1.map Activity.service
      = activities.map Activity.service := by
  obtain ⟨_, mapped⟩ := mapRound_mapped m activities added fun a ha => (h a ha).makers
  refine Eq.symm ?_
  rw [← List.forall₂_eq_eq_eq, List.forall₂_map_left_iff, List.forall₂_map_right_iff]
  exact mapped.imp fun a b h => h.retains.service.symm

/-- The rounds put activities behind others, and leave their services. -/
theorem mapRounds_services (m : Mapping) {rounds place : Nat} {before after : List Activity}
    (h : ∀ a ∈ before, IsUnmapped a)
    (hafter : (mapRounds m rounds place before).value = some after) :
    before.map Activity.service <+: after.map Activity.service := by
  cases rounds with
  | zero =>
    cases before with
    | nil => exact List.nil_prefix
    | cons a rest => contradiction
  | succ rounds =>
    rw [mapRounds_succ, Option.map_eq_some_iff] at hafter
    obtain ⟨behind, _, rfl⟩ := hafter
    rw [List.map_append, mapRound_services m _ h]
    exact List.prefix_append _ _

section Rounds

variable {these : String → Bool} {f : Nat → Nat} {m m' : Mapping} {o place : Nat}
  {before mapped behind : List Activity}

/-- Behind a round, numbers go on from those of what it has mapped. -/
theorem Ranks.onward (h : Ranks these place f ⟨o, mapped ++ behind⟩)
    (services : mapped.map Activity.service = before.map Activity.service) :
    Ranks these (place + (ofServices these before).length) f ⟨o + before.length, behind⟩ := by
  intro i hi
  have length := congrArg List.length services
  rw [List.length_map, List.length_map] at length
  have count : (ofServices these mapped).length = (ofServices these before).length := by
    rw [length_ofServices, services, ← length_ofServices]
  have hf := h (mapped.length + i) (by
    rw [List.length_append]
    exact Nat.add_le_add_left hi _)
  rw [rankOf_append, count, length, ← Nat.add_assoc, ← Nat.add_assoc] at hf
  exact hf

/-- What a round adds is numbered as it is after it has been mapped. -/
theorem Ranks.of_prefix {added : Additions} (h : Ranks these place f ⟨added.place, behind⟩)
    (more : added.activities.map Activity.service <+: behind.map Activity.service) :
    Ranks these place f added := by
  intro i hi
  have hle : added.activities.length ≤ behind.length := by simpa using more.length_le
  rw [← rankOf_congr more hi]
  exact h i (hi.trans hle)

/-- **As far as some services are concerned, the rounds go as they do for these alone.** -/
theorem mapRounds_ofServices (agrees : ∀ service, these service = true → m.AgreesAt m' service) :
    ∀ (rounds o place : Nat) (before after : List Activity), (∀ a ∈ before, IsUnmapped a) →
      (mapRounds m rounds (o + before.length) before).value = some after →
      Ranks these place f ⟨o, after⟩ →
      (mapRounds m' rounds (place + (ofServices these before).length)
          (ofServices these before)).value
        = some ((ofServices these after).map (Activity.rename f))
  | 0, _, _, [], _, _, h, _ => by
      obtain rfl := Option.some.inj h
      rfl
  | 0, _, _, a :: rest, _, _, h, _ => by contradiction
  | rounds + 1, o, place, before, after, unmapped, h, ranks => by
      rw [mapRounds_succ, Option.map_eq_some_iff] at h
      obtain ⟨behind, hbehind, rfl⟩ := h
      obtain ⟨grows, _⟩ := mapRound_mapped m before { place := o + before.length }
        fun a ha => (unmapped a ha).makers
      obtain ⟨_, only⟩ := mapRound_mapsTo m before { place := o + before.length } unmapped
      have services := mapRound_services m { place := o + before.length } unmapped
      have round := mapRound_ofServices (f := f) agrees (place + (ofServices these before).length)
        before { place := o + before.length } unmapped
      rw [mapRounds_succ]
      generalize (mapRound m { place := o + before.length } before).value = mapped
        at hbehind ranks grows only services round
      obtain ⟨mapped, added⟩ := mapped
      -- the rounds behind start with what this one added
      have unmapped' : ∀ c ∈ added.activities, IsUnmapped c := by
        intro c hc
        obtain ⟨a, _, made⟩ := (only c hc).resolve_left List.not_mem_nil
        exact isUnmapped_of_makesFor made
      have more := mapRounds_services m unmapped' hbehind
      have ranks' : Ranks these (place + (ofServices these before).length) f
          ⟨added.place, behind⟩ := by
        rw [grows.place]
        exact ranks.onward services
      have ih := mapRounds_ofServices agrees rounds added.place _ added.activities behind
        unmapped' hbehind ranks'
      have round : (mapRound m' { place := place + (ofServices these before).length }
          (ofServices these before)).value = _ := round (ranks'.of_prefix more)
      rw [round, ofServices_append, List.map_append]
      exact congrArg (Option.map _) ih

end Rounds

/-! ## §4. Counterparts. -/

/-- An activity of these services stands at place `k`. -/
def IsOf (these : String → Bool) (arena : List Activity) (k : Nat) : Prop :=
  (arena[k]?).any (fun a => these a.service) = true

instance (these : String → Bool) (arena : List Activity) : DecidablePred (IsOf these arena) :=
  fun _ => inferInstanceAs (Decidable (_ = true))

section IsOf

variable {these : String → Bool} {arena : List Activity} {k r : Nat} {a : Activity}

theorem isOf_iff : IsOf these arena k ↔ ∃ a, arena[k]? = some a ∧ these a.service = true :=
  Option.any_eq_true _ _

theorem isOf_of_getElem? (ha : arena[k]? = some a) (h : these a.service = true) :
    IsOf these arena k := isOf_iff.mpr ⟨a, ha, h⟩

/-- To take activities out of an arena keeps them in order. -/
theorem getElem?_rankOf (ha : arena[k]? = some a) (h : these a.service = true) :
    (ofServices these arena)[rankOf these arena k]? = some a := by
  obtain ⟨hk, rfl⟩ := List.getElem?_eq_some_iff.mp ha
  have split : ofServices these arena
      = ofServices these (arena.take k) ++ arena[k] :: ofServices these (arena.drop (k + 1)) := by
    rw [← ofServices_cons_of_true h, ← ofServices_append, ← List.drop_eq_getElem_cons hk,
      List.take_append_drop]
  rw [split, rankOf, List.getElem?_append_right (Nat.le_refl _), Nat.sub_self]
  rfl

/-- What was taken out of an arena stood there. -/
theorem exists_of_getElem?_ofServices (h : (ofServices these arena)[r]? = some a) :
    ∃ k, arena[k]? = some a ∧ rankOf these arena k = r := by
  induction arena generalizing r with
  | nil => contradiction
  | cons b rest ih =>
    cases hb : these b.service with
    | true =>
      rw [ofServices_cons_of_true hb] at h
      cases r with
      | zero => exact ⟨0, h, rfl⟩
      | succ r =>
        obtain ⟨k, hk, rfl⟩ := ih h
        refine ⟨k + 1, hk, ?_⟩
        rw [rankOf, List.take_succ_cons, ofServices_cons_of_true hb]
        rfl
    | false =>
      rw [ofServices_cons_of_false hb] at h
      obtain ⟨k, hk, rfl⟩ := ih h
      refine ⟨k + 1, hk, ?_⟩
      rw [rankOf, List.take_succ_cons, ofServices_cons_of_false hb]
      rfl

theorem rankOf_eq_count (these : String → Bool) (arena : List Activity) (k : Nat) :
    rankOf these arena k = Nat.count (IsOf these arena) k := by
  induction k with
  | zero => rfl
  | succ k ih =>
    rw [Nat.count_succ, ← ih, rankOf, List.take_add_one, ofServices_append, List.length_append]
    refine congrArg (rankOf these arena k + ·) ?_
    split
    next hk =>
      obtain ⟨a, ha, h⟩ := isOf_iff.mp hk
      rw [ha]
      exact congrArg List.length (ofServices_cons_of_true h)
    next hk =>
      refine congrArg List.length (ofServices_eq_nil ?_)
      intro a ha
      refine eq_false_of_ne_true fun h => hk ?_
      exact isOf_of_getElem? (Option.mem_toList.mp ha) h

end IsOf

/-- The place in the second arena with as many activities of these services before it. -/
noncomputable def counterpart (these : String → Bool) (arena arena' : List Activity) (k : Nat) :
    Nat :=
  Nat.nth (IsOf these arena') (rankOf these arena k)

/-- The activities of these services stand in both arenas, in the same order; by number they are
called `f` of what they were called. -/
structure Renumbers (these : String → Bool) (arena arena' : List Activity) (f : Nat → Nat) :
    Prop where
  oneToOne : Set.BijOn f {k | IsOf these arena k} {k | IsOf these arena' k}
  order : StrictMonoOn f {k | IsOf these arena k}
  same : ∀ k a, arena[k]? = some a → these a.service = true → arena'[f k]? = some (a.rename f)

section Counterpart

variable {these : String → Bool} {arena arena' : List Activity} {k k' : Nat}

/-- The two arenas have the same activities of these services, numbered among themselves. -/
def SameOf (these : String → Bool) (arena arena' : List Activity) : Prop :=
  (ofServices these arena).map (Activity.rename (rankOf these arena))
    = (ofServices these arena').map (Activity.rename (rankOf these arena'))

theorem counterpart_eq (hk' : IsOf these arena' k')
    (h : rankOf these arena' k' = rankOf these arena k) :
    counterpart these arena arena' k = k' := by
  rw [counterpart, ← h, rankOf_eq_count]
  exact Nat.nth_count hk'

theorem exists_counterpart (same : SameOf these arena arena') {a : Activity}
    (ha : arena[k]? = some a) (h : these a.service = true) :
    ∃ k' a', arena'[k']? = some a' ∧ these a'.service = true
      ∧ rankOf these arena' k' = rankOf these arena k
      ∧ a'.rename (rankOf these arena') = a.rename (rankOf these arena) := by
  have at? : ((ofServices these arena').map (Activity.rename (rankOf these arena')))[
      rankOf these arena k]? = some (a.rename (rankOf these arena)) := by
    rw [← same, List.getElem?_map, getElem?_rankOf ha h]
    rfl
  rw [List.getElem?_map, Option.map_eq_some_iff] at at?
  obtain ⟨a', ha', renamed⟩ := at?
  obtain ⟨k', hk', hrank⟩ := exists_of_getElem?_ofServices ha'
  exact ⟨k', a', hk', (List.mem_filter.mp (List.mem_of_getElem? ha')).2, hrank, renamed⟩

theorem isOf_counterpart (same : SameOf these arena arena') (hk : IsOf these arena k) :
    IsOf these arena' (counterpart these arena arena' k)
      ∧ rankOf these arena' (counterpart these arena arena' k) = rankOf these arena k := by
  obtain ⟨a, ha, h⟩ := isOf_iff.mp hk
  obtain ⟨k', a', hk', h', hrank, _⟩ := exists_counterpart same ha h
  have isOf := isOf_of_getElem? hk' h'
  rw [counterpart_eq isOf hrank]
  exact ⟨isOf, hrank⟩

theorem rankOf_lt_rankOf {l : Nat} (hk : IsOf these arena k) :
    rankOf these arena k < rankOf these arena l ↔ k < l := by
  rw [rankOf_eq_count, rankOf_eq_count]
  exact ⟨(Nat.count_monotone _).reflect_lt, Nat.count_strict_mono hk⟩

/-- **Arenas with the same activities of some services differ in the numbers of these.** -/
theorem renumbers_counterpart (same : SameOf these arena arena')
    (closed : ∀ (k : Nat) (a : Activity), arena'[k]? = some a → these a.service = true →
      ∀ maker ∈ a.makers, IsOf these arena' maker) :
    Renumbers these arena arena' (counterpart these arena arena') := by
  have order : StrictMonoOn (counterpart these arena arena') {k | IsOf these arena k} := by
    intro k hk l hl hlt
    obtain ⟨isOf, hrank⟩ := isOf_counterpart same hk
    obtain ⟨_, hrank'⟩ := isOf_counterpart same hl
    rw [← rankOf_lt_rankOf isOf, hrank, hrank', rankOf_lt_rankOf hk]
    exact hlt
  refine ⟨⟨?_, order.injOn, ?_⟩, order, ?_⟩
  · intro k hk
    exact (isOf_counterpart same hk).1
  · intro k' hk'
    obtain ⟨a', ha', h'⟩ := isOf_iff.mp hk'
    obtain ⟨k, a, ha, h, hrank, _⟩ := exists_counterpart same.symm ha' h'
    exact ⟨k, isOf_of_getElem? ha h, counterpart_eq hk' hrank.symm⟩
  · intro k a ha h
    obtain ⟨k', a', hk', h', hrank, renamed⟩ := exists_counterpart same ha h
    rw [counterpart_eq (isOf_of_getElem? hk' h') hrank, hk']
    refine congrArg some ?_
    have back : ∀ maker ∈ a'.makers,
        Nat.nth (IsOf these arena') (rankOf these arena' maker) = maker := by
      intro maker hm
      rw [rankOf_eq_count]
      exact Nat.nth_count (closed k' a' hk' h' maker hm)
    calc a' = a'.rename fun j => Nat.nth (IsOf these arena') (rankOf these arena' j) :=
          (Activity.rename_eq_self back).symm
      _ = (a'.rename (rankOf these arena')).rename (Nat.nth (IsOf these arena')) :=
          (Activity.rename_rename a').symm
      _ = (a.rename (rankOf these arena)).rename (Nat.nth (IsOf these arena')) := by rw [renamed]
      _ = a.rename (counterpart these arena arena') := Activity.rename_rename a

end Counterpart

end Pageflow.Flow
