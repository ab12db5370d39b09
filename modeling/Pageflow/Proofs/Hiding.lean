/-
  Pageflow.Proofs.Hiding — what is hidden in a text, part by part.

  A recogniser looks for one of its marks and for characters of a kind behind it.  Where neither a
  mark nor what follows it can go across, a text may be taken apart: each part is then dealt with
  as if it stood alone.  A text without a mark is left as it is.

  Main definitions: `following`, `Parted` and `Foldable`.
  Main statements: `dropWord?_eq_some`, `hide_append`, `hide_barrier` and `hide_unmarked`.
-/
import Mathlib.Data.List.Infix
import Pageflow.Text.Redaction

namespace Pageflow.Text

/-! ## §1. Letters in any case. -/

theorem toLower_of_not_isUpper {c : Char} (h : c.isUpper = false) : c.toLower = c := by
  unfold Char.toLower
  split
  next upper => exact absurd (decide_eq_true upper) (Bool.eq_false_iff.mp h)
  next => rfl

theorem isLower_toLower {c : Char} (h : c.isUpper = true) : c.toLower.isLower = true := by
  have upper := of_decide_eq_true h
  unfold Char.toLower
  rw [dif_pos upper]
  have low : 65 ≤ c.val.toNat := upper.1
  have high : c.val.toNat ≤ 90 := upper.2
  have shifted : (c.val + ('a'.val - 'A'.val)).toNat = c.val.toNat + 32 := by
    rw [UInt32.toNat_add]
    show (c.val.toNat + 32) % 2 ^ 32 = _
    omega
  unfold Char.isLower
  simp only [ge_iff_le, Bool.and_eq_true, decide_eq_true_eq, UInt32.le_iff_toNat_le, shifted]
  show 97 ≤ c.val.toNat + 32 ∧ c.val.toNat + 32 ≤ 122
  omega

/-- A letter stands for itself, and else for a capital, the long s or the Kelvin sign. -/
theorem foldsTo_cases {p c : Char} (h : foldsTo p c = true) :
    c = p ∨ c.isUpper = true ∨ c = 'ſ' ∨ c = '\u212A' := by
  unfold foldsTo at h
  simp only [Bool.or_eq_true, decide_eq_true_eq, Bool.and_eq_true] at h
  rcases h with (same | ⟨_, long⟩) | ⟨_, kelvin⟩
  · cases hc : c.isUpper with
    | true => exact .inr (.inl rfl)
    | false => exact .inl ((toLower_of_not_isUpper hc).symm.trans same)
  · exact .inr (.inr (.inl long))
  · exact .inr (.inr (.inr kelvin))

/-- What is no small letter stands only for itself. -/
theorem eq_of_foldsTo {p c : Char} (hp : p.isLower = false) (h : foldsTo p c = true) : c = p := by
  unfold foldsTo at h
  simp only [Bool.or_eq_true, decide_eq_true_eq, Bool.and_eq_true] at h
  rcases h with (same | ⟨rfl, _⟩) | ⟨rfl, _⟩
  · cases hc : c.isUpper with
    | true =>
      have lower := isLower_toLower hc
      rw [same, hp] at lower
      contradiction
    | false => exact (toLower_of_not_isUpper hc).symm.trans same
  · exact absurd hp (by decide)
  · exact absurd hp (by decide)

/-- What is no capital, nor the long s or the Kelvin sign, is only stood for by itself. -/
theorem eq_of_foldsTo_caseless {p c : Char} (hc : c.isUpper = false ∧ c ≠ 'ſ' ∧ c ≠ '\u212A')
    (h : foldsTo p c = true) : p = c := by
  rcases foldsTo_cases h with same | upper | long | kelvin
  · exact same.symm
  · rw [hc.1] at upper
    contradiction
  · exact absurd long hc.2.1
  · exact absurd kelvin hc.2.2

/-- A class of characters that has with a letter all that the letter may stand for. -/
structure Foldable (class? : Char → Bool) : Prop where
  upper : ∀ c : Char, c.isUpper = true → class? c = true
  long : class? 'ſ' = true
  kelvin : class? '\u212A' = true

theorem Foldable.of_foldsTo {class? : Char → Bool} (hc : Foldable class?) {p c : Char}
    (hp : class? p = true) (h : foldsTo p c = true) : class? c = true := by
  rcases foldsTo_cases h with rfl | upper | rfl | rfl
  · exact hp
  · exact hc.upper c upper
  · exact hc.long
  · exact hc.kelvin

/-! ## §2. Words. -/

/-- The text begins with the word if each character of the word stands for one of the text. -/
theorem dropWord?_eq_some : ∀ {w cs rest : List Char}, dropWord? w cs = some rest ↔
    (∀ (n : Nat) (p : Char), w[n]? = some p → ∃ c, cs[n]? = some c ∧ foldsTo p c = true)
      ∧ rest = cs.drop w.length
  | [], cs, rest => by
      rw [dropWord?, Option.some.injEq, List.length_nil, List.drop_zero, eq_comm]
      exact (and_iff_right fun _ _ h => by contradiction).symm
  | p :: ps, [], rest => by
      have impossible : ¬ ∃ c, ([] : List Char)[0]? = some c ∧ foldsTo p c = true := by simp
      constructor
      · intro h
        contradiction
      · exact fun h => absurd (h.1 0 p rfl) impossible
  | p :: ps, c :: cs, rest => by
      unfold dropWord?
      split
      next folds =>
        rw [dropWord?_eq_some, List.length_cons, List.drop_succ_cons]
        refine and_congr_left' ⟨fun h n => ?_, fun h n => h (n + 1)⟩
        cases n with
        | zero =>
          rintro _ ⟨⟩
          exact ⟨c, rfl, folds⟩
        | succ n => exact h n
      next other =>
        constructor
        · intro h
          contradiction
        · rintro ⟨h, _⟩
          obtain ⟨d, hd, folds⟩ := h 0 p rfl
          obtain rfl := Option.some.inj hd
          exact absurd folds other

variable {w cs ds rest : List Char}

theorem length_le_of_dropWord? (h : dropWord? w cs = some rest) : w.length ≤ cs.length := by
  by_contra short
  push Not at short
  obtain ⟨_, hc, _⟩ := (dropWord?_eq_some.mp h).1 cs.length w[cs.length] (by simp [short])
  simp at hc

/-- A word that a text begins with stays there when more follows. -/
theorem dropWord?_append (h : dropWord? w cs = some rest) (ds : List Char) :
    dropWord? w (cs ++ ds) = some (rest ++ ds) := by
  obtain ⟨begins, rfl⟩ := dropWord?_eq_some.mp h
  rw [dropWord?_eq_some, List.drop_append_of_le_length (length_le_of_dropWord? h)]
  refine ⟨fun n p hp => ?_, rfl⟩
  obtain ⟨c, hc, folds⟩ := begins n p hp
  exact ⟨c, by rw [List.getElem?_append_left (List.getElem?_eq_some_iff.mp hc).1, hc], folds⟩

/-- A word that does not go beyond a text is within it. -/
theorem dropWord?_of_append (hw : w.length ≤ cs.length) (h : dropWord? w (cs ++ ds) = some rest) :
    dropWord? w cs = some (cs.drop w.length) := by
  refine dropWord?_eq_some.mpr ⟨fun n p hp => ?_, rfl⟩
  obtain ⟨c, hc, folds⟩ := (dropWord?_eq_some.mp h).1 n p hp
  have inside : n < cs.length := Nat.lt_of_lt_of_le (List.getElem?_eq_some_iff.mp hp).1 hw
  exact ⟨c, by rw [← hc, List.getElem?_append_left inside], folds⟩

/-- The part of a word that a text stands for, if the word goes beyond it. -/
theorem dropWord?_take (hw : cs.length ≤ w.length) (h : dropWord? w (cs ++ ds) = some rest) :
    dropWord? (w.take cs.length) cs = some [] := by
  refine dropWord?_eq_some.mpr ⟨fun n p hp => ?_, ?_⟩
  · rw [List.getElem?_take] at hp
    split at hp
    next inside =>
      obtain ⟨c, hc, folds⟩ := (dropWord?_eq_some.mp h).1 n p hp
      exact ⟨c, by rw [← hc, List.getElem?_append_left inside], folds⟩
    next => contradiction
  · rw [List.length_take_of_le hw, List.drop_length]

/-- What is within a word that a text begins with is within that text. -/
theorem exists_foldsTo (h : dropWord? w cs = some rest) {p : Char} (hp : p ∈ w) :
    ∃ c ∈ cs, foldsTo p c = true := by
  obtain ⟨n, hn⟩ := List.mem_iff_getElem?.mp hp
  obtain ⟨c, hc, folds⟩ := (dropWord?_eq_some.mp h).1 n p hn
  exact ⟨c, List.mem_of_getElem? hc, folds⟩

/-- Each character of a text stands for one of the word, if the text is the word. -/
theorem exists_folding (h : dropWord? w cs = some []) {c : Char} (hc : c ∈ cs) :
    ∃ p ∈ w, foldsTo p c = true := by
  obtain ⟨begins, ended⟩ := dropWord?_eq_some.mp h
  obtain ⟨n, hn⟩ := List.mem_iff_getElem?.mp hc
  have inside : n < w.length := Nat.lt_of_lt_of_le (List.getElem?_eq_some_iff.mp hn).1
    (List.drop_eq_nil_iff.mp ended.symm)
  obtain ⟨d, hd, folds⟩ := begins n w[n] (List.getElem?_eq_getElem inside)
  obtain rfl := Option.some.inj (hn.symm.trans hd)
  exact ⟨w[n], List.getElem_mem inside, folds⟩

theorem length_eq_of_dropWord? (h : dropWord? w cs = some []) : cs.length = w.length :=
  Nat.le_antisymm (List.drop_eq_nil_iff.mp (dropWord?_eq_some.mp h).2.symm)
    (length_le_of_dropWord? h)

/-! ## §3. Marks and what follows them. -/

/-- Finds one of the marks and the characters of a kind that follow it. -/
def following (accepts : Char → Bool) (marks : List String) : Recogniser :=
  firstOf (marks.map fun mark => afterMark mark fun cs => (cs.takeWhile accepts).length)

variable {accepts : Char → Bool} {marks : List String} {mark n : Nat}

theorem afterMark_eq_some {word : String} {measure : Measure} (h : afterMark word measure cs
    = some (mark, n)) : ∃ rest, dropWord? word.toList cs = some rest ∧ mark = word.length
      ∧ n = measure rest ∧ n ≠ 0 := by
  unfold afterMark at h
  split at h
  next rest found =>
    simp only at h
    split at h
    next => contradiction
    next some =>
      obtain ⟨rfl, rfl⟩ := Prod.mk.inj (Option.some.inj h)
      exact ⟨rest, found, rfl, rfl, some⟩
  next => contradiction

theorem following_eq_some (h : following accepts marks cs = some (mark, n)) :
    ∃ word ∈ marks, ∃ rest, dropWord? word.toList cs = some rest ∧ mark = word.length
      ∧ n = (rest.takeWhile accepts).length ∧ n ≠ 0 := by
  obtain ⟨_, hr, found⟩ := List.exists_of_findSome?_eq_some h
  obtain ⟨word, hword, rfl⟩ := List.mem_map.mp hr
  exact ⟨word, hword, afterMark_eq_some found⟩

/-- Nothing is found beyond the text. -/
theorem add_le_of_following (h : following accepts marks cs = some (mark, n)) :
    mark + n ≤ cs.length := by
  obtain ⟨word, _, rest, found, rfl, rfl, _⟩ := following_eq_some h
  have short := length_le_of_dropWord? found
  obtain ⟨_, rfl⟩ := dropWord?_eq_some.mp found
  have taken := (List.takeWhile_sublist accepts (l := cs.drop word.toList.length)).length_le
  rw [List.length_drop] at taken
  rw [String.length_toList] at *
  omega

theorem following_eq_none (h : ∀ word ∈ marks, dropWord? word.toList cs = none) :
    following accepts marks cs = none := by
  refine List.findSome?_eq_none_iff.mpr fun r hr => ?_
  obtain ⟨word, hword, rfl⟩ := List.mem_map.mp hr
  simp only [afterMark, h word hword]

theorem ne_zero_of_following (nonempty : ∀ word ∈ marks, word ≠ "")
    (h : following accepts marks cs = some (mark, n)) : mark ≠ 0 := by
  obtain ⟨word, hword, _, _, rfl, _⟩ := following_eq_some h
  exact fun zero => nonempty word hword (String.length_eq_zero_iff.mp zero)

/-- Neither a mark nor what follows it goes from the first text across to the second one. -/
structure Parted (accepts : Char → Bool) (marks : List String) (cs ds : List Char) : Prop where
  stops : ∀ d, ds.head? = some d → accepts d = false
  marked : ∀ word ∈ marks, ∀ first rest, first <:+ cs → first ≠ [] →
    dropWord? word.toList (first ++ ds) = some rest → word.length ≤ first.length

theorem findSome?_congr {α β : Type} {f g : α → Option β} :
    ∀ {l : List α}, (∀ a ∈ l, f a = g a) → l.findSome? f = l.findSome? g
  | [], _ => rfl
  | a :: l, h => by
      rw [List.findSome?_cons, List.findSome?_cons, h a List.mem_cons_self,
        findSome?_congr fun b hb => h b (List.mem_cons_of_mem a hb)]

theorem takeWhile_of_stops (stops : ∀ d, ds.head? = some d → accepts d = false) :
    ds.takeWhile accepts = [] := by
  cases ds with
  | nil => rfl
  | cons d _ => rw [List.takeWhile_cons_of_neg (by simp [stops d rfl])]

theorem takeWhile_append_of_stops (stops : ∀ d, ds.head? = some d → accepts d = false) :
    (cs ++ ds).takeWhile accepts = cs.takeWhile accepts := by
  rw [List.takeWhile_append, takeWhile_of_stops stops, List.append_nil]
  split
  next all => exact ((List.takeWhile_prefix accepts).eq_of_length all).symm
  next => rfl

theorem Parted.following (h : Parted accepts marks cs ds) {first : List Char}
    (hf : first <:+ cs) (some : first ≠ []) :
    following accepts marks (first ++ ds) = following accepts marks first := by
  have same : ∀ word ∈ marks, afterMark word (fun cs => (cs.takeWhile accepts).length) (first ++ ds)
      = afterMark word (fun cs => (cs.takeWhile accepts).length) first := by
    intro word hword
    unfold afterMark
    cases inside : dropWord? word.toList first with
    | some rest => simp only [dropWord?_append inside, takeWhile_append_of_stops h.stops]
    | none =>
      cases across : dropWord? word.toList (first ++ ds) with
      | none => rfl
      | some rest =>
        have short := h.marked word hword first rest hf some across
        rw [← String.length_toList] at short
        rw [dropWord?_of_append short across] at inside
        contradiction
  unfold Text.following firstOf
  rw [List.findSome?_map, List.findSome?_map]
  exact findSome?_congr same

/-! ## §4. Hiding part by part. -/

variable {recognise : Recogniser}

theorem hideFrom_eq_drop : ∀ (n : Nat) (cs : List Char),
    hideFrom recognise n cs = hide recognise (cs.drop n)
  | 0, _ => rfl
  | _ + 1, [] => rfl
  | n + 1, _ :: cs => by rw [hideFrom, hideFrom_eq_drop n cs, List.drop_succ_cons]

/-- Where something is found, the mark stays and what follows it is hidden. -/
theorem hide_of_some (h : recognise cs = some (mark, n)) (some : mark ≠ 0) (ne : cs ≠ []) :
    hide recognise cs = cs.take mark ++ redacted ++ hide recognise (cs.drop (mark + n)) := by
  cases cs with
  | nil => contradiction
  | cons c cs =>
    have shift : mark + n = (mark + n - 1) + 1 := by omega
    rw [shift, List.drop_succ_cons, ← hideFrom_eq_drop]
    show hideFrom recognise 0 (c :: cs) = _
    rw [hideFrom]
    simp only [h]

theorem hide_of_none {c : Char} (h : recognise (c :: cs) = none) :
    hide recognise (c :: cs) = c :: hide recognise cs := by
  show hideFrom recognise 0 (c :: cs) = _
  rw [hideFrom]
  simp only [h]
  rfl

/-- **Where nothing goes across, each part is dealt with by itself.** -/
theorem hide_append (nonempty : ∀ word ∈ marks, word ≠ "") (h : Parted accepts marks cs ds) :
    hide (following accepts marks) (cs ++ ds)
      = hide (following accepts marks) cs ++ hide (following accepts marks) ds := by
  -- on the length of the first part: what is found there may be longer than one character
  induction hn : cs.length using Nat.strong_induction_on generalizing cs with
  | _ length ih =>
    subst hn
    have smaller : ∀ first, first <:+ cs → first.length < cs.length →
        hide (following accepts marks) (first ++ ds)
          = hide (following accepts marks) first ++ hide (following accepts marks) ds :=
      fun first hf hlt => ih _ hlt
        ⟨h.stops, fun word hw f rest hff => h.marked word hw f rest (hff.trans hf)⟩ rfl
    cases hcs : cs with
    | nil => rfl
    | cons c tail =>
      rw [hcs] at h smaller
      have same := h.following List.suffix_rfl (List.cons_ne_nil c tail)
      cases found : following accepts marks (c :: tail) with
      | none =>
        rw [found] at same
        have rest := smaller tail (List.suffix_cons c tail) (Nat.lt_succ_self _)
        rw [List.cons_append] at same ⊢
        rw [hide_of_none same, hide_of_none found, rest, List.cons_append]
      | some pair =>
        obtain ⟨mark, n⟩ := pair
        rw [found] at same
        have within := add_le_of_following found
        have positive := ne_zero_of_following nonempty found
        have rest := smaller ((c :: tail).drop (mark + n)) (List.drop_suffix _ _)
          (by rw [List.length_drop]; omega)
        rw [hide_of_some same positive (by simp), hide_of_some found positive (by simp),
          List.take_append_of_le_length (by omega), List.drop_append_of_le_length within, rest]
        simp only [List.append_assoc]

/-- A text without marks is left as it is. -/
theorem hide_unmarked (h : ∀ first, first <:+ cs → recognise first = none) :
    hide recognise cs = cs := by
  induction cs with
  | nil => rfl
  | cons c cs ih =>
    have rest := ih fun first hf => h first (hf.trans (List.suffix_cons c cs))
    rw [hide_of_none (h _ List.suffix_rfl), rest]

/-! ## §5. Barriers. -/

variable {class? : Char → Bool}

/-- A character that is not accepted and that no mark has parts a text. -/
theorem parted_barrier (foldable : Foldable class?)
    (marked : ∀ word ∈ marks, ∀ p ∈ word.toList, class? p = true) {d : Char}
    (stops : accepts d = false) (hd : class? d = false) (cs ds : List Char) :
    Parted accepts marks cs (d :: ds) where
  stops := by
    rintro _ ⟨⟩
    exact stops
  marked word hword first rest _ _ found := by
    by_contra long
    push Not at long
    rw [← String.length_toList] at long
    obtain ⟨c, hc, folds⟩ := (dropWord?_eq_some.mp found).1 first.length
      word.toList[first.length] (by simp [long])
    rw [List.getElem?_append_right (Nat.le_refl _), Nat.sub_self] at hc
    obtain rfl := Option.some.inj hc
    have member := foldable.of_foldsTo (marked word hword _ (List.getElem_mem long)) folds
    rw [hd] at member
    contradiction

theorem parted_nil (cs : List Char) : Parted accepts marks cs [] where
  stops _ h := by contradiction
  marked word _ first rest _ _ found := by
    rw [List.append_nil] at found
    rw [← String.length_toList]
    exact length_le_of_dropWord? found

/-- **A barrier is left as it is, and what is before and behind it is dealt with by itself.** -/
theorem hide_barrier (nonempty : ∀ word ∈ marks, word ≠ "") (foldable : Foldable class?)
    (marked : ∀ word ∈ marks, ∀ p ∈ word.toList, class? p = true) {d : Char}
    (stops : accepts d = false) (hd : class? d = false) (cs ds : List Char) :
    hide (following accepts marks) (cs ++ d :: ds)
      = hide (following accepts marks) cs ++ d :: hide (following accepts marks) ds := by
  have unmarked : following accepts marks (d :: ds) = none := by
    refine following_eq_none fun word hword => ?_
    cases found : dropWord? word.toList (d :: ds) with
    | none => rfl
    | some rest =>
      cases hw : word.toList with
      | nil => exact absurd (String.toList_eq_nil_iff.mp hw) (nonempty word hword)
      | cons p ps =>
        rw [hw] at found
        obtain ⟨c, hc, folds⟩ := (dropWord?_eq_some.mp found).1 0 p rfl
        obtain rfl := Option.some.inj hc
        have member := foldable.of_foldsTo
          (marked word hword p (by rw [hw]; exact List.mem_cons_self)) folds
        rw [hd] at member
        contradiction
  rw [hide_append nonempty (parted_barrier foldable marked stops hd cs ds), hide_of_none unmarked]

end Pageflow.Text
