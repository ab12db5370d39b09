/-
  Pageflow.Proofs.Concealment — two lines that differ in credentials only.

  A line has a part in front, then query values that a name like `token` announces, and then maybe
  an authorization header.  The first two passes change nothing about the query values, for these
  have no space, and hide the token of the header.  The third one hides each query value up to its
  end.  So two lines that differ in such values and in the token of the header only are the same
  when they are redacted.

  Main definitions: `IsSecret`, `Slots` and `Tails`.
  Main statements: `hide_value`, `hide_assignment_slots` and `hideAll_slots`.
-/
import Pageflow.Proofs.Passes

namespace Pageflow.Text

variable {cs ds P T : List Char} {marks : List String}

/-! ## §1. Query values. -/

/-- A query value that is hidden as a whole. -/
structure IsValue (cs : List Char) : Prop where
  ne : cs ≠ []
  chars : cs.all isValueChar = true

/-- A query value that moreover leaves a header behind it alone. -/
structure IsSecret (cs : List Char) : Prop extends IsValue cs where
  apart : endsInMark headerMarks cs = false

/-- The text is a mark of a secret, in any letter case. -/
def IsSecretMark (mark : List Char) : Prop :=
  ∃ word ∈ secretMarks, dropWord? word.toList mark = some []

variable {mark v w X : List Char}

theorem isValueChar_of_mem_secretMarks :
    ∀ word ∈ secretMarks, ∀ p ∈ word.toList, isValueChar p = true :=
  forall_chars_of_all (by decide +kernel)

theorem nonempty_secretMarks : ∀ word ∈ secretMarks, word ≠ "" := by decide

/-- The marks of secrets have an equals sign at their end and nowhere else. -/
theorem equals_secretMarks : ∀ word ∈ secretMarks, ∀ n ∈ List.range word.toList.length,
    (word.toList[n]? = some '=' ↔ n + 1 = word.toList.length) := by decide +kernel

theorem IsValue.append (h : IsValue v) {more : List Char} (hm : more.all isValueChar = true) :
    IsValue (v ++ more) where
  ne := List.append_ne_nil_of_left_ne_nil h.ne more
  chars := by rw [List.all_append, h.chars, hm, Bool.true_and]

theorem IsSecretMark.chars (h : IsSecretMark mark) : mark.all isValueChar = true := by
  obtain ⟨word, hw, found⟩ := h
  refine List.all_eq_true.mpr fun c hc => ?_
  obtain ⟨p, hp, folds⟩ := exists_folding found hc
  exact foldable_value.of_foldsTo (isValueChar_of_mem_secretMarks word hw p hp) folds

/-- Nothing but an equals sign stands for one. -/
theorem foldsTo_equals {p c : Char} (h : foldsTo p c = true) : p = '=' ↔ c = '=' := by
  constructor
  · rintro rfl
    exact eq_of_foldsTo (by decide) h
  · rintro rfl
    exact eq_of_foldsTo_caseless (by decide) h

theorem IsSecretMark.equals (h : IsSecretMark mark) : ∃ front, mark = front ++ ['='] := by
  obtain ⟨word, hw, found⟩ := h
  have ne : word.toList ≠ [] := fun empty =>
    nonempty_secretMarks word hw (String.toList_eq_nil_iff.mp empty)
  have positive : 0 < word.toList.length := List.length_pos_iff.mpr ne
  have inside := List.mem_range.mpr (Nat.sub_one_lt_of_lt positive)
  have last := (equals_secretMarks word hw (word.toList.length - 1) inside).mpr
    (Nat.sub_one_add_one_eq_of_pos positive)
  obtain ⟨c, hc, folds⟩ := (dropWord?_eq_some.mp found).1 _ _ last
  rw [(foldsTo_equals folds).mp rfl, ← length_eq_of_dropWord? found,
    ← List.getLast?_eq_getElem?] at hc
  exact List.getLast?_eq_some_iff.mp hc

/-- The length of the mark, if the text begins with it. -/
def markIn (cs : List Char) (word : String) : Option Nat :=
  if (dropWord? word.toList cs).isSome then some word.length else none

/-- What is found before a value does not depend on the value, and goes on to its end. -/
theorem following_value (hX : X.all isValueChar = true) (last : ∃ front, X = front ++ ['='])
    (hv : IsValue v) : assignment (X ++ v)
      = (secretMarks.findSome? (markIn X)).map fun k => (k, X.length + v.length - k) := by
  rw [assignment_eq, List.map_findSome?]
  unfold following firstOf
  rw [List.findSome?_map]
  refine findSome?_congr fun word hw => ?_
  show afterMark word _ (X ++ v) = (markIn X word).map _
  unfold afterMark markIn
  cases inside : dropWord? word.toList X with
  | some rest =>
    have short := length_le_of_dropWord? inside
    obtain ⟨_, rfl⟩ := dropWord?_eq_some.mp inside
    have all : ((X.drop word.toList.length) ++ v).takeWhile isValueChar
        = X.drop word.toList.length ++ v := by
      have rest := List.all_eq_true.mp (hv.chars)
      have front := List.all_eq_true.mp hX
      have whole : ∀ c ∈ X.drop word.toList.length ++ v, isValueChar c = true :=
        List.forall_mem_append.mpr ⟨fun c hc => front c (List.mem_of_mem_drop hc), rest⟩
      have taken : (X.drop word.toList.length ++ v ++ []).takeWhile isValueChar = _ :=
        List.takeWhile_append_of_pos whole
      rwa [List.append_nil, List.takeWhile_nil, List.append_nil] at taken
    have some : v.length ≠ 0 := fun zero => hv.ne (List.length_eq_zero_iff.mp zero)
    simp only [dropWord?_append inside, all, List.length_append, List.length_drop,
      Option.isSome_some, if_true, Option.map_some]
    rw [String.length_toList] at *
    rw [if_neg (by omega), Nat.sub_add_comm short]
  | none =>
    have across : dropWord? word.toList (X ++ v) = none := by
      cases found : dropWord? word.toList (X ++ v) with
      | none => rfl
      | some rest =>
        -- no mark goes across, for it would have an equals sign before its end
        have short : word.toList.length ≤ X.length := by
          by_contra long
          push Not at long
          obtain ⟨front, rfl⟩ := last
          rw [List.length_append, List.length_singleton] at long
          have inside : front.length < word.toList.length := by omega
          obtain ⟨c, hc, folds⟩ := (dropWord?_eq_some.mp found).1 front.length _
            (List.getElem?_eq_getElem inside)
          have equals : (front ++ ['='] ++ v)[front.length]? = some '=' := by simp
          obtain rfl := Option.some.inj (equals.symm.trans hc)
          have sign := (foldsTo_equals folds).mpr rfl
          have ended := (equals_secretMarks word hw front.length (List.mem_range.mpr inside)).mp
            (by rw [List.getElem?_eq_getElem inside, sign])
          omega
        rw [dropWord?_of_append short found] at inside
        contradiction
    simp [across]

/-- From the mark on, all is hidden. -/
theorem hide_marked (hX : X.all isValueChar = true) (last : ∃ front, X = front ++ ['=']) {k : Nat}
    (hk : secretMarks.findSome? (markIn X) = some k) (hv : IsValue v) :
    hide assignment (X ++ v) = X.take k ++ redacted := by
  have found := following_value hX last hv
  rw [hk, Option.map_some] at found
  obtain ⟨word, hword, marked⟩ := List.exists_of_findSome?_eq_some hk
  unfold markIn at marked
  split at marked
  next begins =>
    obtain rfl := Option.some.inj marked
    obtain ⟨rest, hrest⟩ := Option.isSome_iff_exists.mp begins
    have short := length_le_of_dropWord? hrest
    rw [String.length_toList] at short
    have positive := ne_zero_of_following nonempty_secretMarks found
    have whole : word.length + (X.length + v.length - word.length) = (X ++ v).length := by
      rw [List.length_append]
      omega
    rw [hide_of_some found positive (List.append_ne_nil_of_right_ne_nil _ hv.ne), whole,
      List.drop_length, List.take_append_of_le_length short]
    exact List.append_nil _
  next => contradiction

/-- **A value behind a mark of a secret is hidden**, whatever it is. -/
theorem hide_value (hm : IsSecretMark mark) (hv : IsValue v) (hw : IsValue w)
    (hX : X.all isValueChar = true) :
    hide assignment (X ++ mark ++ v) = hide assignment (X ++ mark ++ w) := by
  obtain ⟨front, equals⟩ := hm.equals
  -- up to the value nothing depends on it, and from the first mark on all is hidden
  induction X with
  | nil =>
    obtain ⟨word, hword, found⟩ := hm
    have chars : mark.all isValueChar = true := IsSecretMark.chars ⟨word, hword, found⟩
    cases hk : secretMarks.findSome? (markIn mark) with
    | some k =>
      rw [List.nil_append, hide_marked chars ⟨front, equals⟩ hk hv,
        hide_marked chars ⟨front, equals⟩ hk hw]
    | none =>
      have none := List.findSome?_eq_none_iff.mp hk word hword
      simp [markIn, found] at none
  | cons c X ih =>
    have last : ∃ front, c :: X ++ mark = front ++ ['='] :=
      ⟨c :: X ++ front, by rw [equals, List.append_assoc]⟩
    have chars : (c :: X ++ mark).all isValueChar = true := by
      rw [List.all_append, hX, hm.chars, Bool.true_and]
    cases hk : secretMarks.findSome? (markIn (c :: X ++ mark)) with
    | some k => rw [hide_marked chars last hk hv, hide_marked chars last hk hw]
    | none =>
      have unmarked : ∀ v, IsValue v → assignment (c :: (X ++ mark ++ v)) = none := by
        intro v hv
        have found := following_value chars last hv
        rwa [hk, Option.map_none] at found
      have rest := ih (Bool.and_eq_true_iff.mp (List.all_cons ▸ hX)).2
      show hide assignment (c :: (X ++ mark ++ v)) = hide assignment (c :: (X ++ mark ++ w))
      rw [hide_of_none (unmarked v hv), hide_of_none (unmarked w hw), rest]

theorem hide_assignment_barrier {d : Char} (hd : isValueChar d = false) (cs ds : List Char) :
    hide assignment (cs ++ d :: ds) = hide assignment cs ++ d :: hide assignment ds :=
  hide_barrier nonempty_secretMarks foldable_value isValueChar_of_mem_secretMarks hd hd cs ds

/-- Whatever stands before the mark. -/
theorem hide_value_behind (hm : IsSecretMark mark) (hv : IsValue v) (hw : IsValue w)
    (P : List Char) : hide assignment (P ++ mark ++ v) = hide assignment (P ++ mark ++ w) := by
  induction hn : P.length using Nat.strong_induction_on generalizing P with
  | _ length ih =>
    cases all : P.all isValueChar with
    | true => exact hide_value hm hv hw all
    | false =>
      obtain ⟨d, hd, other⟩ := List.all_eq_false.mp all
      obtain ⟨before, behind, rfl⟩ := List.append_of_mem hd
      have shorter : behind.length < length := by
        rw [← hn, List.length_append, List.length_cons]
        omega
      have rest := ih behind.length shorter behind rfl
      simp only [List.append_assoc, List.cons_append] at rest ⊢
      rw [hide_assignment_barrier (Bool.eq_false_iff.mpr other),
        hide_assignment_barrier (Bool.eq_false_iff.mpr other), rest]

/-- Whatever stands before the mark and behind the value. -/
theorem hide_value_between (hm : IsSecretMark mark) (hv : IsValue v) (hw : IsValue w)
    (P T : List Char) :
    hide assignment (P ++ mark ++ (v ++ T)) = hide assignment (P ++ mark ++ (w ++ T)) := by
  have taken : (T.takeWhile isValueChar).all isValueChar = true := List.all_takeWhile
  have split := (List.takeWhile_append_dropWhile (p := isValueChar) (l := T)).symm
  have value := hide_value_behind hm (hv.append taken) (hw.append taken) P
  cases hrest : T.dropWhile isValueChar with
  | nil =>
    rw [hrest, List.append_nil] at split
    rwa [← split] at value
  | cons d rest =>
    have other : isValueChar d = false := by
      have head := List.head?_dropWhile_not isValueChar T
      rw [hrest] at head
      simpa using head
    rw [hrest] at split
    rw [split]
    have shape : ∀ v : List Char, P ++ mark ++ (v ++ (T.takeWhile isValueChar ++ d :: rest))
        = (P ++ mark ++ (v ++ T.takeWhile isValueChar)) ++ d :: rest := by simp
    rw [shape, shape, hide_assignment_barrier other, hide_assignment_barrier other, value]

/-! ## §2. Lines that differ in credentials only. -/

/-- Two query texts, each value in them announced by a mark and a secret.  The first one is set
off by `sep`, the others by ampersands. -/
inductive Slots : Char → List Char → List Char → Prop
  | nil (sep : Char) : Slots sep [] []
  | cons {sep : Char} {lead mark v w ds es : List Char} (hlead : ' ' ∉ lead)
      (hm : IsSecretMark mark) (hv : IsSecret v) (hw : IsSecret w) (rest : Slots '&' ds es) :
      Slots sep (sep :: (lead ++ mark ++ (v ++ ds))) (sep :: (lead ++ mark ++ (w ++ es)))

/-- Two ends of lines: the same that is set off, or headers before that with values that differ
in a token. -/
inductive Tails : List Char → List Char → Prop
  | bare {post : List Char} (setOff : ∀ d, post.head? = some d → isHeaderChar d = false) :
      Tails post post
  | header {v w post : List Char} (covered : Covered v w)
      (setOff : ∀ d, post.head? = some d → isHeaderChar d = false) :
      Tails (' ' :: (headerName ++ (v ++ post))) (' ' :: (headerName ++ (w ++ post)))

variable {es U : List Char} {sep : Char}

theorem Slots.symm (h : Slots sep ds es) : Slots sep es ds := by
  induction h with
  | nil sep => exact .nil sep
  | cons hlead hm hv hw _ ih => exact .cons hlead hm hw hv ih

theorem Slots.shape (h : Slots sep ds es) :
    (ds = [] ∧ es = []) ∨ ∃ ds' es', ds = sep :: ds' ∧ es = sep :: es' := by
  cases h with
  | nil => exact .inl ⟨rfl, rfl⟩
  | cons => exact .inr ⟨_, _, rfl, rfl⟩

theorem not_space_of_all {cs : List Char} (h : cs.all isValueChar = true) : ' ' ∉ cs :=
  fun hb => absurd (List.all_eq_true.mp h ' ' hb) (by decide)

theorem Slots.blankless (h : Slots sep ds es) (hsep : sep ≠ ' ') : ' ' ∉ ds := by
  induction h with
  | nil => exact List.not_mem_nil
  | cons hlead hm hv hw _ ih =>
    simp only [List.mem_cons, List.mem_append, not_or]
    exact ⟨Ne.symm hsep, ⟨hlead, not_space_of_all hm.chars⟩, not_space_of_all hv.chars,
      ih (by decide)⟩

/-- No mark of the first two passes goes from a query value back across its equals sign. -/
theorem endsInMark_behind_equals (hv : endsInMark headerMarks v = false) (P : List Char) :
    endsInMark headerMarks (P ++ '=' :: v) = false := by
  refine endsInMark_eq_false.mpr fun word hw last hlast found => ?_
  rcases Nat.lt_or_ge v.length last.length with long | short
  · have within : '=' :: v <:+ last :=
      List.suffix_of_suffix_length_le (List.suffix_append ..) hlast long
    obtain ⟨p, hp, folds⟩ := exists_folding found (within.subset List.mem_cons_self)
    rw [(foldsTo_equals folds).mpr rfl] at hp
    have none : ∀ word ∈ headerMarks, '=' ∉ word.toList.dropLast := by decide
    exact none word hw hp
  · have within : last <:+ v :=
      List.suffix_of_suffix_length_le hlast
        ((List.suffix_cons '=' v).trans (List.suffix_append ..)) short
    exact endsInMark_eq_false.mp hv word hw last within found

/-- A query text with a secret at its end leaves a header behind it alone. -/
theorem Slots.endsInMark (h : Slots sep ds es) (some : ds ≠ []) :
    ∀ P : List Char, Text.endsInMark headerMarks (P ++ ds) = false := by
  induction h with
  | nil => contradiction
  | @cons sep lead mark v w ds es _ hm hv _ rest ih =>
    intro P
    by_cases last : ds = []
    · obtain ⟨front, rfl⟩ := hm.equals
      have behind := endsInMark_behind_equals hv.apart (P ++ sep :: (lead ++ front))
      subst last
      simpa using behind
    · have behind := ih last (P ++ sep :: (lead ++ mark ++ v))
      simpa using behind

/-- **The third pass hides what two query texts differ in.** -/
theorem hide_assignment_slots (h : Slots sep ds es) : ∀ P T : List Char,
    hide assignment (P ++ ds ++ T) = hide assignment (P ++ es ++ T) := by
  induction h with
  | nil => exact fun _ _ => rfl
  | @cons sep lead mark v w ds es _ hm hv hw rest ih =>
    intro P T
    have shape : ∀ v ds : List Char, P ++ sep :: (lead ++ mark ++ (v ++ ds)) ++ T
        = P ++ sep :: lead ++ mark ++ (v ++ (ds ++ T)) := by simp
    rw [shape, shape]
    rcases rest.shape with ⟨rfl, rfl⟩ | ⟨ds', es', rfl, rfl⟩
    · exact hide_value_between hm hv.toIsValue hw.toIsValue _ _
    · have apart : ∀ cs ds : List Char, hide assignment (cs ++ '&' :: ds)
          = hide assignment cs ++ '&' :: hide assignment ds :=
        hide_assignment_barrier (by decide)
      have value := hide_value_behind hm hv.toIsValue hw.toIsValue (P ++ sep :: lead)
      have others : hide assignment ([] ++ '&' :: (ds' ++ T))
          = hide assignment ([] ++ '&' :: (es' ++ T)) := ih [] T
      rw [apart, apart] at others
      have split : ∀ v ds : List Char, P ++ sep :: lead ++ mark ++ (v ++ ('&' :: ds ++ T))
          = P ++ sep :: lead ++ mark ++ v ++ '&' :: (ds ++ T) := by simp
      rw [split, split, apart, apart, value, List.append_cancel_left others]

/-- What is left of an authorization header begins as the header does. -/
theorem exists_hide_header (rest : List Char) : ∃ more,
    hide authorization (' ' :: (headerName ++ rest)) = ' ' :: 'a' :: more := by
  have space : authorization (' ' :: (headerName ++ rest)) = none := rfl
  have kept : (hide authorization (headerName ++ rest)).head? = some 'a' :=
    head?_hide spaced_authorization.nonempty (headerName ++ rest)
  obtain ⟨more, hmore⟩ := List.head?_eq_some_iff.mp kept
  exact ⟨more, by rw [hide_of_none space, hmore]⟩

namespace Tails

theorem symm (h : Tails T U) : Tails U T := by
  cases h with
  | bare setOff => exact .bare setOff
  | header covered setOff =>
    refine .header ?_ setOff
    rcases covered with same | ⟨word, c, d, hword, hc, hd, hv, hw⟩
    · exact .inl same.symm
    · exact .inr ⟨word, d, c, hword, hd, hc, hw, hv⟩

/-- **The first pass hides what two headers differ in.** -/
theorem hide_eq (h : Tails T U) : hide authorization T = hide authorization U := by
  cases h with
  | bare => rfl
  | header covered setOff =>
    rcases covered with rfl | ⟨word, c, d, hword, hc, hd, rfl, rfl⟩
    · rfl
    · rw [List.append_assoc, List.append_assoc, hide_covered hword hc setOff,
        hide_covered hword hd setOff]

theorem parted (h : Tails T U) (hm : Spaced marks) (hP : endsInMark marks P = false) :
    Parted isTokenChar marks P T := by
  cases h with
  | bare setOff => exact hm.parted_setOff P setOff
  | header => exact hm.parted_name hP _

theorem parted_hidden (h : Tails T U) (hm : Spaced marks) (hP : endsInMark marks P = false) :
    Parted isTokenChar marks P (hide authorization T) := by
  cases h with
  | bare setOff =>
    refine hm.parted_setOff P fun d hd => setOff d ?_
    rwa [authorization_eq, head?_hide spaced_authorization.nonempty] at hd
  | @header v _ post =>
    obtain ⟨more, hmore⟩ := exists_hide_header (v ++ post)
    rw [hmore]
    exact hm.parted_name hP more

end Tails

theorem endsInMark_of_subset {more : List String} (hm : marks ⊆ more)
    (h : endsInMark more cs = false) : endsInMark marks cs = false :=
  endsInMark_eq_false.mpr fun word hw => endsInMark_eq_false.mp h word (hm hw)

/-- What the three passes leave of a line. -/
def hideAll (cs : List Char) : List Char := hide assignment (hide bearer (hide authorization cs))

/-- The first two passes leave query texts as they are. -/
theorem hide_header_passes (h : Slots sep ds es) (hsep : isHeaderChar sep = false)
    (ht : Tails T U) (some : ds ≠ []) (P : List Char) :
    hide bearer (hide authorization (P ++ ds ++ T)) = hide bearer (hide authorization P) ++ ds
      ++ hide bearer (hide authorization T) := by
  have blankless : ' ' ∉ ds := h.blankless fun same => by
    rw [same] at hsep
    exact absurd hsep (by decide +kernel)
  have begins : ds = [] ∨ ∃ rest, ds = sep :: rest := by
    rcases h.shape with ⟨empty, _⟩ | ⟨rest, _, begins, _⟩
    · exact .inl empty
    · exact .inr ⟨rest, begins⟩
  have first : endsInMark authorizationMarks (P ++ ds) = false :=
    endsInMark_of_subset (by decide) (h.endsInMark some P)
  have second : endsInMark ["bearer "] (hide authorization P ++ ds) = false :=
    endsInMark_of_subset (by decide) (h.endsInMark some _)
  rw [authorization_eq, spaced_authorization.hide_between hsep blankless begins
    (ht.parted spaced_authorization first), ← authorization_eq, bearer_eq,
    spaced_bearer.hide_between hsep blankless begins (ht.parted_hidden spaced_bearer second)]

/-- **Lines that differ in query values behind marks of secrets and in the token of an authorization
header are the same when they are redacted.** -/
theorem hideAll_slots (h : Slots sep ds es) (hsep : isHeaderChar sep = false) (ht : Tails T U)
    (hP : endsInMark authorizationMarks P = false) :
    hideAll (P ++ ds ++ T) = hideAll (P ++ es ++ U) := by
  unfold hideAll
  rcases h.shape with ⟨rfl, rfl⟩ | ⟨ds', es', hd, he⟩
  · -- nothing differs but the header
    rw [List.append_nil, authorization_eq,
      hide_append spaced_authorization.nonempty (ht.parted spaced_authorization hP),
      hide_append spaced_authorization.nonempty (ht.symm.parted spaced_authorization hP),
      ← authorization_eq, ht.hide_eq]
  · have someD : ds ≠ [] := by simp [hd]
    have someE : es ≠ [] := by simp [he]
    rw [hide_header_passes h hsep ht someD, hide_header_passes h.symm hsep ht.symm someE,
      ht.hide_eq, hide_assignment_slots h]

end Pageflow.Text
