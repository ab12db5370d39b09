/-
  Pageflow.Proofs.Passes — the three passes over a line.

  Each pass looks for marks of its own: the first two for marks with a space in them and a token
  behind, the third one for names of secrets and a query value.  So the first two change nothing
  where there is no space.  The first one hides the token of an authorization header and keeps a
  word before it.

  What stands before the header must not end in a mark that lacks only its space: else the mark
  goes across, and what is hidden is the name of the header in place of its value.

  Main definitions: `Spaced`, `Covered` and `endsInMark`.
  Main statements: `Spaced.parted_name`, `Spaced.hide_between` and `hide_covered`.
-/
import Pageflow.Proofs.Hiding

namespace Pageflow.Text

/-! ## §1. The three passes. -/

/-- A character of a query value. -/
def isValueChar (c : Char) : Bool := !Char.isBlank c && c ≠ '&'

/-- A character of a header: of a token, or a space. -/
def isHeaderChar (c : Char) : Bool := isTokenChar c || c = ' '

/-- What stands before the value of an authorization header. -/
def authorizationMarks : List String :=
  ["authorization: bearer ", "authorization: basic ", "authorization: "]

/-- All marks that end in a space. -/
def headerMarks : List String := authorizationMarks ++ ["bearer "]

/-- What stands before the value of a secret in a query. -/
def secretMarks : List String :=
  ["api_key=", "api-key=", "apikey=", "token=", "secret=", "password="]

theorem authorization_eq : authorization = following isTokenChar authorizationMarks := rfl

theorem bearer_eq : bearer = following isTokenChar ["bearer "] := by
  funext cs
  simp only [bearer, following, firstOf, List.map_singleton, List.findSome?_singleton]
  rfl

theorem assignment_eq : assignment = following isValueChar secretMarks := rfl

theorem isTokenChar_of_isUpper {c : Char} (h : c.isUpper = true) : isTokenChar c = true := by
  have upper := (of_decide_eq_true h).2
  have ascii : c.toNat < 128 := Nat.lt_of_le_of_lt (UInt32.le_iff_toNat_le.mp upper) (by decide)
  have alpha : c.isAlpha = true := Bool.or_eq_true_iff.mpr (.inl h)
  simp [isTokenChar, isWordChar, ascii, Char.isAlphanum, alpha]

theorem foldable_header : Foldable isHeaderChar where
  upper c h := by rw [isHeaderChar, isTokenChar_of_isUpper h, Bool.true_or]
  long := by decide +kernel
  kelvin := by decide +kernel

theorem foldable_value : Foldable isValueChar where
  upper c h := by
    obtain ⟨low, high⟩ := of_decide_eq_true h
    have low : 65 ≤ c.toNat := UInt32.le_iff_toNat_le.mp low
    have high : c.toNat ≤ 90 := UInt32.le_iff_toNat_le.mp high
    have other : c ≠ '&' := by
      rintro rfl
      exact absurd low (by decide)
    simp only [isValueChar, Char.isBlank, Bool.and_eq_true, Bool.not_eq_true', decide_eq_true_eq]
    refine ⟨?_, other⟩
    simp
    omega
  long := by decide +kernel
  kelvin := by decide +kernel

/-- The word ends the text, in any letter case. -/
def endsIn (word cs : List Char) : Bool := cs.tails.any fun last => dropWord? word last = some []

/-- The text ends in one of the marks, but for its last character. -/
def endsInMark (marks : List String) (cs : List Char) : Bool :=
  marks.any fun word => endsIn word.toList.dropLast cs

theorem endsIn_iff {word cs : List Char} :
    endsIn word cs = true ↔ ∃ last, last <:+ cs ∧ dropWord? word last = some [] := by
  simp [endsIn, List.any_eq_true]

theorem endsInMark_eq_false {marks : List String} {cs : List Char} : endsInMark marks cs = false ↔
    ∀ word ∈ marks, ∀ last, last <:+ cs → dropWord? word.toList.dropLast last ≠ some [] := by
  simp only [endsInMark, List.any_eq_false, endsIn_iff, not_exists, not_and]

variable {cs ds P T : List Char} {marks : List String}

/-! ## §2. Marks with a space. -/

/-- Marks of characters of a header, with a space in each; after a space none goes on with an
`a`. -/
structure Spaced (marks : List String) : Prop where
  space : ∀ word ∈ marks, ' ' ∈ word.toList
  header : ∀ word ∈ marks, ∀ p ∈ word.toList, isHeaderChar p = true
  next : ∀ word ∈ marks, ∀ n ∈ List.range word.toList.length, word.toList[n]? = some ' ' →
    (word.toList[n + 1]?).all (fun p => !foldsTo p 'a') = true

theorem forall_chars_of_all {class? : Char → Bool}
    (h : (marks.all fun word => word.toList.all class?) = true) :
    ∀ word ∈ marks, ∀ p ∈ word.toList, class? p = true := by
  intro word hw
  exact List.all_eq_true.mp (List.all_eq_true.mp h word hw)

theorem spaced_authorization : Spaced authorizationMarks where
  space := by decide +kernel
  header := forall_chars_of_all (by decide +kernel)
  next := by decide +kernel

theorem spaced_bearer : Spaced ["bearer "] where
  space := by decide +kernel
  header := forall_chars_of_all (by decide +kernel)
  next := by decide +kernel

theorem spaced_basic : Spaced ["basic "] where
  space := by decide +kernel
  header := forall_chars_of_all (by decide +kernel)
  next := by decide +kernel

namespace Spaced

theorem nonempty (h : Spaced marks) : ∀ word ∈ marks, word ≠ "" := by
  rintro _ hw rfl
  exact absurd (h.space _ hw) (by simp)

theorem dropWord?_eq_none (h : Spaced marks) {word : String} (hw : word ∈ marks)
    (blankless : ' ' ∉ cs) : dropWord? word.toList cs = none := by
  cases found : dropWord? word.toList cs with
  | none => rfl
  | some rest =>
    obtain ⟨c, hc, folds⟩ := exists_foldsTo found (h.space word hw)
    rw [eq_of_foldsTo (by decide) folds] at hc
    exact absurd hc blankless

/-- Where there is no space, nothing is hidden. -/
theorem hide_blankless (h : Spaced marks) (blankless : ' ' ∉ cs) :
    hide (following isTokenChar marks) cs = cs := by
  refine hide_unmarked fun first hf => following_eq_none fun word hw => ?_
  exact h.dropWord?_eq_none hw fun hb => blankless (hf.subset hb)

theorem parted_setOff (h : Spaced marks) (cs : List Char)
    (setOff : ∀ d, ds.head? = some d → isHeaderChar d = false) :
    Parted isTokenChar marks cs ds := by
  cases ds with
  | nil => exact parted_nil cs
  | cons d ds =>
    have other := setOff d rfl
    exact parted_barrier foldable_header h.header (Bool.or_eq_false_iff.mp other).1 other cs ds

/-- A name that begins with `a` after a space is parted from what stands before it, unless that
lacks only the space to be a mark. -/
theorem parted_name (h : Spaced marks) (hc : endsInMark marks cs = false) (ds : List Char) :
    Parted isTokenChar marks cs (' ' :: 'a' :: ds) where
  stops := by
    rintro _ ⟨⟩
    decide +kernel
  marked word hw first rest hf _ found := by
    by_contra long
    push Not at long
    rw [← String.length_toList] at long
    have begins := (dropWord?_eq_some.mp found).1
    have space : word.toList[first.length]? = some ' ' := by
      obtain ⟨c, hc, folds⟩ := begins first.length word.toList[first.length] (by simp [long])
      rw [List.getElem?_append_right (Nat.le_refl _), Nat.sub_self] at hc
      obtain rfl := Option.some.inj hc
      rw [List.getElem?_eq_getElem long, eq_of_foldsTo_caseless (by decide) folds]
    have ended : word.toList[first.length + 1]? = none := by
      have next := h.next word hw first.length (List.mem_range.mpr long) space
      cases hp : word.toList[first.length + 1]? with
      | none => rfl
      | some p =>
        obtain ⟨c, hc, folds⟩ := begins (first.length + 1) p hp
        rw [List.getElem?_append_right (Nat.le_add_right _ 1), Nat.add_sub_cancel_left] at hc
        obtain rfl := Option.some.inj hc
        rw [hp, Option.all_some, folds] at next
        contradiction
    have whole : word.toList.length = first.length + 1 :=
      Nat.le_antisymm (List.getElem?_eq_none_iff.mp ended) long
    -- so the mark but for its space is the end of what stands before
    refine endsInMark_eq_false.mp hc word hw first hf ?_
    rw [List.dropLast_eq_take, whole, Nat.add_sub_cancel]
    exact dropWord?_take (Nat.le_of_lt long) found

/-- **What has no space is left as it is between what stands before and behind it.** -/
theorem hide_between (h : Spaced marks) {sep : Char} (hsep : isHeaderChar sep = false)
    (blankless : ' ' ∉ ds) (hds : ds = [] ∨ ∃ rest, ds = sep :: rest)
    (parted : Parted isTokenChar marks (P ++ ds) T) :
    hide (following isTokenChar marks) (P ++ ds ++ T)
      = hide (following isTokenChar marks) P ++ ds ++ hide (following isTokenChar marks) T := by
  rw [hide_append h.nonempty parted]
  congr 1
  rcases hds with rfl | ⟨rest, rfl⟩
  · rw [List.append_nil, List.append_nil]
  · have stops := (Bool.or_eq_false_iff.mp hsep).1
    rw [hide_barrier h.nonempty foldable_header h.header stops hsep,
      h.hide_blankless fun hb => blankless (List.mem_cons_of_mem sep hb)]

end Spaced

theorem head?_hide (nonempty : ∀ word ∈ marks, word ≠ "") {accepts : Char → Bool}
    (cs : List Char) : (hide (following accepts marks) cs).head? = cs.head? := by
  cases cs with
  | nil => rfl
  | cons c cs =>
    cases found : following accepts marks (c :: cs) with
    | none => rw [hide_of_none found]; rfl
    | some pair =>
      obtain ⟨mark, n⟩ := pair
      have positive := ne_zero_of_following nonempty found
      obtain ⟨m, rfl⟩ := Nat.exists_eq_succ_of_ne_zero positive
      rw [hide_of_some found positive (List.cons_ne_nil c cs)]
      rfl

/-! ## §3. The value of the header. -/

/-- A credential that is taken for a token as a whole. -/
def IsToken (cs : List Char) : Prop := cs ≠ [] ∧ cs.all isTokenChar = true

/-- A word that is kept before a token, or none. -/
def IsScheme (word : List Char) : Prop :=
  word = [] ∨ dropWord? "bearer ".toList word = some [] ∨ dropWord? "basic ".toList word = some []

/-- The values of the header differ in a token, if at all. -/
def Covered (v w : List Char) : Prop :=
  v = w ∨ ∃ word c d, IsScheme word ∧ IsToken c ∧ IsToken d ∧ v = word ++ c ∧ w = word ++ d

/-- The name of the header. -/
def headerName : List Char := "authorization: ".toList

theorem dropWord?_headerName (word cs : List Char) :
    dropWord? (headerName ++ word) (headerName ++ cs) = dropWord? word cs := by
  have same : ∀ name : List Char, (∀ p ∈ name, foldsTo p p = true) →
      dropWord? (name ++ word) (name ++ cs) = dropWord? word cs := by
    intro name
    induction name with
    | nil => exact fun _ => rfl
    | cons p name ih =>
      intro h
      rw [List.cons_append, List.cons_append, dropWord?, if_pos (h p List.mem_cons_self)]
      exact ih fun q hq => h q (List.mem_cons_of_mem p hq)
  have reflexive : headerName.all (fun p => foldsTo p p) = true := by decide +kernel
  exact same headerName (List.all_eq_true.mp reflexive)

theorem IsToken.blankless (h : IsToken cs) : ' ' ∉ cs := fun hb =>
  absurd (List.all_eq_true.mp h.2 ' ' hb) (by decide +kernel)

/-- No mark with a space begins with a token that is set off from what follows. -/
theorem Spaced.dropWord?_token (h : Spaced marks) (hc : IsToken cs)
    (setOff : ∀ d, ds.head? = some d → isHeaderChar d = false) {word : String} (hw : word ∈ marks) :
    dropWord? word.toList (cs ++ ds) = none := by
  cases found : dropWord? word.toList (cs ++ ds) with
  | none => rfl
  | some rest =>
    have short := (h.parted_setOff cs setOff).marked word hw cs rest List.suffix_rfl hc.1 found
    rw [← String.length_toList] at short
    have within := dropWord?_of_append short found
    rw [h.dropWord?_eq_none hw hc.blankless] at within
    contradiction

/-- The two words that are kept before a token differ in their second letters. -/
theorem dropWord?_bearer_of_basic {word : List Char}
    (h : dropWord? "basic ".toList word = some []) (more : List Char) :
    dropWord? "bearer ".toList (word ++ more) = none := by
  cases found : dropWord? "bearer ".toList (word ++ more) with
  | none => rfl
  | some rest =>
    obtain ⟨c, hc, isA⟩ := (dropWord?_eq_some.mp (dropWord?_append h more)).1 1 'a' rfl
    obtain ⟨d, hd, isE⟩ := (dropWord?_eq_some.mp found).1 1 'e' rfl
    obtain rfl := Option.some.inj (hc.symm.trans hd)
    simp only [foldsTo, Bool.or_eq_true, decide_eq_true_eq] at isA isE
    simp_all

/-- What is found where an authorization header begins. -/
theorem authorization_headerName {word : List Char} (hword : IsScheme word) (hc : IsToken cs)
    (setOff : ∀ d, ds.head? = some d → isHeaderChar d = false) :
    authorization (headerName ++ (word ++ (cs ++ ds)))
      = some ((headerName ++ word).length, cs.length) := by
  have value : (cs ++ ds).takeWhile isTokenChar = cs := by
    have stops : ∀ d, ds.head? = some d → isTokenChar d = false :=
      fun d hd => (Bool.or_eq_false_iff.mp (setOff d hd)).1
    rw [List.takeWhile_append_of_pos (List.all_eq_true.mp hc.2), takeWhile_of_stops stops,
      List.append_nil]
  have some : cs.length ≠ 0 := fun zero => hc.1 (List.length_eq_zero_iff.mp zero)
  have bearer : "authorization: bearer ".toList = headerName ++ "bearer ".toList := by decide
  have basic : "authorization: basic ".toList = headerName ++ "basic ".toList := by decide
  have raw : "authorization: ".toList = headerName ++ [] := by decide
  unfold authorization firstOf
  simp only [List.findSome?_cons, List.findSome?_nil, afterMark, bearer, basic, raw,
    dropWord?_headerName, tokenLength]
  rcases hword with rfl | hword | hword
  · have first := spaced_bearer.dropWord?_token hc setOff (List.mem_singleton_self _)
    have second := spaced_basic.dropWord?_token hc setOff (List.mem_singleton_self _)
    simp only [List.nil_append, first, second, dropWord?, value, if_neg some, List.append_nil]
    rfl
  · have length : word.length = "bearer ".toList.length := length_eq_of_dropWord? hword
    simp only [dropWord?_append hword, List.nil_append, value, if_neg some, List.length_append,
      length]
    rfl
  · have length : word.length = "basic ".toList.length := length_eq_of_dropWord? hword
    have other := dropWord?_bearer_of_basic hword (cs ++ ds)
    simp only [other, dropWord?_append hword, List.nil_append, value, if_neg some,
      List.length_append, length]
    rfl

/-- **The token of an authorization header is hidden**, and a word before it is kept. -/
theorem hide_covered {word : List Char} (hword : IsScheme word) (hc : IsToken cs)
    (setOff : ∀ d, ds.head? = some d → isHeaderChar d = false) :
    hide authorization (' ' :: (headerName ++ (word ++ (cs ++ ds))))
      = ' ' :: (headerName ++ word ++ redacted ++ hide authorization ds) := by
  have space : authorization (' ' :: (headerName ++ (word ++ (cs ++ ds)))) = none := rfl
  have found := authorization_headerName hword hc setOff
  have shape : headerName ++ (word ++ (cs ++ ds)) = (headerName ++ word) ++ (cs ++ ds) :=
    (List.append_assoc ..).symm
  have ne : ∀ more, headerName ++ more ≠ [] := fun more => List.cons_ne_nil 'a' _
  have positive : (headerName ++ word).length ≠ 0 :=
    fun zero => ne word (List.length_eq_zero_iff.mp zero)
  rw [hide_of_none space, hide_of_some found positive (ne _), shape, List.take_left,
    ← List.append_assoc, ← List.length_append, List.drop_left]

end Pageflow.Text
