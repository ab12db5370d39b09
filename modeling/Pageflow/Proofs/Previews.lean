/-
  Pageflow.Proofs.Previews — what a preview shows of a text.

  A preview reads a text from its start, and no further than its limit.  What it has read it shows
  without line breaks and tabs, without white space at either end, and with an ellipsis if there is
  more to be read:

      text = read ++ rest      preview = unbroken (trimmed read) ++ "..."   (if rest ≠ [])

  A break becomes a space only where none stands already, but a space stays wherever it stands.  So
  two spaces are side by side in a preview exactly if, in what it shows of the text, a space stands
  behind a space or a break.

  Main definitions: `unbroken`, `SingleSpaced`, `Tidy` and `shownOf`.
  Main statements: `exists_preview`, `singleSpaced_unbroken_iff` and
  `previews_are_collapsed_and_capped`; `previews_keep_spaces` on what is left out.
-/
import Mathlib.Data.List.Chain
import Pageflow.Text.Preview

namespace Pageflow.Text

/-! ## §1. Trimming. -/

section Trimming

variable {p : Char → Bool}

theorem dropEndWhile_append_of_pos {back : List Char} (h : ∀ c ∈ back, p c = true)
    (cs : List Char) : dropEndWhile p (cs ++ back) = dropEndWhile p cs := by
  rw [dropEndWhile, List.reverse_append,
    List.dropWhile_append_of_pos fun c hc => h c (List.mem_reverse.mp hc), dropEndWhile]

theorem not_of_mem_getLast?_dropEndWhile {cs : List Char} :
    ∀ c ∈ (dropEndWhile p cs).getLast?, p c = false := by
  intro c hc
  rw [dropEndWhile, List.getLast?_reverse] at hc
  have := List.head?_dropWhile_not p cs.reverse
  rwa [hc] at this

theorem not_of_mem_head?_stripWhile {cs : List Char} :
    ∀ c ∈ (stripWhile p cs).head?, p c = false := by
  intro c hc
  obtain ⟨back, hback⟩ := dropEndWhile_isPrefix p (cs.dropWhile p)
  have front : (cs.dropWhile p).head? = some c := by
    rw [← hback, List.head?_append, show (dropEndWhile p (cs.dropWhile p)).head? = some c from hc,
      Option.some_or]
  have := List.head?_dropWhile_not p cs
  rwa [front] at this

theorem length_stripWhile_le (cs : List Char) : (stripWhile p cs).length ≤ cs.length :=
  Nat.le_trans (dropEndWhile_isPrefix p _).length_le (List.dropWhile_suffix p).length_le

/-- Behind characters that stay, nothing is dropped in front. -/
theorem dropWhile_append_of_not {back : List Char} (h : ∀ c ∈ back, p c = false)
    (cs : List Char) : (cs ++ back).dropWhile p = cs.dropWhile p ++ back := by
  have stays : back.dropWhile p = back := by
    cases back with
    | nil => rfl
    | cons c back => exact List.dropWhile_cons_of_neg (by simp [h c List.mem_cons_self])
  rw [List.dropWhile_append, stays]
  split
  next gone => rw [List.isEmpty_iff.mp gone, List.nil_append]
  next => rfl

end Trimming

/-! ## §2. Texts without breaks. -/

/-- The characters with a space for each run of breaks, unless there is one before it; `spaced` says
that there is one at the start. -/
def unbroken : Bool → List Char → List Char
  | _, [] => []
  | spaced, c :: cs =>
    if isBreak c then if spaced then unbroken true cs else ' ' :: unbroken true cs
    else c :: unbroken (c = ' ') cs

theorem unbroken_break {c : Char} (h : isBreak c = true) (spaced : Bool) (cs : List Char) :
    unbroken spaced (c :: cs) = (if spaced then [] else [' ']) ++ unbroken true cs := by
  cases spaced <;> simp [unbroken, h]

theorem unbroken_of_not_break {c : Char} (h : isBreak c = false) (spaced : Bool) (cs : List Char) :
    unbroken spaced (c :: cs) = c :: unbroken (c = ' ') cs := by
  simp [unbroken, h]

theorem isBlank_of_isBreak {c : Char} (h : isBreak c = true) : Char.isBlank c = true := by
  unfold isBreak at h
  simp only [Bool.or_eq_true, decide_eq_true_eq] at h
  rcases h with (rfl | rfl) | rfl <;> rfl

/-- What replaces a break is none. -/
theorem not_break_of_mem_unbroken {spaced : Bool} {cs : List Char} :
    ∀ c ∈ unbroken spaced cs, isBreak c = false := by
  fun_induction unbroken spaced cs with
  | case1 => simp
  | case2 c cs broken ih => exact ih
  | case3 spaced c cs broken _ ih => exact List.forall_mem_cons.mpr ⟨rfl, ih⟩
  | case4 spaced c cs kept ih => exact List.forall_mem_cons.mpr ⟨by simpa using kept, ih⟩

/-- White space stays white space. -/
theorem isBlank_of_mem_unbroken {spaced : Bool} {cs : List Char}
    (h : ∀ c ∈ cs, Char.isBlank c = true) : ∀ c ∈ unbroken spaced cs, Char.isBlank c = true := by
  fun_induction unbroken spaced cs with
  | case1 => exact h
  | case2 c cs broken ih => exact ih (List.forall_mem_cons.mp h).2
  | case3 spaced c cs broken _ ih =>
    exact List.forall_mem_cons.mpr ⟨rfl, ih (List.forall_mem_cons.mp h).2⟩
  | case4 spaced c cs kept ih =>
    rw [List.forall_mem_cons] at h
    exact List.forall_mem_cons.mpr ⟨h.1, ih h.2⟩

/-- White space in front can be dropped before as well as after the breaks are. -/
theorem dropWhile_unbroken (spaced : Bool) (cs : List Char) :
    (unbroken spaced cs).dropWhile Char.isBlank = unbroken false (cs.dropWhile Char.isBlank) := by
  fun_induction unbroken spaced cs with
  | case1 => rfl
  | case2 c cs broken ih =>
    rw [ih, List.dropWhile_cons_of_pos (isBlank_of_isBreak broken)]
  | case3 spaced c cs broken _ ih =>
    rw [List.dropWhile_cons_of_pos rfl, ih, List.dropWhile_cons_of_pos (isBlank_of_isBreak broken)]
  | case4 spaced c cs kept ih =>
    cases blank : Char.isBlank c with
    | true => rw [List.dropWhile_cons_of_pos blank, ih, List.dropWhile_cons_of_pos blank]
    | false =>
      have stays : ¬Char.isBlank c = true := by simp [blank]
      rw [List.dropWhile_cons_of_neg stays, List.dropWhile_cons_of_neg stays,
        unbroken_of_not_break (by simpa using kept)]

/-- One character more gives at most one more, and white space gives white space only. -/
theorem unbroken_append_singleton (spaced : Bool) (cs : List Char) (c : Char) :
    ∃ back, unbroken spaced (cs ++ [c]) = unbroken spaced cs ++ back
      ∧ (Char.isBlank c = true → ∀ b ∈ back, Char.isBlank b = true)
      ∧ (Char.isBlank c = false → back = [c]) := by
  fun_induction unbroken spaced cs with
  | case1 spaced =>
    refine ⟨unbroken spaced [c], rfl, ?_, ?_⟩
    · exact fun blank => isBlank_of_mem_unbroken (List.forall_mem_singleton.mpr blank)
    · intro stays
      have kept : isBreak c = false := by
        rw [← Bool.not_eq_true]
        exact fun broken => by simp [isBlank_of_isBreak broken] at stays
      exact unbroken_of_not_break kept spaced []
  | case2 d cs broken ih =>
    rw [List.cons_append, unbroken_break broken]
    exact ih
  | case3 spaced d cs broken unspaced ih =>
    obtain ⟨back, appended, h⟩ := ih
    refine ⟨back, ?_, h⟩
    rw [List.cons_append, unbroken_break broken, if_neg unspaced, appended]
    rfl
  | case4 spaced d cs kept ih =>
    obtain ⟨back, appended, h⟩ := ih
    refine ⟨back, ?_, h⟩
    rw [List.cons_append, unbroken_of_not_break (by simpa using kept), appended]
    rfl

/-- So can white space at the end. -/
theorem dropEndWhile_unbroken (spaced : Bool) (cs : List Char) :
    dropEndWhile Char.isBlank (unbroken spaced cs)
      = unbroken spaced (dropEndWhile Char.isBlank cs) := by
  induction cs using List.reverseRecOn with
  | nil => rfl
  | append_singleton cs c ih =>
    obtain ⟨back, appended, blanks, stays⟩ := unbroken_append_singleton spaced cs c
    cases blank : Char.isBlank c with
    | true =>
      rw [appended, dropEndWhile_append_of_pos (blanks blank), ih,
        dropEndWhile_append_singleton blank]
    | false =>
      rw [dropEndWhile_append_singleton_of_not blank, appended, stays blank,
        dropEndWhile_append_singleton_of_not blank]

/-! ## §3. Two spaces side by side. -/

/-- No two spaces are side by side. -/
def SingleSpaced (cs : List Char) : Prop := cs.IsChain fun a b => ¬(a = ' ' ∧ b = ' ')

/-- No space is directly behind a space or a break. -/
def Tidy (cs : List Char) : Prop := cs.IsChain fun a b => ¬((a = ' ' ∨ isBreak a) ∧ b = ' ')

instance (cs : List Char) : Decidable (SingleSpaced cs) :=
  inferInstanceAs (Decidable (List.IsChain _ _))

instance (cs : List Char) : Decidable (Tidy cs) := inferInstanceAs (Decidable (List.IsChain _ _))

theorem tidy_cons_cons {a b : Char} {cs : List Char} :
    Tidy (a :: b :: cs) ↔ ¬((a = ' ' ∨ isBreak a) ∧ b = ' ') ∧ Tidy (b :: cs) :=
  List.isChain_cons_cons

theorem singleSpaced_cons_cons {a b : Char} {cs : List Char} :
    SingleSpaced (a :: b :: cs) ↔ ¬(a = ' ' ∧ b = ' ') ∧ SingleSpaced (b :: cs) :=
  List.isChain_cons_cons

/-- Behind a break it is as behind a space. -/
theorem tidy_break_cons {c : Char} (broken : isBreak c = true) (cs : List Char) :
    Tidy (c :: cs) ↔ Tidy (' ' :: cs) := by
  cases cs with
  | nil => exact ⟨fun _ => .singleton _, fun _ => .singleton _⟩
  | cons b cs => simp [tidy_cons_cons, broken]

/-- Behind a character that is shown; if that is a space, breaks are not shown. -/
theorem singleSpaced_cons_unbroken_iff {c : Char} (kept : isBreak c = false) (cs : List Char) :
    SingleSpaced (c :: unbroken (c = ' ') cs) ↔ Tidy (c :: cs) := by
  induction cs generalizing c with
  | nil => exact ⟨fun _ => .singleton _, fun _ => .singleton _⟩
  | cons b cs ih =>
    cases broken : isBreak b with
    | true =>
      have space := ih (c := ' ') rfl
      have apart : b ≠ ' ' := by rintro rfl; contradiction
      rw [unbroken_break broken, tidy_cons_cons, tidy_break_cons broken, ← space]
      by_cases hc : c = ' '
      · simp [hc, apart]
      · simp [hc, apart, singleSpaced_cons_cons]
    | false =>
      rw [unbroken_of_not_break broken, singleSpaced_cons_cons, ih broken, tidy_cons_cons, kept]
      simp

/-- **Spaces that are side by side come of a space behind a space or a break**, and only of
that. -/
theorem singleSpaced_unbroken_iff (cs : List Char) :
    SingleSpaced (unbroken false cs) ↔ Tidy cs := by
  cases cs with
  | nil => exact ⟨fun _ => .nil, fun _ => .nil⟩
  | cons c cs =>
    cases broken : isBreak c with
    | true =>
      rw [unbroken_break broken, tidy_break_cons broken]
      exact singleSpaced_cons_unbroken_iff (c := ' ') rfl cs
    | false =>
      rw [unbroken_of_not_break broken]
      exact singleSpaced_cons_unbroken_iff broken cs

/-! ## §4. Reading up to a limit. -/

/-- The number of bytes. -/
def bytesOf : List Char → Nat
  | [] => 0
  | c :: cs => c.utf8Size + bytesOf cs

/-- The mark that there is more to be read. -/
def ellipsis (rest : List Char) : List Char := if rest = [] then [] else ['.', '.', '.']

/-- **A text is read until the limit is reached**, and then there is an ellipsis.  By induction on
what is left of the text. -/
theorem exists_collapse (limit written : Nat) (spaced : Bool) (cs : List Char) :
    ∃ read rest, cs = read ++ rest
      ∧ collapse limit written spaced cs = unbroken spaced read ++ ellipsis rest
      ∧ (unbroken spaced read).length ≤ limit - written
      ∧ (rest ≠ [] → limit ≤ written + bytesOf (unbroken spaced read)) := by
  fun_induction collapse limit written spaced cs with
  | case1 written spaced => exact ⟨[], [], rfl, rfl, Nat.zero_le _, fun h => absurd rfl h⟩
  | case2 written spaced c cs reached =>
    exact ⟨[], c :: cs, rfl, rfl, Nat.zero_le _, fun _ => reached⟩
  | case3 written c cs below broken ih =>
    obtain ⟨read, rest, rfl, collapsed, length, limited⟩ := ih
    refine ⟨c :: read, rest, rfl, ?_⟩
    rw [unbroken_break broken]
    exact ⟨collapsed, length, limited⟩
  | case4 written spaced c cs below broken unspaced ih =>
    obtain ⟨read, rest, rfl, collapsed, length, limited⟩ := ih
    refine ⟨c :: read, rest, rfl, ?_⟩
    rw [unbroken_break broken, if_neg unspaced]
    refine ⟨congrArg _ collapsed, ?_, ?_⟩
    · simp only [List.singleton_append, List.length_cons]
      omega
    · intro more
      have := limited more
      simp only [bytesOf, List.singleton_append] at this ⊢
      have : Char.utf8Size ' ' = 1 := rfl
      omega
  | case5 written spaced c cs below kept ih =>
    obtain ⟨read, rest, rfl, collapsed, length, limited⟩ := ih
    refine ⟨c :: read, rest, rfl, ?_⟩
    rw [unbroken_of_not_break (by simpa using kept)]
    have positive := c.utf8Size_pos
    refine ⟨congrArg _ collapsed, ?_, ?_⟩
    · simp only [List.length_cons]
      omega
    · intro more
      have := limited more
      simp only [bytesOf] at this ⊢
      omega

/-! ## §5. Previews. -/

/-- The part of what was read that is shown: without white space in front, and at the end if the
text ends there. -/
def shownOf (read rest : List Char) : List Char :=
  if rest = [] then stripWhile Char.isBlank read else read.dropWhile Char.isBlank

theorem stripWhile_collapsed (read rest : List Char) :
    stripWhile Char.isBlank (unbroken false read ++ ellipsis rest)
      = unbroken false (shownOf read rest) ++ ellipsis rest := by
  unfold ellipsis shownOf
  split
  next =>
    rw [List.append_nil, List.append_nil, stripWhile, dropWhile_unbroken, dropEndWhile_unbroken,
      stripWhile]
  next =>
    have dots : ∀ c ∈ ['.', '.', '.'], Char.isBlank c = false := by
      intro c hc
      obtain rfl : c = '.' := by simpa using hc
      rfl
    have last : ['.', '.', '.'] = ['.', '.'] ++ ['.'] := rfl
    rw [stripWhile, dropWhile_append_of_not dots, dropWhile_unbroken, last, ← List.append_assoc,
      dropEndWhile_append_singleton_of_not rfl]

theorem length_shownOf_le (read rest : List Char) :
    (unbroken false (shownOf read rest)).length ≤ (unbroken false read).length := by
  unfold shownOf
  split
  · rw [stripWhile, ← dropEndWhile_unbroken, ← dropWhile_unbroken]
    exact length_stripWhile_le _
  · rw [← dropWhile_unbroken false]
    exact (List.dropWhile_suffix _).length_le

/-- An ellipsis neither makes two spaces nor parts them. -/
theorem singleSpaced_append_ellipsis {cs rest : List Char} :
    SingleSpaced (cs ++ ellipsis rest) ↔ SingleSpaced cs := by
  unfold SingleSpaced ellipsis
  split
  · rw [List.append_nil]
  · rw [List.isChain_append]
    constructor
    · exact fun h => h.1
    · refine fun h => ⟨h, by decide, ?_⟩
      rintro a _ b hb ⟨_, rfl⟩
      simp at hb

theorem preview_eq_strip {text : String} (h : isBlank text = false) (limit : Nat) :
    (preview text limit).toList
      = stripWhile Char.isBlank (collapse limit 0 false text.toList) := by
  rw [preview, h, if_neg Bool.false_ne_true, String.toList_ofList]

/-- **A preview is what was read of the text**, trimmed and without breaks, and an ellipsis. -/
theorem exists_preview {text : String} (h : isBlank text = false) (limit : Nat) :
    ∃ read rest, text.toList = read ++ rest
      ∧ (preview text limit).toList = unbroken false (shownOf read rest) ++ ellipsis rest
      ∧ (unbroken false (shownOf read rest)).length ≤ limit
      ∧ (rest ≠ [] → limit ≤ bytesOf (unbroken false read)) := by
  obtain ⟨read, rest, split, collapsed, length, limited⟩ :=
    exists_collapse limit 0 false text.toList
  refine ⟨read, rest, split, ?_, ?_, ?_⟩
  · rw [preview_eq_strip h, collapsed, stripWhile_collapsed]
  · exact Nat.le_trans (length_shownOf_le read rest) length
  · simpa using limited

/-- **Previews are collapsed and capped.**  Of a text that is nothing but white space the preview
says so.  Any other text is read up to some place, to its end or so far that the limit is reached;
what is read is shown without line breaks and tabs, in no more characters than the limit is, and
with an ellipsis exactly if there is more to be read.  There is no white space at either end.  Two
spaces are side by side exactly if a space is directly behind a space or a break in what is shown of
the text.  If the text does not end in white space, there is an ellipsis exactly if something is
left to be read that is none. -/
theorem previews_are_collapsed_and_capped (text : String) (limit : Nat) :
    (isBlank text = true → preview text limit = "<empty>")
    ∧ (isBlank text = false → ∃ read rest : List Char, text.toList = read ++ rest
      ∧ (preview text limit).toList = unbroken false (shownOf read rest) ++ ellipsis rest
      ∧ (unbroken false (shownOf read rest)).length ≤ limit
      ∧ (rest ≠ [] → limit ≤ bytesOf (unbroken false read))
      ∧ (∀ c ∈ (preview text limit).toList, isBreak c = false)
      ∧ (∀ c ∈ (preview text limit).toList.head?, Char.isBlank c = false)
      ∧ (∀ c ∈ (preview text limit).toList.getLast?, Char.isBlank c = false)
      ∧ (SingleSpaced (preview text limit).toList ↔ Tidy (shownOf read rest))
      ∧ ((∀ c ∈ text.toList.getLast?, Char.isBlank c = false) →
        (rest ≠ [] ↔ ∃ c ∈ rest, Char.isBlank c = false))) := by
  constructor
  · intro blank
    rw [preview, if_pos blank]
  · intro visible
    obtain ⟨read, rest, split, chars, length, limited⟩ := exists_preview visible limit
    refine ⟨read, rest, split, chars, length, limited, ?unbroken, ?front, ?back, ?spaces, ?cut⟩
    case unbroken =>
      intro c hc
      rw [chars, List.mem_append] at hc
      rcases hc with hc | hc
      · exact not_break_of_mem_unbroken c hc
      · unfold ellipsis at hc
        split at hc
        · contradiction
        · obtain rfl : c = '.' := by simpa using hc
          rfl
    case front =>
      rw [preview_eq_strip visible]
      exact not_of_mem_head?_stripWhile
    case back =>
      rw [preview_eq_strip visible]
      exact not_of_mem_getLast?_dropEndWhile
    case spaces =>
      rw [chars, singleSpaced_append_ellipsis, singleSpaced_unbroken_iff]
    case cut =>
      intro ends
      constructor
      · intro more
        refine ⟨rest.getLast more, List.getLast_mem more, ends _ ?_⟩
        rw [split, List.getLast?_append_of_ne_nil _ more, List.getLast?_eq_getLast_of_ne_nil more]
        rfl
      · rintro ⟨c, hc, _⟩
        exact List.ne_nil_of_mem hc

/-- A text with a break and a tab between its words, cut off in the second word, and one that is
white space only. -/
theorem previews_are_collapsed_and_capped_page :
    isBlank "\n \t" = true ∧ preview "\n \t" 6 = "<empty>"
    ∧ isBlank "Not\n\tfound" = false ∧ preview "Not\n\tfound" 6 = "Not fo..."
    ∧ SingleSpaced (preview "Not\n\tfound" 6).toList
    ∧ ∃ read rest, "Not\n\tfound".toList = read ++ rest ∧ Tidy (shownOf read rest)
      ∧ ∃ c ∈ rest, Char.isBlank c = false := by
  have blank : isBlank "\n \t" = true := by decide +kernel
  have visible : isBlank "Not\n\tfound" = false := by decide +kernel
  have shows : preview "Not\n\tfound" 6 = "Not fo..." := by decide +kernel
  have single : SingleSpaced (preview "Not\n\tfound" 6).toList := by
    rw [shows]
    decide +kernel
  have ends : ∀ c ∈ "Not\n\tfound".toList.getLast?, Char.isBlank c = false := by
    have last : "Not\n\tfound".toList.getLast? = some 'd' := by decide +kernel
    rw [last]
    rintro _ ⟨_, rfl⟩
    rfl
  obtain ⟨read, rest, split, chars, length, limited, _, _, _, spaces, cut⟩ :=
    (previews_are_collapsed_and_capped "Not\n\tfound" 6).2 visible
  refine ⟨blank, (previews_are_collapsed_and_capped "\n \t" 6).1 blank, visible, shows, single,
    read, rest, split, spaces.mp single, (cut ends).mp ?_⟩
  -- all that is shown of the whole text has nine characters, three too many
  rintro rfl
  obtain rfl : "Not\n\tfound".toList = read := by rw [split, List.append_nil]
  exact absurd length (by decide +kernel)

/-- Spaces stay side by side, those of the text and those that come of breaks; and an ellipsis
stands even for a line break at the end. -/
theorem previews_keep_spaces :
    (isBlank "a  b" = false ∧ preview "a  b" 10 = "a  b" ∧ ¬SingleSpaced (preview "a  b" 10).toList)
    ∧ (isBlank "a\n b" = false ∧ ¬SingleSpaced (preview "a\n b" 10).toList)
    ∧ isBlank "abc\n" = false ∧ preview "abc\n" 3 = "abc..." := by
  decide +kernel

end Pageflow.Text
