/-
  Pageflow.Text.Blank — white space, trimming and other cuts of a text.

  A character is blank if it has the Unicode property White_Space.  Texts are cut as lists of
  characters, so each cut is a `dropWhile` or a structural search.
-/

namespace Pageflow

/-! ## §1. The property White_Space -/

/-- White space of every script: the six ASCII controls and space, the next-line control, the
no-break space and the space separators. -/
def Char.isBlank (c : Char) : Bool :=
  let n := c.toNat
  (0x09 ≤ n && n ≤ 0x0D) || n = 0x20 || n = 0x85 || n = 0xA0 || n = 0x1680
    || (0x2000 ≤ n && n ≤ 0x200A) || n = 0x2028 || n = 0x2029 || n = 0x202F || n = 0x205F
    || n = 0x3000

namespace Text

/-! ## §2. Trimming -/

/-- Drops characters of the class from the end. -/
def dropEndWhile (p : Char → Bool) (cs : List Char) : List Char :=
  (cs.reverse.dropWhile p).reverse

theorem dropEndWhile_of_forall_not {p : Char → Bool} {cs : List Char} (h : ∀ c ∈ cs, p c = false) :
    dropEndWhile p cs = cs := by
  unfold dropEndWhile
  cases hr : cs.reverse with
  | nil => rw [List.reverse_eq_nil_iff.mp hr, List.dropWhile_nil, List.reverse_nil]
  | cons c rest =>
    have hc : p c = false := h c (List.mem_reverse.mp (by rw [hr]; exact List.mem_cons_self))
    rw [List.dropWhile_cons_of_neg (by simp [hc]), ← hr, List.reverse_reverse]

theorem dropEndWhile_append_singleton {p : Char → Bool} {c : Char} (h : p c = true)
    (cs : List Char) : dropEndWhile p (cs ++ [c]) = dropEndWhile p cs := by
  simp [dropEndWhile, h]

theorem dropEndWhile_append_singleton_of_not {p : Char → Bool} {c : Char} (h : p c = false)
    (cs : List Char) : dropEndWhile p (cs ++ [c]) = cs ++ [c] := by
  simp [dropEndWhile, h]

theorem dropEndWhile_isPrefix (p : Char → Bool) (cs : List Char) : dropEndWhile p cs <+: cs := by
  rw [← List.reverse_suffix, dropEndWhile, List.reverse_reverse]
  exact List.dropWhile_suffix p

/-- Drops characters of the class from both ends. -/
def stripWhile (p : Char → Bool) (cs : List Char) : List Char :=
  dropEndWhile p (cs.dropWhile p)

/-- The text without blank characters at its ends. -/
def trim (s : String) : String := String.ofList (stripWhile Char.isBlank s.toList)

/-- Whether a text has no character that is not blank. -/
def isBlank (s : String) : Bool := s.toList.all Char.isBlank

/-! ## §3. Searching and cutting -/

/-- The rest of `cs` after `start`, if it begins so. -/
def dropStart? : List Char → List Char → Option (List Char)
  | [], cs => some cs
  | _ :: _, [] => none
  | p :: ps, c :: cs => if p = c then dropStart? ps cs else none

/-- What stands before and after the first occurrence of a character. -/
def cutAt? (sep : Char) : List Char → Option (List Char × List Char)
  | [] => none
  | c :: cs =>
    if c = sep then some ([], cs)
    else (cutAt? sep cs).map fun (before, after) => (c :: before, after)

theorem cutAt?_eq_none {sep : Char} {cs : List Char} : cutAt? sep cs = none ↔ sep ∉ cs := by
  induction cs with
  | nil => simp [cutAt?]
  | cons c cs ih =>
    by_cases h : c = sep
    · simp [cutAt?, h]
    · simp [cutAt?, h, ih, Ne.symm h]

theorem eq_of_cutAt? {sep : Char} {cs before after : List Char}
    (h : cutAt? sep cs = some (before, after)) : cs = before ++ sep :: after ∧ sep ∉ before := by
  induction cs generalizing before with
  | nil => simp [cutAt?] at h
  | cons c cs ih =>
    rw [cutAt?] at h
    split at h
    next hc =>
      obtain ⟨rfl, rfl⟩ := Prod.mk.inj (Option.some.inj h)
      exact ⟨by rw [hc, List.nil_append], List.not_mem_nil⟩
    next hc =>
      obtain ⟨⟨before', after'⟩, hcut, he⟩ := Option.map_eq_some_iff.mp h
      obtain ⟨rfl, rfl⟩ := Prod.mk.inj he
      obtain ⟨rfl, hsep⟩ := ih hcut
      refine ⟨List.cons_append.symm, ?_⟩
      rw [List.mem_cons, not_or]
      exact ⟨Ne.symm hc, hsep⟩

theorem cutAt?_append {sep : Char} {before : List Char} (h : sep ∉ before) (after : List Char) :
    cutAt? sep (before ++ sep :: after) = some (before, after) := by
  induction before with
  | nil => exact if_pos rfl
  | cons c before ih =>
    rw [List.mem_cons, not_or] at h
    rw [List.cons_append, cutAt?, if_neg (Ne.symm h.1), ih h.2, Option.map_some]

/-- The pieces between the occurrences of a character; at least one. -/
def splitAt (sep : Char) : List Char → List (List Char)
  | [] => [[]]
  | c :: cs =>
    match splitAt sep cs with
    | [] => [[c]]
    | piece :: more => if c = sep then [] :: piece :: more else (c :: piece) :: more

/-- Replaces every occurrence of a non-empty `pattern`, scanning from the left, after `skip`
characters that belong to an occurrence already replaced. -/
def replaceFrom (pattern value : List Char) : Nat → List Char → List Char
  | _, [] => []
  | skip + 1, _ :: cs => replaceFrom pattern value skip cs
  | 0, c :: cs =>
    if pattern.isPrefixOf (c :: cs) then
      value ++ replaceFrom pattern value (pattern.length - 1) cs
    else c :: replaceFrom pattern value 0 cs

/-- Every occurrence of a non-empty `pattern` replaced. -/
def replace (pattern value cs : List Char) : List Char := replaceFrom pattern value 0 cs

/-- Whether `pattern` occurs somewhere. -/
def occurs (pattern : List Char) : List Char → Bool
  | [] => pattern.isEmpty
  | c :: cs => pattern.isPrefixOf (c :: cs) || occurs pattern cs

/-- The texts with a separator between neighbours. -/
def join (separator : String) : List String → String
  | [] => ""
  | [s] => s
  | s :: rest => s ++ separator ++ join separator rest

/-! ## §4. ASCII letters -/

/-- The ASCII letters in lower case, all else unchanged. -/
def lowerAscii (s : String) : String := String.ofList (s.toList.map Char.toLower)

/-- The ASCII letters in upper case, all else unchanged. -/
def upperAscii (s : String) : String := String.ofList (s.toList.map Char.toUpper)

/-- Equality up to the case of ASCII letters. -/
def sameAscii (a b : String) : Bool := lowerAscii a = lowerAscii b

end Text

end Pageflow
