/-
  Pageflow.Proofs.Tokens — the texts of JSON pointers, and what they name.

  A pointer is made of tokens.  To put a slash before each of some names gives a pointer that reads
  back as these names if none of them has a slash or a tilde in it, and only then: a slash makes
  two tokens of a name, and a tilde begins an escape or spoils the pointer.

      pointerTokens? (a slash before every name) = some names  ↔  every name is plain

  In a JSON value as a program holds it, the name of a member and the number of an item are
  tokens that find the member and the item again.

  Main definitions: `Json.along`, `Json.pointerTokens?`, `Json.IsPlain` and `Json.isProper`.
  Main statements: `pointerTokens?_slashed_iff`, `resolve?_eq_along`,
  `tokenStep_member` and `tokenStep_item`.
-/
import Mathlib.Data.List.Basic
import Pageflow.Json.Pointer
import Pageflow.Proofs.Related

namespace Pageflow

/-! ## §1. Cutting a text -/

namespace Text

variable {sep : Char}

theorem splitAt_ne_nil (cs : List Char) : splitAt sep cs ≠ [] := by
  cases cs with
  | nil => simp [splitAt]
  | cons c cs =>
    rw [splitAt]
    split
    · simp
    · split <;> simp

theorem splitAt_cons_self (cs : List Char) : splitAt sep (sep :: cs) = [] :: splitAt sep cs := by
  cases h : splitAt sep cs with
  | nil => exact absurd h (splitAt_ne_nil cs)
  | cons piece more => simp [splitAt, h]

theorem splitAt_cons_of_ne {c : Char} (hc : c ≠ sep) (cs : List Char) :
    splitAt sep (c :: cs) = (splitAt sep cs).modifyHead (c :: ·) := by
  cases h : splitAt sep cs with
  | nil => exact absurd h (splitAt_ne_nil cs)
  | cons piece more => simp [splitAt, h, hc]

/-- A separator parts the pieces before it from those after it. -/
theorem splitAt_append (as bs : List Char) :
    splitAt sep (as ++ sep :: bs) = splitAt sep as ++ splitAt sep bs := by
  induction as with
  | nil => rw [List.nil_append, splitAt_cons_self]; rfl
  | cons c as ih =>
    by_cases hc : c = sep
    · rw [hc, List.cons_append, splitAt_cons_self, splitAt_cons_self, ih, List.cons_append]
    · rw [List.cons_append, splitAt_cons_of_ne hc, splitAt_cons_of_ne hc, ih]
      cases h : splitAt sep as with
      | nil => exact absurd h (splitAt_ne_nil as)
      | cons piece more => rfl

/-- There is one piece more than there are separators. -/
theorem length_splitAt (cs : List Char) : (splitAt sep cs).length = cs.count sep + 1 := by
  induction cs with
  | nil => rfl
  | cons c cs ih =>
    by_cases hc : c = sep
    · rw [hc, splitAt_cons_self, List.length_cons, ih, List.count_cons_self]
    · rw [splitAt_cons_of_ne hc, List.length_modifyHead, ih, List.count_cons_of_ne hc]

theorem splitAt_of_not_mem {cs : List Char} (h : sep ∉ cs) : splitAt sep cs = [cs] := by
  induction cs with
  | nil => rfl
  | cons c cs ih =>
    obtain ⟨hc, h⟩ := not_or.mp (mt List.mem_cons.mpr h)
    rw [splitAt_cons_of_ne (Ne.symm hc), ih h]
    rfl

end Text

namespace Json

/-! ## §2. Places -/

theorem tokenWalk_append (value : Json) (first second : List (List Char)) :
    value.tokenWalk (first ++ second)
      = (value.tokenWalk first).bind fun part => part.tokenWalk second := by
  induction first generalizing value with
  | nil => rfl
  | cons token rest ih =>
    simp only [List.cons_append, tokenWalk, Option.bind_assoc]
    congr 1
    funext part
    exact ih part

/-- The part of a value at a place: member names and item numbers from the root down. -/
def along (value : Json) (place : List String) : Option Json :=
  value.tokenWalk (place.map String.toList)

theorem along_append (value : Json) (first second : List String) :
    value.along (first ++ second) = (value.along first).bind fun part => part.along second := by
  rw [along, List.map_append, tokenWalk_append]
  rfl

/-! ## §3. Tokens -/

/-- Whether every tilde of a token begins an escape. -/
def isToken : List Char → Bool
  | '~' :: '1' :: rest => isToken rest
  | '~' :: '0' :: rest => isToken rest
  | '~' :: _ => false
  | _ :: rest => isToken rest
  | [] => true

/-- The tokens of a pointer, read strictly: a pointer is empty or starts with a slash, and a tilde
stands only in an escape. -/
def pointerTokens? (pointer : String) : Option (List String) :=
  match pointer.toList with
  | [] => some []
  | '/' :: cs =>
    let pieces := Text.splitAt '/' cs
    if pieces.all isToken then some (pieces.map fun piece => String.ofList (unescapeToken piece))
    else none
  | _ => none

/-- To follow a pointer is to follow its tokens. -/
theorem resolve?_eq_along {pointer : String} {names : List String}
    (h : pointerTokens? pointer = some names) (value : Json) :
    value.resolve? pointer = value.along names := by
  unfold pointerTokens? at h
  split at h
  next empty =>
    obtain rfl := Option.some.inj h
    simp only [resolve?, empty]
    rfl
  next cs slash =>
    simp only [Option.ite_none_right_eq_some, Option.some.injEq] at h
    simp only [resolve?, slash, ← h.2, along, List.map_map]
    exact congrArg value.tokenWalk (List.map_congr_left fun piece _ => String.toList_ofList.symm)
  next => contradiction

theorem length_unescapeToken_le (cs : List Char) : (unescapeToken cs).length ≤ cs.length := by
  fun_induction unescapeToken cs <;> simp only [List.length_cons, List.length_nil] <;> omega

theorem unescapeToken_of_not_mem {cs : List Char} (h : '~' ∉ cs) : unescapeToken cs = cs := by
  fun_induction unescapeToken cs <;> simp_all

theorem isToken_of_not_mem {cs : List Char} (h : '~' ∉ cs) : isToken cs = true := by
  fun_induction isToken cs <;> simp_all

theorem unescapeToken_cons {c : Char} (h : c ≠ '~') (rest : List Char) :
    unescapeToken (c :: rest) = c :: unescapeToken rest := by
  conv_lhs => unfold unescapeToken
  split <;> simp_all

/-- A token with a tilde in it does not stand for itself. -/
theorem not_mem_of_unescapeToken {cs : List Char} (token : isToken cs = true)
    (h : unescapeToken cs = cs) : '~' ∉ cs := by
  fun_induction isToken cs with
  | case1 rest ih => simp [unescapeToken] at h
  | case2 rest ih =>
    -- an escaped tilde leaves the token shorter
    have shorter := length_unescapeToken_le rest
    simp only [unescapeToken, List.cons.injEq, true_and] at h
    rw [h, List.length_cons] at shorter
    omega
  | case3 => contradiction
  | case4 c rest _ _ other ih =>
    have hc : c ≠ '~' := fun hc => other hc
    rw [unescapeToken_cons hc] at h
    exact List.not_mem_cons_of_ne_of_not_mem (Ne.symm hc) (ih token (List.cons.inj h).2)
  | case5 => exact List.not_mem_nil

/-! ## §4. A slash before every name -/

/-- The name has no character with a meaning in pointers. -/
def IsPlain (name : String) : Prop := '/' ∉ name.toList ∧ '~' ∉ name.toList

instance (name : String) : Decidable (IsPlain name) := inferInstanceAs (Decidable (_ ∧ _))

/-- The names as a text, with a slash before each. -/
def slashed (names : List String) : String := String.join (names.map fun name => "/" ++ name)

theorem toList_slashed (names : List String) :
    (slashed names).toList = names.flatMap fun name => '/' :: name.toList := by
  rw [slashed, String.toList_join, List.flatMap_map]
  simp only [String.toList_append]
  rfl

/-- The pieces of names between their own slashes; a name without a slash is one piece. -/
def pieces (names : List String) : List (List Char) :=
  names.flatMap fun name => Text.splitAt '/' name.toList

theorem pieces_cons (name : String) (more : List String) :
    pieces (name :: more) = Text.splitAt '/' name.toList ++ pieces more := rfl

/-- Cutting at the slashes cuts every name at its own slashes. -/
theorem splitAt_slashed (name : String) (more : List String) :
    Text.splitAt '/' (name.toList ++ (slashed more).toList) = pieces (name :: more) := by
  induction more generalizing name with
  | nil => simp [toList_slashed, pieces]
  | cons next more ih =>
    rw [toList_slashed, List.flatMap_cons, ← toList_slashed, List.cons_append, Text.splitAt_append,
      ih, pieces_cons name]

/-- The tokens of the slashed text are the pieces of the names. -/
theorem pointerTokens?_slashed (names : List String) : pointerTokens? (slashed names)
    = if (pieces names).all isToken then
        some ((pieces names).map fun piece => String.ofList (unescapeToken piece))
      else none := by
  cases names with
  | nil => rfl
  | cons name more =>
    have cut := splitAt_slashed name more
    have slash : (slashed (name :: more)).toList
        = '/' :: (name.toList ++ (slashed more).toList) := by
      rw [toList_slashed, List.flatMap_cons, ← toList_slashed, List.cons_append]
    simp only [pointerTokens?, slash, cut]

theorem pieces_eq_map {names : List String} (h : ∀ name ∈ names, '/' ∉ name.toList) :
    pieces names = names.map String.toList := by
  induction names with
  | nil => rfl
  | cons name more ih =>
    rw [pieces_cons, Text.splitAt_of_not_mem (h name List.mem_cons_self),
      ih fun n mem => h n (List.mem_cons_of_mem _ mem)]
    rfl

theorem length_le_length_pieces (names : List String) : names.length ≤ (pieces names).length := by
  induction names with
  | nil => exact Nat.le_refl 0
  | cons name more ih =>
    rw [pieces_cons, List.length_append, Text.length_splitAt, List.length_cons]
    omega

/-- With as many pieces as names no name has a slash. -/
theorem not_mem_of_length_pieces {names : List String}
    (h : (pieces names).length ≤ names.length) : ∀ name ∈ names, '/' ∉ name.toList := by
  induction names with
  | nil => exact fun _ mem => absurd mem List.not_mem_nil
  | cons name more ih =>
    rw [pieces_cons, List.length_append, Text.length_splitAt, List.length_cons] at h
    have rest := length_le_length_pieces more
    intro n mem
    rcases List.mem_cons.mp mem with rfl | mem
    · exact List.count_eq_zero.mp (by omega)
    · exact ih (by omega) n mem

/-- **Names read back from the slashed text if and only if all of them are plain.** -/
theorem pointerTokens?_slashed_iff (names : List String) :
    pointerTokens? (slashed names) = some names ↔ ∀ name ∈ names, IsPlain name := by
  rw [pointerTokens?_slashed]
  simp only [Option.ite_none_right_eq_some, Option.some.injEq, List.all_eq_true]
  constructor
  · rintro ⟨tokens, same⟩
    -- as many tokens as names: no name was cut
    have count := congrArg List.length same
    rw [List.length_map] at count
    have slashless := not_mem_of_length_pieces (Nat.le_of_eq count)
    -- so each name is read back from itself, and has nothing to unescape
    rw [pieces_eq_map slashless] at tokens same
    rw [List.map_map] at same
    have itself : ∀ name ∈ names, String.ofList (unescapeToken name.toList) = name :=
      List.map_inj_left.mp (same.trans (List.map_id names).symm)
    intro name mem
    have token := tokens _ (List.mem_map_of_mem mem)
    refine ⟨slashless name mem, not_mem_of_unescapeToken token ?_⟩
    rw [← String.toList_ofList (l := unescapeToken _), itself name mem]
  · intro plain
    rw [pieces_eq_map fun name mem => (plain name mem).1, List.map_map]
    constructor
    · intro piece mem
      obtain ⟨name, named, rfl⟩ := List.mem_map.mp mem
      exact isToken_of_not_mem (plain name named).2
    · refine (List.map_inj_left.mpr fun name mem => ?_).trans (List.map_id names)
      rw [Function.comp, unescapeToken_of_not_mem (plain name mem).2, String.ofList_toList]
      rfl

/-! ## §5. Numbers of items -/

theorem digitsValue?_eq_ofDigitChars {cs : List Char} (digits : ∀ c ∈ cs, c.isDigit = true)
    (acc : Nat) : digitsValue? acc cs = some (Nat.ofDigitChars 10 cs acc) := by
  induction cs generalizing acc with
  | nil => rfl
  | cons c cs ih =>
    rw [digitsValue?, if_pos (digits c List.mem_cons_self), Nat.ofDigitChars_cons, Nat.mul_comm 10]
    exact ih (fun d mem => digits d (List.mem_cons_of_mem _ mem)) _

/-- Only the number zero is written with a leading zero. -/
theorem eq_zero_of_toDigits {n : Nat} {rest : List Char} (h : Nat.toDigits 10 n = '0' :: rest) :
    n = 0 := by
  induction n using Nat.strongRecOn generalizing rest with
  | ind n ih =>
    by_cases small : n < 10
    · rw [Nat.toDigits_of_lt_base small] at h
      have zero : ∀ d < 10, Nat.digitChar d = '0' → d = 0 := by decide
      exact zero n small (List.cons.inj h).1
    · rw [Nat.toDigits_of_base_le (by omega) (by omega)] at h
      cases upper : Nat.toDigits 10 (n / 10) with
      | nil => exact absurd upper Nat.toDigits_ne_nil
      | cons c cs =>
        rw [upper, List.cons_append] at h
        rw [(List.cons.inj h).1] at upper
        have := ih (n / 10) (by omega) upper
        omega

theorem isDigit_of_mem_toString {i : Nat} {c : Char} (h : c ∈ (toString i).toList) :
    c.isDigit = true := by
  rw [Nat.toString_eq_ofList_toDigits, String.toList_ofList] at h
  exact Nat.isDigit_of_mem_toDigits (by omega) (by omega) h

theorem indexOf?_toString {i : Nat} (h : i ≤ indexLimit) : indexOf? (toString i) = some i := by
  have digits : ∀ c ∈ (toString i).toList, c.isDigit = true := fun _ => isDigit_of_mem_toString
  have value : digitsValue? 0 (toString i).toList = some i := by
    rw [digitsValue?_eq_ofDigitChars digits, Nat.toString_eq_ofList_toDigits, String.toList_ofList,
      Nat.ofDigitChars_toDigits (by omega) (by omega)]
  have signless : ∀ cs, (toString i).toList ≠ '+' :: cs := by
    intro cs signed
    exact absurd (digits '+' (by rw [signed]; exact List.mem_cons_self)) (by decide)
  have written : (toString i).toList ≠ [] := by
    rw [Nat.toString_eq_ofList_toDigits, String.toList_ofList]
    exact Nat.toDigits_ne_nil
  unfold indexOf?
  split
  next cs signed => exact absurd signed (signless cs)
  next =>
    rw [if_neg (mt List.isEmpty_iff.mp written), value]
    exact if_pos h

/-- The number of an item is a token that names it. -/
theorem tokenIndex?_toString {i : Nat} (h : i ≤ indexLimit) :
    tokenIndex? (toString i).toList = some i := by
  unfold tokenIndex?
  split
  next zero =>
    rw [Nat.toString_eq_ofList_toDigits, String.toList_ofList] at zero
    rw [eq_zero_of_toDigits zero]
  next rest other zero =>
    rw [Nat.toString_eq_ofList_toDigits, String.toList_ofList] at zero
    obtain rfl := eq_zero_of_toDigits zero
    exact absurd (List.cons.inj zero).2.symm other
  next signed =>
    have digit : '+'.isDigit = true :=
      isDigit_of_mem_toString (by rw [signed]; exact List.mem_cons_self)
    contradiction
  next => rw [String.ofList_toList, indexOf?_toString h]

/-! ## §6. Parts of a value -/

mutual

/-- Whether the value is one that a program can hold: the members of an object have different
names, and the items of an array can be counted in 64 bits. -/
def isProper : Json → Bool
  | .array items => items.length ≤ indexLimit && areProperItems items
  | .object members => (members.map Prod.fst).Nodup && areProperMembers members
  | _ => true

/-- All items are proper. -/
def areProperItems : List Json → Bool
  | [] => true
  | v :: rest => isProper v && areProperItems rest

/-- All members are proper. -/
def areProperMembers : List (String × Json) → Bool
  | [] => true
  | (_, v) :: rest => isProper v && areProperMembers rest

end

theorem areProperItems_iff {items : List Json} :
    areProperItems items = true ↔ ∀ v ∈ items, v.isProper = true := by
  induction items with
  | nil => simp [areProperItems]
  | cons v rest ih => simp [areProperItems, ih]

theorem areProperMembers_iff {members : List (String × Json)} :
    areProperMembers members = true ↔ ∀ e ∈ members, e.2.isProper = true := by
  induction members with
  | nil => simp [areProperMembers]
  | cons e rest ih => simp [areProperMembers, ih]

theorem isProper_object {members : Dict Json} : (Json.object members).isProper = true
    ↔ members.Keyed ∧ ∀ e ∈ members, e.2.isProper = true := by
  rw [isProper, Bool.and_eq_true, decide_eq_true_iff, areProperMembers_iff]
  rfl

theorem isProper_array {items : List Json} : (Json.array items).isProper = true
    ↔ items.length ≤ indexLimit ∧ ∀ v ∈ items, v.isProper = true := by
  rw [isProper, Bool.and_eq_true, decide_eq_true_iff, areProperItems_iff]

/-- A part of a proper value is proper. -/
theorem isProper_of_tokenStep {value part : Json} {token : List Char}
    (proper : value.isProper = true) (h : value.tokenStep token = some part) :
    part.isProper = true := by
  cases value with
  | object members =>
    exact (isProper_object.mp proper).2 _ (Dict.mem_of_get? h)
  | array items =>
    obtain ⟨i, _, at_i⟩ := Option.bind_eq_some_iff.mp h
    exact (isProper_array.mp proper).2 _ (List.mem_of_getElem? at_i)
  | null | bool | number | string => contradiction

theorem isProper_of_tokenWalk {value part : Json} {tokens : List (List Char)}
    (proper : value.isProper = true) (h : value.tokenWalk tokens = some part) :
    part.isProper = true := by
  induction tokens generalizing value with
  | nil => rwa [← Option.some.inj h]
  | cons token rest ih =>
    obtain ⟨next, step, h⟩ := Option.bind_eq_some_iff.mp h
    exact ih (isProper_of_tokenStep proper step) h

/-- The name of a member is a token that names it. -/
theorem tokenStep_member {members : Dict Json} (proper : (Json.object members).isProper = true)
    {name : String} {v : Json} (h : (name, v) ∈ members) :
    (Json.object members).tokenStep name.toList = some v := by
  rw [tokenStep, String.ofList_toList]
  exact (isProper_object.mp proper).1.get?_of_mem h

/-- The number of an item is a token that names it. -/
theorem tokenStep_item {items : List Json} (proper : (Json.array items).isProper = true)
    {i : Nat} {v : Json} (h : items[i]? = some v) :
    (Json.array items).tokenStep (toString i).toList = some v := by
  have bound : i < items.length := (List.getElem?_eq_some_iff.mp h).1
  have counted := (isProper_array.mp proper).1
  rw [tokenStep, tokenIndex?_toString (by omega)]
  exact h

end Json

end Pageflow
