/-
  Pageflow.Proofs.Templates — a path template is filled in all at once.

  The variables of a template go in one after the other, each over the whole text that stands
  there by then, so a later one could rewrite what an earlier one wrote.  It cannot: what goes
  in is percent-encoded and has no brace, and a placeholder is found by its braces.

  The invariant is the shape of the template.  It is read as a list of pieces, literal text and
  placeholders, and to fill in one variable is to fill in each piece on its own
  (`fill_shape`); so the whole walk over the variables is one pass over the pieces.

  Main definitions: `Percent.IsUnreserved`, `Piece`, `shape` and `Piece.filled`.
  Main statement: `templates_are_substituted`.
-/
import Mathlib.Data.List.Basic
import Pageflow.Proofs.Related
import Pageflow.Url.Template

namespace Pageflow

/-! ## §1. What percent-encoding can write. -/

namespace Percent

/-- The characters that stand for themselves in every part of an address. -/
def IsUnreserved (c : Char) : Prop := c.isAlphanum ∨ c ∈ ['-', '.', '_', '~']

instance (c : Char) : Decidable (IsUnreserved c) := inferInstanceAs (Decidable (_ ∨ _))

/-- A written character: unreserved, or the mark of an escape. -/
def IsWritten (c : Char) : Prop := IsUnreserved c ∨ c = '%'

theorem isUnreserved_digitByte {n : Nat} (h : n < 16) : isUnreserved (digitByte n) = true := by
  have all : ∀ n : Fin 16, isUnreserved (digitByte n) = true := by decide
  exact all ⟨n, h⟩

/-- An unreserved byte is the code of an unreserved character. -/
theorem isUnreserved_charOf {b : UInt8} (h : isUnreserved b = true) :
    b.toNat < 128 ∧ IsUnreserved (charOf b) := by
  have all : ∀ n : Fin 256, isUnreserved (UInt8.ofNat n) = true →
      (UInt8.ofNat n).toNat < 128 ∧ IsUnreserved (charOf (UInt8.ofNat n)) := by decide +kernel
  have := all ⟨b.toNat, b.toNat_lt⟩
  rw [UInt8.ofNat_toNat] at this
  exact this h

/-- Whatever the byte, it is written in ASCII, with `%` and unreserved characters only. -/
theorem of_mem_encodeByte {b c : UInt8} (h : c ∈ encodeByte isUnreserved b) :
    c.toNat < 128 ∧ IsWritten (charOf c) := by
  have hb := b.toNat_lt
  have unreserved {c : UInt8} (h : isUnreserved c = true) :
      c.toNat < 128 ∧ IsWritten (charOf c) :=
    (isUnreserved_charOf h).imp id .inl
  unfold encodeByte at h
  split at h
  next keeps =>
    obtain rfl := List.mem_singleton.mp h
    exact unreserved keeps
  next =>
    simp only [List.mem_cons, List.not_mem_nil, or_false] at h
    obtain rfl | rfl | rfl := h
    · exact ⟨by decide, .inr rfl⟩
    · exact unreserved (isUnreserved_digitByte (by omega))
    · exact unreserved (isUnreserved_digitByte (by omega))

theorem of_mem_encodeBytes {bytes : Bytes} {c : UInt8} (h : c ∈ encodeBytes isUnreserved bytes) :
    c.toNat < 128 ∧ IsWritten (charOf c) := by
  obtain ⟨b, -, hc⟩ := List.mem_flatMap.mp h
  exact of_mem_encodeByte hc

/-- The bytes of a text of ASCII characters are their codes. -/
theorem encode_charOf {bytes : Bytes} (ascii : ∀ b ∈ bytes, b.toNat < 128) :
    Utf8.encode (String.ofList (bytes.map charOf)) = bytes := by
  have single (b : UInt8) (h : b.toNat < 128) : String.utf8EncodeChar (charOf b) = [b] := by
    have valid : (Char.ofNat b.toNat).toNat = b.toNat := by
      rw [Char.toNat, Char.ofNat, dif_pos (.inl (by omega))]
      rfl
    have code : (charOf b).val.toNat = b.toNat := valid
    unfold String.utf8EncodeChar
    simp only [code, if_pos (show b.toNat ≤ 127 by omega), UInt8.ofNat_toNat]
  have each : (bytes.map charOf).flatMap String.utf8EncodeChar = bytes := by
    induction bytes with
    | nil => rfl
    | cons b rest ih =>
      rw [List.forall_mem_cons] at ascii
      rw [List.map_cons, List.flatMap_cons, single b ascii.1, ih ascii.2, List.singleton_append]
  rw [Utf8.encode, Utf8.toList_eq_data, String.toByteArray_ofList, List.utf8Encode,
    List.toList_data_toByteArray, each]

end Percent

namespace Url

open Percent (IsUnreserved IsWritten)

theorem written_of_mem_pathText {value : Json} {c : Char} (h : c ∈ (pathText value).toList) :
    IsWritten c := by
  rw [pathText, Percent.encode, String.toList_ofList] at h
  obtain ⟨b, hb, rfl⟩ := List.mem_map.mp h
  exact (Percent.of_mem_encodeBytes hb).2

/-- What is inserted for a value can be read back as the text of the value. -/
theorem pathText_reads_back (value : Json) :
    Utf8.decode? (Percent.decodeBytes (Utf8.encode (pathText value))) = some value.toText := by
  rw [pathText, Percent.encode,
    Percent.encode_charOf fun _ h => (Percent.of_mem_encodeBytes h).1,
    Percent.decode_encode (by decide), Utf8.decode?_encode]

/-! ## §2. Replacing in a text. -/

/-- Characters that are skipped are dropped. -/
theorem replaceFrom_skip (pattern value : List Char) (skip : Nat) (cs : List Char) :
    Text.replaceFrom pattern value skip cs = Text.replaceFrom pattern value 0 (cs.drop skip) := by
  induction skip generalizing cs with
  | zero => rfl
  | succ skip ih =>
    cases cs with
    | nil => rfl
    | cons c cs => rw [Text.replaceFrom, ih, List.drop_succ_cons]

/-- Where the pattern does not begin, the character stays. -/
theorem replace_cons {pattern value : List Char} {c : Char} {cs : List Char}
    (h : ¬pattern <+: c :: cs) :
    Text.replace pattern value (c :: cs) = c :: Text.replace pattern value cs := by
  rw [Text.replace, Text.replaceFrom, if_neg (h ∘ List.isPrefixOf_iff_prefix.mp), Text.replace]

/-- Where the pattern begins, it is replaced. -/
theorem replace_leading (p : Char) (ps value rest : List Char) :
    Text.replace (p :: ps) value (p :: ps ++ rest)
      = value ++ Text.replace (p :: ps) value rest := by
  have found : (p :: ps).isPrefixOf (p :: (ps ++ rest)) = true :=
    List.isPrefixOf_iff_prefix.mpr (List.prefix_append (p :: ps) rest)
  rw [List.cons_append, Text.replace, Text.replaceFrom, if_pos found, replaceFrom_skip,
    List.length_cons, Nat.add_sub_cancel, List.drop_left, Text.replace]

/-- Nothing is found where there is no opening brace. -/
theorem replace_of_notMem {name : String} {value text : List Char} (noBrace : '{' ∉ text)
    (rest : List Char) :
    Text.replace (placeholder name) value (text ++ rest)
      = text ++ Text.replace (placeholder name) value rest := by
  induction text with
  | nil => rfl
  | cons c text ih =>
    rw [List.mem_cons, not_or] at noBrace
    have fails : ¬placeholder name <+: c :: (text ++ rest) := fun h =>
      noBrace.1 (List.cons_prefix_cons.mp h).1
    rw [List.cons_append, replace_cons fails, ih noBrace.2, List.cons_append]

/-- The text has neither brace. -/
def BraceFree (text : List Char) : Prop := '{' ∉ text ∧ '}' ∉ text

instance (text : List Char) : Decidable (BraceFree text) := inferInstanceAs (Decidable (_ ∧ _))

theorem braceFree_pathText (value : Json) : BraceFree (pathText value).toList := by
  constructor <;>
  · intro h
    have := written_of_mem_pathText h
    revert this
    unfold IsWritten
    decide

/-- A placeholder is that of one variable only. -/
theorem eq_of_placeholder_leads {name other : String} {rest : List Char}
    (plain : BraceFree name.toList) (plain' : BraceFree other.toList)
    (h : placeholder name <+: placeholder other ++ rest) : name = other := by
  obtain ⟨tail, h⟩ := h
  simp only [placeholder, List.cons_append, List.append_assoc, List.nil_append,
    List.cons.injEq, true_and] at h
  have cut := congrArg (Text.cutAt? '}') h
  rw [Text.cutAt?_append plain.2, Text.cutAt?_append plain'.2] at cut
  exact String.toList_inj.mp (Prod.mk.inj (Option.some.inj cut)).1

/-- The placeholder of another variable stays. -/
theorem replace_other {name other : String} {value : List Char} (plain : BraceFree name.toList)
    (plain' : BraceFree other.toList) (hne : other ≠ name) (rest : List Char) :
    Text.replace (placeholder name) value (placeholder other ++ rest)
      = placeholder other ++ Text.replace (placeholder name) value rest := by
  have noBrace : '{' ∉ other.toList ++ ['}'] := by simp [plain'.1]
  have fails : ¬placeholder name <+: '{' :: (other.toList ++ ['}'] ++ rest) := fun h =>
    hne (eq_of_placeholder_leads plain plain' h).symm
  rw [placeholder.eq_def other, List.cons_append, replace_cons fails,
    replace_of_notMem noBrace, List.cons_append]

/-! ## §3. The pieces of a template. -/

/-- A piece of a template. -/
inductive Piece where
  /-- Text that stands for itself. -/
  | literal (text : List Char)
  /-- The place of a variable. -/
  | place (name : String)
  deriving DecidableEq, Repr

namespace Piece

/-- How the piece is written. -/
def chars : Piece → List Char
  | .literal text => text
  | .place name => placeholder name

/-- There are no braces but those around the variables. -/
def Plain : Piece → Prop
  | .literal text => BraceFree text
  | .place name => BraceFree name.toList

instance : (p : Piece) → Decidable p.Plain
  | .literal text => inferInstanceAs (Decidable (BraceFree text))
  | .place name => inferInstanceAs (Decidable (BraceFree name.toList))

/-- The piece once one variable is filled in. -/
def fill (name : String) (value : Json) : Piece → Piece
  | .literal text => .literal text
  | .place other => if other = name then .literal (pathText value).toList else .place other

/-- What is read for the piece when all variables have their values: the text of the value of
its variable, the piece itself if there is none. -/
def filled (fields : Dict Json) : Piece → List Char
  | .literal text => text
  | .place name =>
    match fields.get? name with
    | some value => (pathText value).toList
    | none => placeholder name

theorem Plain.fill {p : Piece} (plain : p.Plain) (name : String) (value : Json) :
    (p.fill name value).Plain := by
  cases p with
  | literal text => exact plain
  | place other =>
    rw [Piece.fill]
    split
    · exact braceFree_pathText value
    · exact plain

@[simp] theorem filled_nil : Piece.filled [] = Piece.chars := by
  funext p
  cases p <;> rfl

theorem filled_fill (p : Piece) (name : String) (value : Json) (fields : Dict Json) :
    (p.fill name value).filled fields = p.filled ((name, value) :: fields) := by
  cases p with
  | literal text => rfl
  | place other =>
    by_cases h : other = name
    · simp [fill, filled, h, Dict.get?_cons]
    · simp [fill, filled, h, Ne.symm h, Dict.get?_cons]

/-- Only the value of each variable counts. -/
theorem filled_congr {fields more : Dict Json} (h : ∀ name, fields.get? name = more.get? name)
    (p : Piece) : p.filled fields = p.filled more := by
  cases p with
  | literal text => rfl
  | place name => rw [filled, filled, h]

end Piece

/-- The template of these pieces. -/
def shape (pieces : List Piece) : List Char := pieces.flatMap Piece.chars

/-- **To fill in one variable is to fill it in piece by piece.** -/
theorem fill_shape {name : String} (named : BraceFree name.toList) (value : Json)
    {pieces : List Piece} (plain : ∀ p ∈ pieces, p.Plain) :
    fill (shape pieces) name value = shape (pieces.map (Piece.fill name value)) := by
  induction pieces with
  | nil => rfl
  | cons p pieces ih =>
    rw [List.forall_mem_cons] at plain
    have rest := ih plain.2
    unfold fill shape at rest ⊢
    rw [List.flatMap_cons, List.map_cons, List.flatMap_cons]
    cases p with
    | literal text => exact (replace_of_notMem plain.1.1 _).trans (congrArg _ rest)
    | place other =>
      by_cases h : other = name
      · subst h
        rw [Piece.fill, if_pos rfl]
        exact (replace_leading '{' _ _ _).trans (congrArg _ rest)
      · rw [Piece.fill, if_neg h]
        exact (replace_other named plain.1 h _).trans (congrArg _ rest)

/-- **All variables, one after the other, are filled in piece by piece.** -/
theorem expand_shape {fields : Dict Json} (named : ∀ name ∈ fields.keys, BraceFree name.toList)
    {pieces : List Piece} (plain : ∀ p ∈ pieces, p.Plain) :
    expand (String.ofList (shape pieces)) fields
      = String.ofList (pieces.flatMap (Piece.filled fields)) := by
  rw [expand, String.toList_ofList]
  congr 1
  induction fields generalizing pieces with
  | nil => simp only [List.foldl_nil, shape, Piece.filled_nil]
  | cons e fields ih =>
    obtain ⟨name, value⟩ := e
    rw [Dict.keys, List.map_cons, List.forall_mem_cons] at named
    have kept : ∀ p ∈ pieces.map (Piece.fill name value), p.Plain := by
      rw [List.forall_mem_map]
      exact fun p hp => (plain p hp).fill name value
    have first : fill (shape pieces) name value = _ := fill_shape named.1 value plain
    simp only [List.foldl_cons, first, ih named.2 kept, List.flatMap_map, Piece.filled_fill]

/-! ## §4. Nothing but written characters is added. -/

/-- A character that the new text does not have does not become more frequent. -/
theorem count_replaceFrom_le {pattern value : List Char} {c : Char} (fresh : c ∉ value)
    (skip : Nat) (cs : List Char) :
    (Text.replaceFrom pattern value skip cs).count c ≤ cs.count c := by
  fun_induction Text.replaceFrom pattern value skip cs with
  | case1 => exact Nat.le_refl _
  | case2 skip d cs ih => exact Nat.le_trans ih List.count_le_count_cons
  | case3 d cs found ih =>
    rw [List.count_append, List.count_eq_zero.mpr fresh, Nat.zero_add]
    exact Nat.le_trans ih List.count_le_count_cons
  | case4 d cs found ih =>
    rw [List.count_cons, List.count_cons]
    omega

theorem count_expand_le {c : Char} (fresh : ¬IsWritten c) (template : String)
    (fields : Dict Json) : (expand template fields).toList.count c ≤ template.toList.count c := by
  rw [expand, String.toList_ofList]
  generalize template.toList = path
  induction fields generalizing path with
  | nil => exact Nat.le_refl _
  | cons e fields ih =>
    have absent : c ∉ (pathText e.2).toList := fun h => fresh (written_of_mem_pathText h)
    exact Nat.le_trans (ih (fill path e.1 e.2)) (count_replaceFrom_le absent 0 path)

/-! ## §5. Safe simultaneous substitution. -/

/-- **Path templates are substituted safely, and all at once.**  In a template of brace-free text
and of placeholders with brace-free names, whatever the variables (with brace-free names), each
placeholder that has a value is replaced by the percent-encoded text of that value and every other
one is left as it is, so that the order of the variables does not matter.  What is inserted can be
decoded to the text of the value.  And for every template and all variables, braces or not, the
only characters that can become more frequent are `%` and the unreserved ones. -/
theorem templates_are_substituted :
    (∀ (pieces : List Piece) (fields : Dict Json),
      (∀ p ∈ pieces, p.Plain) → (∀ name ∈ fields.keys, BraceFree name.toList) →
      expand (String.ofList (shape pieces)) fields
          = String.ofList (pieces.flatMap (Piece.filled fields))
        ∧ ∀ more : Dict Json, Dict.Keyed fields → more.Perm fields →
          expand (String.ofList (shape pieces)) more
            = expand (String.ofList (shape pieces)) fields)
    ∧ (∀ value : Json,
      Utf8.decode? (Percent.decodeBytes (Utf8.encode (pathText value))) = some value.toText)
    ∧ ∀ (template : String) (fields : Dict Json) (c : Char), ¬IsUnreserved c → c ≠ '%' →
      (expand template fields).toList.count c ≤ template.toList.count c := by
  refine ⟨fun pieces fields plain named => ⟨expand_shape named plain, ?order⟩,
    pathText_reads_back, fun template fields c reserved hc => ?count⟩
  case order =>
    intro more keyed perm
    have named' : ∀ name ∈ more.keys, BraceFree name.toList := fun name h =>
      named name ((perm.map Prod.fst).mem_iff.mp h)
    rw [expand_shape named plain, expand_shape named' plain]
    congr 2
    funext p
    exact (Piece.filled_congr (keyed.get?_of_perm perm) p).symm
  case count => exact count_expand_le (not_or.mpr ⟨reserved, hc⟩) template fields

/-- A path with two variables that are set and one that is not. -/
def teamPath : List Piece :=
  [.literal "/teams/".toList, .place "team", .literal "/pages/".toList, .place "page",
    .literal "/".toList, .place "missing"]

/-- The text of the one variable looks like the placeholder of the other. -/
def teamFields : Dict Json := [("team", .string "\x7bpage\x7d /"), ("page", .integer 2)]

/-- In whatever order its two variables come, the path has the encoded text of each. -/
theorem teamPath_expanded :
    (∀ p ∈ teamPath, p.Plain) ∧ (∀ name ∈ teamFields.keys, BraceFree name.toList)
    ∧ Dict.Keyed teamFields
    ∧ expand (String.ofList (shape teamPath)) teamFields.reverse
      = "/teams/%7Bpage%7D%20%2F/pages/2/\x7bmissing\x7d" := by
  have plain : ∀ p ∈ teamPath, p.Plain := by decide
  have named : ∀ name ∈ teamFields.keys, BraceFree name.toList := by decide
  have keyed : Dict.Keyed teamFields := by
    rw [Dict.Keyed]
    decide
  obtain ⟨result, order⟩ := templates_are_substituted.1 teamPath teamFields plain named
  refine ⟨plain, named, keyed, ?_⟩
  rw [order _ keyed (List.reverse_perm _), result]
  decide +kernel

end Url

end Pageflow
