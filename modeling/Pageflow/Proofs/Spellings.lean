/-
  Pageflow.Proofs.Spellings — paths into JSON values, and the ways to write them.

  A path is a list of segments.  Each of them may be written after a dot or between brackets,
  whatever the others are, and it makes no difference:

      .grid.1.0   .grid[1].0   .grid[1][0]   [grid][1][0]

  lead to the same part of a value, and that is the part that is found by going from value to part,
  segment by segment.  A dot between two paths, however they are written, well or not, puts the
  second one behind the first.

  Main definitions: `Spelled`, `written`, `Numbers`, `Leads` and `Stops`.
  Main statement: `selection_is_a_walk`.
-/
import Mathlib.Data.Nat.Digits.Defs
import Pageflow.Json.Selection
import Pageflow.Proofs.Tokens

namespace Pageflow

/-- Characters without a separator belong to the first piece. -/
theorem Text.splitAt_append_of_not_mem {sep : Char} {front cs piece : List Char}
    {more : List (List Char)} (free : sep ∉ front) (h : splitAt sep cs = piece :: more) :
    splitAt sep (front ++ cs) = (front ++ piece) :: more := by
  induction front with
  | nil => exact h
  | cons c front ih =>
    rw [List.mem_cons, not_or] at free
    rw [List.cons_append, splitAt_cons_of_ne (Ne.symm free.1), ih free.2]
    rfl

namespace Json

/-! ## §1. The segments of a path. -/

theorem segment?_of_ne_nil {cs : List Char} (h : cs ≠ []) : segment? cs = [String.ofList cs] := by
  rw [segment?, if_neg (mt List.isEmpty_iff.mp h)]

/-- Without a bracket a piece is one segment, if it is not empty. -/
theorem pieceSegments_of_not_mem {piece : List Char} (h : '[' ∉ piece) :
    pieceSegments piece = segment? piece := by
  have uncut := Text.cutAt?_eq_none.mpr h
  rw [pieceSegments]
  split
  next => rfl
  next cut => rw [uncut] at cut; contradiction

/-- A closed bracket is a segment between what stands before it and what stands behind it. -/
theorem pieceSegments_bracketed {head inside : List Char} (unopened : '[' ∉ head)
    (unclosed : ']' ∉ inside) (rest : List Char) :
    pieceSegments (head ++ '[' :: (inside ++ ']' :: rest))
      = segment? head ++ String.ofList inside :: pieceSegments rest := by
  have opens := Text.cutAt?_append unopened (inside ++ ']' :: rest)
  have closes := Text.cutAt?_append unclosed rest
  rw [pieceSegments]
  split
  next cut => rw [opens] at cut; contradiction
  next cut =>
    obtain ⟨rfl, rfl⟩ := Prod.mk.inj (Option.some.inj (opens.symm.trans cut))
    split
    next cut => rw [closes] at cut; contradiction
    next cut =>
      obtain ⟨rfl, rfl⟩ := Prod.mk.inj (Option.some.inj (closes.symm.trans cut))
      rfl

/-- **A dot between two paths parts their segments**, whatever the paths are. -/
theorem segments_append (p q : String) :
    segments (p ++ "." ++ q) = segments p ++ segments q := by
  have chars : (p ++ "." ++ q).toList = p.toList ++ '.' :: q.toList := by
    rw [String.toList_append, String.toList_append, List.append_assoc]
    rfl
  rw [segments, chars, Text.splitAt_append, List.flatMap_append, segments, segments]

/-! ## §2. Ways to write a path. -/

/-- A segment, and how it is written. -/
inductive Spelled where
  | dotted (segment : String)
  | bracketed (segment : String)
  deriving DecidableEq, Repr

namespace Spelled

def segment : Spelled → String
  | .dotted segment | .bracketed segment => segment

def chars : Spelled → List Char
  | .dotted segment => '.' :: segment.toList
  | .bracketed segment => '[' :: (segment.toList ++ [']'])

/-- The segment can be told from what stands around it. -/
def Plain (s : Spelled) : Prop :=
  s.segment.toList ≠ [] ∧ '.' ∉ s.segment.toList ∧ '[' ∉ s.segment.toList ∧ ']' ∉ s.segment.toList

instance (s : Spelled) : Decidable s.Plain := inferInstanceAs (Decidable (_ ∧ _))

end Spelled

/-- The path that is written so. -/
def written (spelled : List Spelled) : String := String.ofList (spelled.flatMap Spelled.chars)

/-- **How a segment is written makes no difference.**  By induction on the path; what has been read
of a piece when the next segment begins is `head`, which that segment ends. -/
theorem flatMap_pieceSegments {spelled : List Spelled} (plain : ∀ s ∈ spelled, s.Plain) :
    ∀ {head : List Char}, '.' ∉ head → '[' ∉ head →
      (Text.splitAt '.' (head ++ spelled.flatMap Spelled.chars)).flatMap pieceSegments
        = segment? head ++ spelled.map Spelled.segment := by
  induction spelled with
  | nil =>
    intro head dotFree unopened
    rw [List.flatMap_nil, List.append_nil, Text.splitAt_of_not_mem dotFree,
      List.flatMap_singleton, pieceSegments_of_not_mem unopened, List.map_nil, List.append_nil]
  | cons s rest ih =>
    intro head dotFree unopened
    rw [List.forall_mem_cons] at plain
    obtain ⟨⟨nonempty, noDot, noOpening, noClosing⟩, plain⟩ := plain
    rw [List.flatMap_cons, List.map_cons]
    cases s with
    | dotted segment =>
      have own := ih plain noDot noOpening
      rw [segment?_of_ne_nil nonempty, String.ofList_toList] at own
      rw [Spelled.chars, List.cons_append, Text.splitAt_append, List.flatMap_append,
        Text.splitAt_of_not_mem dotFree, List.flatMap_singleton,
        pieceSegments_of_not_mem unopened]
      exact congrArg _ own
    | bracketed segment =>
      change '.' ∉ segment.toList at noDot
      change ']' ∉ segment.toList at noClosing
      have pieced : Text.splitAt '.' (rest.flatMap Spelled.chars) ≠ [] := Text.splitAt_ne_nil _
      obtain ⟨piece, more, pieces⟩ := List.exists_cons_of_ne_nil pieced
      have own := ih plain (List.not_mem_nil : '.' ∉ ([] : List Char)) List.not_mem_nil
      rw [List.nil_append, pieces, List.flatMap_cons] at own
      have front : '.' ∉ head ++ '[' :: (segment.toList ++ [']']) := by
        simpa [dotFree] using noDot
      have shape : head ++ '[' :: (segment.toList ++ [']']) ++ piece
          = head ++ '[' :: (segment.toList ++ ']' :: piece) := by simp
      rw [Spelled.chars, ← List.append_assoc, Text.splitAt_append_of_not_mem front pieces,
        List.flatMap_cons, shape, pieceSegments_bracketed unopened noClosing,
        String.ofList_toList, List.append_assoc, List.cons_append, own]
      rfl

/-- **The segments of a written path are those that were written.** -/
theorem segments_written {spelled : List Spelled} (plain : ∀ s ∈ spelled, s.Plain) :
    segments (written spelled) = spelled.map Spelled.segment := by
  rw [segments, written, String.toList_ofList]
  exact flatMap_pieceSegments plain (List.not_mem_nil : '.' ∉ ([] : List Char)) List.not_mem_nil

/-! ## §3. From a value to its parts. -/

/-- The number that digits spell. -/
def valueOf (digits : List Char) : Nat :=
  Nat.ofDigits 10 (digits.reverse.map fun c => c.toNat - '0'.toNat)

/-- The segment is the number in decimal digits, perhaps after a plus sign; numbers have 64
bits. -/
def Numbers (segment : String) (i : Nat) : Prop :=
  ∃ digits : List Char, digits ≠ [] ∧ (∀ c ∈ digits, c.isDigit)
    ∧ (segment.toList = digits ∨ segment.toList = '+' :: digits)
    ∧ i = valueOf digits ∧ i ≤ indexLimit

/-- From the value, segment by segment, to a part of it: through the members of objects and the
items of arrays. -/
inductive Leads : Json → List String → Json → Prop
  | here (value : Json) : Leads value [] value
  | member {members : Dict Json} {segment : String} {part target : Json} {rest : List String} :
      members.get? segment = some part → Leads part rest target →
      Leads (.object members) (segment :: rest) target
  | item {items : List Json} {segment : String} {i : Nat} {part target : Json}
      {rest : List String} :
      Numbers segment i → items[i]? = some part → Leads part rest target →
      Leads (.array items) (segment :: rest) target

/-- A segment leads nowhere: there is no such member; it is no number, or one that is out of
range; or the value has no parts. -/
inductive Stops : Json → String → Prop
  | missing {members : Dict Json} {segment : String} :
      members.get? segment = none → Stops (.object members) segment
  | outside {items : List Json} {segment : String} :
      (∀ i, Numbers segment i → items.length ≤ i) → Stops (.array items) segment
  | scalar {value : Json} {segment : String} :
      value.members? = none → value.items? = none → Stops value segment

theorem valueOf_cons (c : Char) (digits : List Char) :
    valueOf (c :: digits) = (c.toNat - '0'.toNat) * 10 ^ digits.length + valueOf digits := by
  rw [valueOf, List.reverse_cons, List.map_append, Nat.ofDigits_append, List.length_map,
    List.length_reverse, List.map_singleton, Nat.ofDigits_singleton, valueOf]
  ring

theorem digitsValue?_eq_some_iff {digits : List Char} :
    ∀ {acc n : Nat}, digitsValue? acc digits = some n
      ↔ (∀ c ∈ digits, c.isDigit) ∧ n = acc * 10 ^ digits.length + valueOf digits := by
  induction digits with
  | nil =>
    intro acc n
    rw [digitsValue?, Option.some_inj, List.length_nil, Nat.pow_zero, Nat.mul_one]
    exact ⟨fun h => ⟨fun _ hc => absurd hc List.not_mem_nil, h.symm⟩, fun h => h.2.symm⟩
  | cons c digits ih =>
    intro acc n
    rw [digitsValue?, List.forall_mem_cons]
    split
    next digit =>
      have value : (acc * 10 + (c.toNat - 48)) * 10 ^ digits.length + valueOf digits
          = acc * 10 ^ (c :: digits).length + valueOf (c :: digits) := by
        rw [valueOf_cons, List.length_cons]
        show (_ * 10 + (c.toNat - 48)) * _ + _ = _ + ((c.toNat - 48) * _ + _)
        ring
      rw [ih, value, and_iff_right digit]
    next digit => simp [digit]

/-- An index is read from a segment exactly if that is a number. -/
theorem indexOf?_eq_some_iff {segment : String} {i : Nat} :
    indexOf? segment = some i ↔ Numbers segment i := by
  have read (digits : List Char) : ((if digits.isEmpty then none
      else (digitsValue? 0 digits).bind fun n => if n ≤ indexLimit then some n else none) = some i)
      ↔ digits ≠ [] ∧ (∀ c ∈ digits, c.isDigit) ∧ i = valueOf digits ∧ i ≤ indexLimit := by
    have value (n : Nat) : digitsValue? 0 digits = some n
        ↔ (∀ c ∈ digits, c.isDigit) ∧ n = valueOf digits := by
      rw [digitsValue?_eq_some_iff, Nat.zero_mul, Nat.zero_add]
    rw [← List.isEmpty_eq_false_iff]
    cases digits.isEmpty with
    | true => simp
    | false => simp [Option.bind_eq_some_iff, value]; grind
  have signed : '+'.isDigit = false := rfl
  unfold indexOf? Numbers
  split
  next cs chars =>
    rw [read]
    constructor
    · rintro ⟨nonempty, digits, value⟩
      exact ⟨cs, nonempty, digits, .inr chars, value⟩
    · rintro ⟨digits, nonempty, all, spells | spells, value⟩
      · have := all '+' (by rw [← spells, chars]; exact List.mem_cons_self)
        rw [signed] at this
        contradiction
      · obtain rfl := (List.cons.inj (chars.symm.trans spells)).2
        exact ⟨nonempty, all, value⟩
  next unsigned =>
    rw [read]
    constructor
    · rintro ⟨nonempty, digits, value⟩
      exact ⟨_, nonempty, digits, .inl rfl, value⟩
    · rintro ⟨digits, nonempty, all, rfl | spells, value⟩
      · exact ⟨nonempty, all, value⟩
      · exact absurd spells (unsigned digits)

/-! ## §4. Walking. -/

theorem step_items (items : List Json) (segment : String) :
    (Json.array items).step segment = (indexOf? segment).bind fun i => items[i]? := rfl

/-- There is no step to be made exactly where the segment leads nowhere. -/
theorem step_eq_none_iff {value : Json} {segment : String} :
    value.step segment = none ↔ Stops value segment := by
  have items {items : List Json} : (Json.array items).step segment = none
      ↔ ∀ i, Numbers segment i → items.length ≤ i := by
    rw [step_items, Option.bind_eq_none_iff]
    exact forall_congr' fun i => by rw [indexOf?_eq_some_iff, List.getElem?_eq_none_iff]
  constructor
  · intro h
    cases value with
    | object members => exact .missing h
    | array values => exact .outside (items.mp h)
    | null | bool | number | string => exact .scalar rfl rfl
  · intro h
    cases h with
    | missing h => exact h
    | outside h => exact items.mpr h
    | scalar noMembers noItems =>
      cases value with
      | object | array => contradiction
      | null | bool | number | string => rfl

/-- **To walk is to be led.** -/
theorem walk_eq_some_iff {value target : Json} {segments : List String} :
    value.walk segments = some target ↔ Leads value segments target := by
  constructor
  · intro h
    induction segments generalizing value with
    | nil =>
      obtain rfl := Option.some.inj h
      exact .here value
    | cons segment rest ih =>
      obtain ⟨part, step, walk⟩ := Option.bind_eq_some_iff.mp h
      have led := ih walk
      cases value with
      | object members => exact .member step led
      | array items =>
        obtain ⟨i, number, item⟩ := Option.bind_eq_some_iff.mp step
        exact .item (indexOf?_eq_some_iff.mp number) item led
      | null | bool | number | string => contradiction
  · intro h
    induction h with
    | here value => rfl
    | @member members segment part target rest found _ ih =>
      rw [walk_cons, show (Json.object members).step segment = some part from found]
      exact ih
    | item number item _ ih =>
      rw [walk_cons, step_items, indexOf?_eq_some_iff.mpr number, Option.bind_some, item]
      exact ih

/-- **A walk fails at the first segment that leads nowhere.** -/
theorem walk_eq_none_iff {value : Json} {segments : List String} :
    value.walk segments = none ↔ ∃ before segment after part,
      segments = before ++ segment :: after ∧ Leads value before part ∧ Stops part segment := by
  constructor
  · intro h
    induction segments generalizing value with
    | nil => contradiction
    | cons segment rest ih =>
      cases step : value.step segment with
      | none => exact ⟨[], segment, rest, value, rfl, .here value, step_eq_none_iff.mp step⟩
      | some next =>
        rw [walk_cons, step] at h
        obtain ⟨before, last, after, part, rfl, led, stops⟩ := ih h
        refine ⟨segment :: before, last, after, part, rfl, walk_eq_some_iff.mp ?_, stops⟩
        rw [walk_cons, step]
        exact walk_eq_some_iff.mpr led
  · rintro ⟨before, segment, after, part, rfl, led, stops⟩
    rw [walk_append, walk_eq_some_iff.mpr led, Option.bind_some, walk_cons,
      step_eq_none_iff.mpr stops]
    rfl

/-- **Selection is a walk, however the path is written.**  A dot between two paths selects by the
second in what the first one selects.  And for segments without dots and brackets, whichever of them
are written after a dot and whichever between brackets, the part that is selected is the one that
they lead to, one after the other, through members and items; there is none exactly if one of them
is the first to lead nowhere. -/
theorem selection_is_a_walk :
    (∀ (value : Json) (p q : String),
      value.select (p ++ "." ++ q) = (value.select p).bind fun part => part.select q)
    ∧ ∀ spelled : List Spelled, (∀ s ∈ spelled, s.Plain) → ∀ value : Json,
      (∀ target, value.select (written spelled) = some target
        ↔ Leads value (spelled.map Spelled.segment) target)
      ∧ (value.select (written spelled) = none ↔ ∃ before segment after part,
        spelled.map Spelled.segment = before ++ segment :: after
          ∧ Leads value before part ∧ Stops part segment) := by
  constructor
  · intro value p q
    rw [select, segments_append, walk_append]
    rfl
  · intro spelled plain value
    rw [select, segments_written plain]
    exact ⟨fun target => walk_eq_some_iff, walk_eq_none_iff⟩

/-- Two users, the second one with two addresses. -/
def usersValue : Json :=
  .object [("users", .array [.object [("name", .string "Ada")],
    .object [("name", .string "Bea"), ("mails", .array [.string "b@x", .string "b@y"])]])]

/-- The path to one of the addresses of the second user. -/
def mailPath (mail : Spelled) : List Spelled :=
  [.dotted "users", .bracketed "1", .bracketed "mails", mail]

/-- There is a second address, and its number may have a sign and a zero before it; there is no
third one. -/
theorem selection_is_a_walk_users :
    written (mailPath (.dotted "+01")) = ".users[1][mails].+01"
    ∧ (∀ s ∈ mailPath (.dotted "+01"), s.Plain)
    ∧ Leads usersValue ["users", "1", "mails", "+01"] (.string "b@y")
    ∧ (∀ s ∈ mailPath (.bracketed "2"), s.Plain)
    ∧ usersValue.select (written (mailPath (.bracketed "2"))) = none := by
  have second : ∀ s ∈ mailPath (.dotted "+01"), s.Plain := by decide
  have third : ∀ s ∈ mailPath (.bracketed "2"), s.Plain := by decide
  have found : usersValue.select (written (mailPath (.dotted "+01"))) = some (.string "b@y") := by
    decide +kernel
  have mails : usersValue.walk ["users", "1", "mails"]
      = some (.array [.string "b@x", .string "b@y"]) := by decide +kernel
  have two : (Json.array [.string "b@x", .string "b@y"]).step "2" = none := by decide +kernel
  refine ⟨by decide +kernel, second, ((selection_is_a_walk.2 _ second usersValue).1 _).mp found,
    third, (selection_is_a_walk.2 _ third usersValue).2.mpr ?_⟩
  exact ⟨_, _, _, _, rfl, walk_eq_some_iff.mp mails, step_eq_none_iff.mp two⟩

end Json

end Pageflow
