/-
  Pageflow.Json.Selection — dotted paths into JSON values.

  A path is cut at its dots; empty pieces do not count.  Inside a piece a bracketed part is a
  segment of its own, so `name[3]` means the same as `name.3`.  A segment names a member of an
  object or the index of an item of an array; anything else has no parts.

  Main statements: `walk_append` (walking composes) and `walk_cons`.
-/
import Pageflow.Json.Value
import Pageflow.Text.Blank

namespace Pageflow.Json

/-! ## §1. Paths -/

theorem cutAt?_length {sep : Char} {cs before after : List Char}
    (h : Text.cutAt? sep cs = some (before, after)) : after.length < cs.length := by
  obtain ⟨rfl, _⟩ := Text.eq_of_cutAt? h
  simp only [List.length_append, List.length_cons]
  omega

/-- The text as a segment, unless it is empty. -/
def segment? (cs : List Char) : List String := if cs.isEmpty then [] else [String.ofList cs]

/-- The segments of a piece without dots.  A bracket that is never closed belongs, with what
stands before it, to the last segment. -/
def pieceSegments (piece : List Char) : List String :=
  match _h : Text.cutAt? '[' piece with
  | none => segment? piece
  | some (head, afterOpen) =>
    match _h' : Text.cutAt? ']' afterOpen with
    | none => segment? head ++ segment? piece
    | some (inside, rest) => segment? head ++ String.ofList inside :: pieceSegments rest
termination_by piece.length
decreasing_by
  have := cutAt?_length _h
  have := cutAt?_length _h'
  omega

/-- The segments of a path. -/
def segments (path : String) : List String :=
  (Text.splitAt '.' path.toList).flatMap pieceSegments

/-! ## §2. Walking -/

/-- The greatest index that can be written. -/
def indexLimit : Nat := Nat.pow 2 64 - 1

/-- The value of a run of decimal digits. -/
def digitsValue? : Nat → List Char → Option Nat
  | acc, [] => some acc
  | acc, c :: cs => if c.isDigit then digitsValue? (acc * 10 + (c.toNat - 48)) cs else none

/-- An index: decimal digits of a 64-bit number, perhaps after a plus sign. -/
def indexOf? (segment : String) : Option Nat :=
  let digits :=
    match segment.toList with
    | '+' :: cs => cs
    | cs => cs
  if digits.isEmpty then none
  else (digitsValue? 0 digits).bind fun n => if n ≤ indexLimit then some n else none

/-- The part of a value that one segment names. -/
def step (value : Json) (segment : String) : Option Json :=
  match value with
  | .object members => Dict.get? members segment
  | .array items => (indexOf? segment).bind fun i => items[i]?
  | _ => none

/-- The part of a value that the segments name, one after the other. -/
def walk (value : Json) : List String → Option Json
  | [] => some value
  | segment :: rest => (value.step segment).bind fun part => part.walk rest

/-- The part of a value at a dotted path. -/
def select (value : Json) (path : String) : Option Json := value.walk (segments path)

/-! ## §3. Laws -/

@[simp] theorem walk_nil (value : Json) : value.walk [] = some value := rfl

theorem walk_cons (value : Json) (segment : String) (rest : List String) :
    value.walk (segment :: rest) = (value.step segment).bind fun part => part.walk rest := rfl

/-- Walking along two lists of segments is walking along the second after the first. -/
theorem walk_append (value : Json) (first second : List String) :
    value.walk (first ++ second) = (value.walk first).bind fun part => part.walk second := by
  induction first generalizing value with
  | nil => rfl
  | cons segment rest ih =>
    simp only [List.cons_append, walk_cons, Option.bind_assoc]
    congr 1
    funext part
    exact ih part

end Pageflow.Json
