/-
  Pageflow.Text.Case — letter case in every script.

  Upper case follows the full mapping, by which one character may become several; lower case is
  the simple mapping, read off the same table backwards.
-/
import Pageflow.Text.CaseTable

namespace Pageflow.Text

/-- Whether a code point belongs to a run. -/
def inRun (run : Nat × Nat × Nat × Int) (n : Nat) : Bool :=
  let (first, last, step, _) := run
  first ≤ n && n ≤ last && (n - first) % step = 0

/-- The code points of the upper case of a character beyond ASCII. -/
def upperCodes (n : Nat) : List Nat :=
  match upperExpansions.lookup n with
  | some codes => codes
  | none =>
    match upperRuns.find? (inRun · n) with
    | some (_, _, _, distance) => [(n + distance).toNat]
    | none => [n]

/-- The upper case of a character. -/
def upperChar (c : Char) : List Char :=
  if c.toNat < 128 then [c.toUpper] else (upperCodes c.toNat).map Char.ofNat

/-- A text in upper case. -/
def upper (s : String) : String := String.ofList (s.toList.flatMap upperChar)

/-- The member of a run whose upper case is `n`. -/
def lowerIn (n : Nat) (run : Nat × Nat × Nat × Int) : Option Nat :=
  let candidate := ((n : Int) - run.2.2.2).toNat
  if inRun run candidate && !lowerVariants.contains candidate then some candidate else none

/-- The code point of the lower case of a character beyond ASCII. -/
def lowerCode (n : Nat) : Nat :=
  match lowerExtras.lookup n with
  | some code => code
  | none => (upperRuns.findSome? (lowerIn n)).getD n

/-- The lower case of a character. -/
def lowerChar (c : Char) : Char :=
  if c.toNat < 128 then c.toLower else Char.ofNat (lowerCode c.toNat)

end Pageflow.Text
