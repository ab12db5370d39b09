/-
  Pageflow.Text.Class — character classes that are given by ranges.
-/
import Pageflow.Text.Blank
import Pageflow.Text.WordTable

namespace Pageflow.Text

/-- Whether a code point lies in one of the ranges. -/
def inRanges (ranges : List (Nat × Nat)) (n : Nat) : Bool :=
  ranges.any fun (low, high) => low ≤ n && n ≤ high

/-- A character of a word: a letter, mark or digit of any script, or a connector. -/
def isWordChar (c : Char) : Bool :=
  if c.toNat < 128 then c.isAlphanum || c = '_' else inRanges wordRanges c.toNat

end Pageflow.Text
