/-
  Pageflow.Url.Punycode — labels of host names in ASCII letters.

  The characters beyond ASCII are inserted in the order of their code points.  Each insertion is
  the distance from the one before, in digits whose weights adapt to the distances seen so far.
-/
import Pageflow.Text.Blank

namespace Pageflow.Url.Punycode

/-! ## §1. Digits and weights -/

/-- The number of digits. -/
def base : Nat := 36

/-- The character of a digit. -/
def digitChar (d : Nat) : Char := if d < 26 then Char.ofNat (97 + d) else Char.ofNat (22 + d)

/-- The value of a digit, letters in either case. -/
def digitValue? (c : Char) : Option Nat :=
  let n := c.toNat
  if 97 ≤ n ∧ n ≤ 122 then some (n - 97)
  else if 65 ≤ n ∧ n ≤ 90 then some (n - 65)
  else if 48 ≤ n ∧ n ≤ 57 then some (n - 22)
  else none

theorem digitValue?_digitChar {d : Nat} (h : d < 36) : digitValue? (digitChar d) = some d := by
  have : ∀ d : Fin 36, digitValue? (digitChar d) = some d.val := by decide
  exact this ⟨d, h⟩

/-- The threshold of the digit at `place`. -/
def threshold (place bias : Nat) : Nat :=
  if place ≤ bias then 1 else if bias + 26 ≤ place then 26 else place - bias

theorem threshold_pos (place bias : Nat) : 1 ≤ threshold place bias := by
  unfold threshold
  split
  next => omega
  next => split <;> omega

/-- Divides a distance down and counts the places. -/
def reduce (distance place : Nat) : Nat × Nat :=
  if 455 < distance then reduce (distance / 35) (place + base) else (distance, place)
termination_by distance
decreasing_by exact Nat.div_lt_self (by omega) (by omega)

/-- The bias after an insertion into `count` characters. -/
def adapt (distance count : Nat) (first : Bool) : Nat :=
  let scaled := if first then distance / 700 else distance / 2
  let (rest, place) := reduce (scaled + scaled / count) 0
  place + base * rest / (rest + 38)

/-! ## §2. Encoding -/

/-- The digits of a distance. -/
def digits (bias place distance : Nat) : List Char :=
  let t := threshold place bias
  if distance < t then [digitChar distance]
  else digitChar (t + (distance - t) % (base - t)) :: digits bias (place + base)
    ((distance - t) / (base - t))
termination_by distance
decreasing_by
  have := threshold_pos place bias
  have : (distance - threshold place bias) / (base - threshold place bias)
      ≤ distance - threshold place bias := Nat.div_le_self _ _
  omega

/-- What the encoder knows between insertions. -/
structure Progress where
  distance : Nat := 0
  bias : Nat := 72
  handled : Nat
  output : List Char

/-- Writes the insertions of the code point `next`. -/
def insertAt (next basic : Nat) (p : Progress) (codes : List Nat) : Progress :=
  codes.foldl
    (fun p code =>
      if code < next then { p with distance := p.distance + 1 }
      else if code = next then
        { distance := 0, bias := adapt p.distance (p.handled + 1) (p.handled = basic),
          handled := p.handled + 1, output := p.output ++ digits p.bias base p.distance }
      else p)
    p

/-- Writes the insertions of all code points from `current` on; `left` is in ascending order. -/
def insertAll (codes : List Nat) (basic : Nat) : Nat → List Nat → Progress → Progress
  | _, [], p => p
  | current, next :: left, p =>
    let p := { p with distance := p.distance + (next - current) * (p.handled + 1) }
    let p := insertAt next basic p codes
    insertAll codes basic (next + 1) left { p with distance := p.distance + 1 }

/-- The label in ASCII, without its mark. -/
def encode (label : List Char) : List Char :=
  let codes := label.map Char.toNat
  let basic := label.filter fun c => c.toNat < 128
  let others := ((codes.filter fun n => 128 ≤ n).mergeSort fun a b => a ≤ b).eraseDups
  let start := if basic.isEmpty then [] else basic ++ ['-']
  (insertAll codes basic.length 128 others
    { handled := basic.length, output := start }).output

/-! ## §3. Decoding -/

/-- Reads the digits of a distance; the rest is shorter. -/
def readDigits (bias : Nat) : Nat → Nat → Nat → List Char → Option (Nat × List Char)
  | _, _, _, [] => none
  | place, acc, weight, c :: rest =>
    (digitValue? c).bind fun d =>
      let t := threshold place bias
      if d < t then some (acc + d * weight, rest)
      else readDigits bias (place + base) (acc + d * weight) (weight * (base - t)) rest

/-- Reads insertions; each step uses up at least one of the `fuel` digits. -/
def readInsertions : Nat → Nat → Nat → Nat → List Nat → List Char → Option (List Nat)
  | _, _, _, _, codes, [] => some codes
  | 0, _, _, _, _, _ :: _ => none
  | fuel + 1, current, place, bias, codes, cs =>
    (readDigits bias base 0 1 cs).bind fun (distance, rest) =>
      let count := codes.length + 1
      let place' := place + distance
      let code := current + place' / count
      if 0x110000 ≤ code then none
      else
        readInsertions fuel code (place' % count + 1) (adapt distance count (place = 0))
          (codes.insertIdx (place' % count) code) rest

/-- The label that an ASCII form without its mark spells. -/
def decode? (label : List Char) : Option (List Char) :=
  let (basic, digits) :=
    match label.reverse.span (· ≠ '-') with
    | (tail, _ :: head) => (head.reverse, tail.reverse)
    | (tail, []) => ([], tail.reverse)
  (readInsertions digits.length 128 0 72 (basic.map Char.toNat) digits).map fun codes =>
    codes.map Char.ofNat

end Pageflow.Url.Punycode
