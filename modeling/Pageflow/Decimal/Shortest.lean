/-
  Pageflow.Decimal.Shortest — the fewest decimal digits that read back as the same number.

  The reals that round to a double form an interval around it.  For one, two, … digits the two
  neighbours of the value on that decimal grid are tried against the interval in exact natural
  arithmetic; the first grid with a hit wins, and of two hits the nearer.

  Main definition: `Binary64.shortest`.
-/
import Pageflow.Decimal.Binary64

namespace Pageflow.Binary64

/-- A decimal number `0.d₁d₂… · 10^(exponent+1)`: its digits and the exponent of the first one. -/
structure Scientific where
  digits : Nat
  exponent : Int
deriving DecidableEq, Repr

/-- The number of decimal digits of a natural number; zero has one. -/
def digitCount (n : Nat) : Nat := (Nat.toDigits 10 n).length

/-- The exponent `e` with `10^e ≤ num / den < 10^(e+1)`, for a positive fraction. -/
def ratioLog10 (num den : Nat) : Int :=
  let guess : Int := (digitCount num : Int) - digitCount den
  let fits :=
    if guess ≥ 0 then den * Nat.pow 10 guess.toNat ≤ num
    else den ≤ num * Nat.pow 10 (-guess).toNat
  if fits then guess else guess - 1

/-- Four times the ends of the rounding interval, in units of the scale; they belong to it when
the significand is even. -/
def interval (x : Binary64) : Nat × Nat :=
  let m := x.significand
  let low := if x.fractionField = 0 ∧ x.exponentField > 1 then 4 * m - 1 else 4 * m - 2
  (low, 4 * m + 2)

/-- The grid points `c` that are tried at one number of digits.  The value is `m · up / down` in
grid units; `c` is a hit if `4 · c · down` lies between the interval's ends times `up`. -/
def gridHit (x : Binary64) (up down : Nat) : Option Nat :=
  let value := x.significand * up
  let (low, high) := x.interval
  let even := x.significand % 2 = 0
  let inside (c : Nat) : Bool :=
    let at4 := 4 * c * down
    if even then low * up ≤ at4 ∧ at4 ≤ high * up else low * up < at4 ∧ at4 < high * up
  let floor := value / down
  match inside floor, inside (floor + 1) with
  | true, false => some floor
  | false, true => some (floor + 1)
  | false, false => none
  | true, true =>
    let below := value - floor * down
    let above := (floor + 1) * down - value
    if below < above then some floor
    else if above < below then some (floor + 1)
    else some (floor + floor % 2)

/-- Drops trailing zeros of the digits; the exponent belongs to the first digit and stays. -/
def stripZeros : Nat → Nat → Nat
  | 0, n => n
  | fuel + 1, n => if n ≠ 0 ∧ n % 10 = 0 then stripZeros fuel (n / 10) else n

/-- Tries the grids from `count` digits on, `more` of them. -/
def searchGrid (x : Binary64) (first : Int) : Nat → Nat → Scientific
  | 0, count => ⟨x.significand, first - count⟩
  | more + 1, count =>
    -- the grid unit is `10^k`
    let k : Int := first - count + 1
    let up := Nat.pow 2 x.scale.toNat * Nat.pow 10 (-k).toNat
    let down := Nat.pow 2 (-x.scale).toNat * Nat.pow 10 k.toNat
    match gridHit x up down with
    | some c => ⟨stripZeros 20 c, k + digitCount c - 1⟩
    | none => searchGrid x first more (count + 1)

/-- The shortest digits that read back as the magnitude of `x`, and the exponent of the first. -/
def shortest (x : Binary64) : Scientific :=
  if x.significand = 0 then ⟨0, 0⟩
  else
    let num := x.significand * Nat.pow 2 x.scale.toNat
    let den := Nat.pow 2 (-x.scale).toNat
    searchGrid x (ratioLog10 num den) 17 1

end Pageflow.Binary64
