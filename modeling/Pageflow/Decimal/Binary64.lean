/-
  Pageflow.Decimal.Binary64 — double precision numbers as bit patterns.

  A number is its 64 bits.  A finite one is a sign and a magnitude `m · 2^q` with natural `m`;
  all arithmetic here is exact arithmetic on `m` and `q` followed by one rounding to the nearest
  pattern, ties to the even one.  Nothing goes through the machine's own floating point, so
  every value can be computed inside a proof.

  Main definitions: `ofRatio` (the nearest pattern to a fraction), `mul`, `div`, `ofDecimal`
  and `rank`, the total order in which the negative zero lies below the positive one.
-/

namespace Pageflow

/-- A double precision number, by its bit pattern. -/
structure Binary64 where
  bits : UInt64
deriving DecidableEq, Inhabited

namespace Binary64

/-! ## §1. Taking a pattern apart -/

/-- The eleven exponent bits. -/
def exponentField (x : Binary64) : Nat := x.bits.toNat / Nat.pow 2 52 % Nat.pow 2 11

/-- The fifty-two fraction bits. -/
def fractionField (x : Binary64) : Nat := x.bits.toNat % Nat.pow 2 52

/-- Whether the sign bit is set. -/
def isNegative (x : Binary64) : Bool := x.bits.toNat / Nat.pow 2 63 = 1

/-- Neither infinite nor a NaN. -/
def isFinite (x : Binary64) : Bool := x.exponentField ≠ 2047

/-- Whether the magnitude is zero. -/
def isZero (x : Binary64) : Bool := x.bits.toNat % Nat.pow 2 63 = 0

/-- The integer significand of a finite number, with the hidden bit. -/
def significand (x : Binary64) : Nat :=
  if x.exponentField = 0 then x.fractionField else Nat.pow 2 52 + x.fractionField

/-- The power of two that scales the significand. -/
def scale (x : Binary64) : Int :=
  if x.exponentField = 0 then -1074 else (x.exponentField : Int) - 1075

/-! ## §2. Patterns from magnitudes -/

/-- The pattern with this sign and these sixty-three magnitude bits. -/
def ofMagnitude (negative : Bool) (magnitude : Nat) : Binary64 :=
  ⟨UInt64.ofNat ((if negative then Nat.pow 2 63 else 0) + magnitude)⟩

/-- The magnitude bits of infinity. -/
def infinityMagnitude : Nat := 2047 * Nat.pow 2 52

def zero : Binary64 := ofMagnitude false 0

def infinity : Binary64 := ofMagnitude false infinityMagnitude

/-- The same number with the other sign. -/
def neg (x : Binary64) : Binary64 :=
  ofMagnitude (!x.isNegative) (x.bits.toNat % Nat.pow 2 63)

/-- Rounds the fraction `num / den` to a natural number, a half to the even neighbour. -/
def roundHalfEven (num den : Nat) : Nat :=
  let floor := num / den
  let twice := 2 * (num % den)
  if twice < den then floor
  else if twice > den then floor + 1
  else floor + floor % 2

/-- The exponent `e` with `2^e ≤ num / den < 2^(e+1)`, for a positive fraction. -/
def ratioLog2 (num den : Nat) : Int :=
  let guess : Int := (Nat.log2 num : Int) - Nat.log2 den
  let fits :=
    if guess ≥ 0 then den * Nat.pow 2 guess.toNat ≤ num
    else den ≤ num * Nat.pow 2 (-guess).toNat
  if fits then guess else guess - 1

/-- The magnitude bits of the number nearest to `num / den`; infinity if it is too large. -/
def magnitudeOfRatio (num den : Nat) : Nat :=
  if num = 0 ∨ den = 0 then 0
  else
    let q : Int := max (ratioLog2 num den - 52) (-1074)
    let m := if q ≥ 0 then roundHalfEven num (den * Nat.pow 2 q.toNat)
      else roundHalfEven (num * Nat.pow 2 (-q).toNat) den
    -- the hidden bit of `m`, and a carry to `2^53`, run into the exponent bits
    min ((q + 1074).toNat * Nat.pow 2 52 + m) infinityMagnitude

/-- The number nearest to `num / den`, with the given sign. -/
def ofRatio (negative : Bool) (num den : Nat) : Binary64 :=
  ofMagnitude negative (magnitudeOfRatio num den)

/-- The number nearest to a natural number. -/
def ofNat (n : Nat) : Binary64 := ofRatio false n 1

/-- The number nearest to an integer. -/
def ofInt (n : Int) : Binary64 := ofRatio (n < 0) n.natAbs 1

/-- The number nearest to `digits · 10^exponent`. -/
def ofDecimal (negative : Bool) (digits : Nat) (exponent : Int) : Binary64 :=
  if exponent ≥ 0 then ofRatio negative (digits * Nat.pow 10 exponent.toNat) 1
  else ofRatio negative digits (Nat.pow 10 (-exponent).toNat)

/-! ## §3. Rounded arithmetic on non-negative finite numbers -/

/-- The product, rounded once; the signs are ignored. -/
def mulMagnitude (x y : Binary64) : Binary64 :=
  let m := x.significand * y.significand
  let q := x.scale + y.scale
  if q ≥ 0 then ofRatio false (m * Nat.pow 2 q.toNat) 1 else ofRatio false m (Nat.pow 2 (-q).toNat)

/-- The quotient, rounded once; the signs are ignored. -/
def divMagnitude (x y : Binary64) : Binary64 :=
  let q := x.scale - y.scale
  if q ≥ 0 then ofRatio false (x.significand * Nat.pow 2 q.toNat) y.significand
  else ofRatio false x.significand (y.significand * Nat.pow 2 (-q).toNat)

/-! ## §4. The total order -/

/-- The place of a pattern in the total order: negative magnitudes mirrored below zero, the
negative zero just below the positive one. -/
def rank (x : Binary64) : Int :=
  let magnitude : Int := (x.bits.toNat % Nat.pow 2 63 : Nat)
  if x.isNegative then -magnitude - 1 else magnitude

/-- Whether `x` comes no later than `y` in the total order. -/
def totalLe (x y : Binary64) : Bool := x.rank ≤ y.rank

theorem totalLe_trans {x y z : Binary64} (h₁ : x.totalLe y) (h₂ : y.totalLe z) : x.totalLe z := by
  simp only [totalLe, decide_eq_true_eq] at *
  omega

theorem totalLe_total (x y : Binary64) : (x.totalLe y || y.totalLe x) = true := by
  simp only [totalLe, Bool.or_eq_true, decide_eq_true_eq]
  omega

end Binary64

end Pageflow
