/-
  Pageflow.Text.Percent — percent-encoding.

  `encode keep` writes every byte outside the class `keep` as `%` and two upper-case hexadecimal
  digits; `decode` reads such escapes back and leaves a `%` alone that starts none.
  Main statement: `decode_encode`, for every class that holds neither `%` nor anything outside
  ASCII.
-/
import Pageflow.Text.Utf8

namespace Pageflow.Percent

/-- The byte of `%`. -/
def percent : UInt8 := 37

/-- The byte of an upper-case hexadecimal digit. -/
def digitByte (n : Nat) : UInt8 :=
  if n < 10 then UInt8.ofNat (48 + n) else UInt8.ofNat (55 + n)

/-- The value of a hexadecimal digit of either case. -/
def digitValue? (b : UInt8) : Option Nat :=
  let n := b.toNat
  if 48 ≤ n ∧ n ≤ 57 then some (n - 48)
  else if 65 ≤ n ∧ n ≤ 70 then some (n - 55)
  else if 97 ≤ n ∧ n ≤ 102 then some (n - 87)
  else none

/-- The written form of one byte. -/
def encodeByte (keep : UInt8 → Bool) (b : UInt8) : Bytes :=
  if keep b then [b] else [percent, digitByte (b.toNat / 16), digitByte (b.toNat % 16)]

/-- The written form of bytes. -/
def encodeBytes (keep : UInt8 → Bool) (bytes : Bytes) : Bytes := bytes.flatMap (encodeByte keep)

/-- Reads escapes; anything else stands for itself. -/
def decodeBytes : Bytes → Bytes
  | [] => []
  | [a] => [a]
  | [a, b] => [a, b]
  | a :: b :: c :: rest =>
    if a = percent then
      match digitValue? b, digitValue? c with
      | some high, some low => UInt8.ofNat (high * 16 + low) :: decodeBytes rest
      | _, _ => a :: decodeBytes (b :: c :: rest)
    else a :: decodeBytes (b :: c :: rest)

/-- A byte of an ASCII text as a character. -/
def charOf (b : UInt8) : Char := Char.ofNat b.toNat

/-- The written form of a text, for a class of ASCII bytes. -/
def encode (keep : UInt8 → Bool) (s : String) : String :=
  String.ofList ((encodeBytes keep (Utf8.encode s)).map charOf)

/-! ## Classes of bytes -/

/-- ASCII letters and digits. -/
def isAlphanumeric (b : UInt8) : Bool :=
  (48 ≤ b && b ≤ 57) || (65 ≤ b && b ≤ 90) || (97 ≤ b && b ≤ 122)

/-- Letters, digits, `-`, `.`, `_` and `~`: the characters that never mean anything else. -/
def isUnreserved (b : UInt8) : Bool :=
  isAlphanumeric b || b = 45 || b = 46 || b = 95 || b = 126

/-! ## Reading back -/

theorem digitValue?_digitByte (n : Nat) (h : n < 16) : digitValue? (digitByte n) = some n := by
  have : ∀ n : Fin 16, digitValue? (digitByte n) = some n.val := by decide
  exact this ⟨n, h⟩

theorem decodeBytes_of_ne {a : UInt8} (h : a ≠ percent) (rest : Bytes) :
    decodeBytes (a :: rest) = a :: decodeBytes rest := by
  match rest with
  | [] => rfl
  | [_] => rfl
  | _ :: _ :: _ => simp [decodeBytes, h]

theorem decodeBytes_encodeByte {keep : UInt8 → Bool} (hk : keep percent = false) (b : UInt8)
    (rest : Bytes) : decodeBytes (encodeByte keep b ++ rest) = b :: decodeBytes rest := by
  by_cases h : keep b = true
  · have hb : b ≠ percent := by rintro rfl; simp [hk] at h
    simp [encodeByte, h, decodeBytes_of_ne hb]
  · have hlt := b.toNat_lt
    have h1 := digitValue?_digitByte (b.toNat / 16) (by omega)
    have h2 := digitValue?_digitByte (b.toNat % 16) (by omega)
    simp only [encodeByte, if_neg h, List.cons_append, List.nil_append, decodeBytes, h1, h2,
      if_true]
    have : b.toNat / 16 * 16 + b.toNat % 16 = b.toNat := by omega
    rw [this, UInt8.ofNat_toNat]

/-- Decoding gives back what was encoded. -/
theorem decode_encode {keep : UInt8 → Bool} (hk : keep percent = false) (bytes : Bytes) :
    decodeBytes (encodeBytes keep bytes) = bytes := by
  induction bytes with
  | nil => rfl
  | cons b rest ih =>
    simp only [encodeBytes, List.flatMap_cons] at ih ⊢
    rw [decodeBytes_encodeByte hk, ih]

end Pageflow.Percent
