/-
  Pageflow.Text.Utf8 — texts and their bytes.

  `encode` gives the bytes of a text and `decode?` reads them back; both go through the byte
  array that a text is, so `decode?_encode` and `encode_of_decode?` are its two faces.
  `decodeLossy` reads any bytes: each longest run that could start a character but does not
  finish one becomes a single replacement character.
-/

namespace Pageflow

/-- A sequence of bytes. -/
abbrev Bytes := List UInt8

namespace Utf8

/-! ## §1. Exact reading and writing -/

/-- The bytes of a text. -/
def encode (s : String) : Bytes := s.toByteArray.toList

/-- The number of bytes of a text. -/
def size (s : String) : Nat := s.utf8ByteSize

/-- The text with these bytes, if they are well formed. -/
def decode? (bytes : Bytes) : Option String := String.fromUTF8? bytes.toByteArray

private theorem toList_loop (bytes : ByteArray) (i : Nat) (read : Bytes) :
    ByteArray.toList.loop bytes i read = read.reverse ++ bytes.data.toList.drop i := by
  have length : bytes.data.toList.length = bytes.size := by
    rw [Array.length_toList, ByteArray.size_data]
  rw [ByteArray.toList.loop]
  split
  next hi =>
    have next : bytes.get! i = bytes.data.toList[i] := by simp [ByteArray.get!, hi]
    have rest : bytes.data.toList.drop i = bytes.get! i :: bytes.data.toList.drop (i + 1) :=
      next ▸ List.drop_eq_getElem_cons (by omega)
    rw [toList_loop bytes (i + 1), rest, List.reverse_cons, List.append_assoc,
      List.singleton_append]
  next hi => rw [List.drop_eq_nil_of_le (by omega), List.append_nil]
termination_by bytes.size - i

theorem toList_eq_data (bytes : ByteArray) : bytes.toList = bytes.data.toList := by
  unfold ByteArray.toList
  rw [toList_loop bytes 0 []]
  rfl

/-- What can be read as a text is the bytes of the text. -/
theorem encode_of_decode? {bytes : Bytes} {s : String} (h : decode? bytes = some s) :
    encode s = bytes := by
  unfold decode? String.fromUTF8? at h
  split at h
  · obtain rfl := Option.some.inj h
    show bytes.toByteArray.toList = bytes
    rw [toList_eq_data, List.toList_data_toByteArray]
  · contradiction

/-- The bytes of a text can be read as the text. -/
theorem decode?_encode (s : String) : decode? (encode s) = some s := by
  have bytes : (encode s).toByteArray = s.toByteArray := by
    rw [encode, toList_eq_data]
    exact ByteArray.ext (by simp)
  unfold decode? String.fromUTF8?
  rw [dif_pos (bytes ▸ s.isValidUTF8)]
  exact congrArg some (String.toByteArray_inj.mp bytes)

/-! ## §2. Reading that never fails -/

/-- What replaces bytes that are no character. -/
def replacement : Char := '\uFFFD'

/-- A continuation byte in the given range. -/
def inRange (low high b : UInt8) : Bool := low ≤ b && b ≤ high

/-- The character with this code point. -/
def character (code : Nat) : Char := Char.ofNat code

/-- The range of a second byte after `lead`, and the number of bytes of the character. -/
def shape (lead : UInt8) : Option (UInt8 × UInt8 × Nat) :=
  if inRange 0xC2 0xDF lead then some (0x80, 0xBF, 2)
  else if lead = 0xE0 then some (0xA0, 0xBF, 3)
  else if lead = 0xED then some (0x80, 0x9F, 3)
  else if inRange 0xE1 0xEF lead then some (0x80, 0xBF, 3)
  else if lead = 0xF0 then some (0x90, 0xBF, 4)
  else if inRange 0xF1 0xF3 lead then some (0x80, 0xBF, 4)
  else if lead = 0xF4 then some (0x80, 0x8F, 4)
  else none

/-- The six payload bits of a continuation byte. -/
def payload (b : UInt8) : Nat := b.toNat % 64

/-- The first character of non-empty bytes, and how many of the following bytes belong to it. -/
def firstChar (lead : UInt8) (rest : Bytes) : Char × Nat :=
  if lead < 0x80 then (character lead.toNat, 0)
  else
    match shape lead, rest with
    | some (low, high, width), b :: rest =>
      if inRange low high b then
        if width = 2 then (character (lead.toNat % 32 * 64 + payload b), 1)
        else
          match rest with
          | c :: rest =>
            if inRange 0x80 0xBF c then
              if width = 3 then
                (character ((lead.toNat % 16 * 64 + payload b) * 64 + payload c), 2)
              else
                match rest with
                | d :: _ =>
                  if inRange 0x80 0xBF d then
                    (character (((lead.toNat % 8 * 64 + payload b) * 64 + payload c) * 64
                      + payload d), 3)
                  else (replacement, 2)
                | [] => (replacement, 2)
            else (replacement, 1)
          | [] => (replacement, 1)
      else (replacement, 0)
    | _, _ => (replacement, 0)

/-- The characters of the bytes after `skip` of them that are already read. -/
def lossyChars : Nat → Bytes → List Char
  | _, [] => []
  | skip + 1, _ :: rest => lossyChars skip rest
  | 0, lead :: rest =>
    let (c, used) := firstChar lead rest
    c :: lossyChars used rest

/-- The text of any bytes. -/
def decodeLossy (bytes : Bytes) : String := String.ofList (lossyChars 0 bytes)

end Utf8

end Pageflow
