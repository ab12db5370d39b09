/-
  Pageflow.Json.Parser — reading JSON text.

  The reader works on bytes and knows where it stands from the number of bytes left.  Integers
  that fit 64 bits (signed or unsigned) stay exact.  Every other number is a double: the
  significand is cut where it would leave 64 bits, rounded once, and then multiplied or divided
  by one rounded power of ten at a time.  Of equal keys the last value stands at the first place.
  More than 127 nested containers are refused.

  Main definitions: `Json.parse?` for texts, `Json.parseBytes?` for bytes.
-/
import Pageflow.Json.Value
import Pageflow.Text.Utf8

namespace Pageflow.Json

/-! ## §1. What can be wrong with a text -/

/-- What the reader stumbled over. -/
inductive SyntaxCause where
  | endInList
  | endInObject
  | endInString
  | endInValue
  | expectedColon
  | expectedCommaOrBracket
  | expectedCommaOrBrace
  | expectedWord
  | expectedValue
  | invalidEscape
  | invalidNumber
  | numberOutOfRange
  | invalidCodePoint
  | controlCharacter
  | keyNotString
  | loneSurrogate
  | trailingComma
  | trailingCharacters
  | unfinishedSurrogate
  | tooDeep
deriving DecidableEq, Repr

/-- The wording of a cause. -/
def SyntaxCause.message : SyntaxCause → String
  | .endInList => "EOF while parsing a list"
  | .endInObject => "EOF while parsing an object"
  | .endInString => "EOF while parsing a string"
  | .endInValue => "EOF while parsing a value"
  | .expectedColon => "expected `:`"
  | .expectedCommaOrBracket => "expected `,` or `]`"
  | .expectedCommaOrBrace => "expected `,` or `\x7d`"
  | .expectedWord => "expected ident"
  | .expectedValue => "expected value"
  | .invalidEscape => "invalid escape"
  | .invalidNumber => "invalid number"
  | .numberOutOfRange => "number out of range"
  | .invalidCodePoint => "invalid unicode code point"
  | .controlCharacter => "control character (\\u0000-\\u001F) found while parsing a string"
  | .keyNotString => "key must be a string"
  | .loneSurrogate => "lone leading surrogate in hex escape"
  | .trailingComma => "trailing comma"
  | .trailingCharacters => "trailing characters"
  | .unfinishedSurrogate => "unexpected end of hex escape"
  | .tooDeep => "recursion limit exceeded"

/-- A refusal: the cause, and the line and byte column where it was noticed. -/
structure SyntaxError where
  cause : SyntaxCause
  line : Nat
  column : Nat
deriving DecidableEq, Repr

/-- The wording of a refusal. -/
def SyntaxError.message (e : SyntaxError) : String :=
  e.cause.message ++ s!" at line {e.line} column {e.column}"

/-- Lines are counted from one, columns by the bytes since the last line break. -/
def locate (consumed : Bytes) : Nat × Nat :=
  consumed.foldl (fun place b => if b = 10 then (place.1 + 1, 0) else (place.1, place.2 + 1)) (1, 0)

/-! ## §2. Steps of the reader -/

/-- One step: the value read and the bytes left, or a cause and the number of bytes after it. -/
abbrev Step (α : Type) := Except (SyntaxCause × Nat) (α × Bytes)

/-- Refuses at the place reached. -/
def failHere {α : Type} (cause : SyntaxCause) (rest : Bytes) : Step α :=
  .error (cause, rest.length)

/-- Refuses at the next byte, if there is one. -/
def failNext {α : Type} (cause : SyntaxCause) (rest : Bytes) : Step α :=
  .error (cause, rest.length - 1)

/-- A step and then another on what it left. -/
def andThen {α β : Type} (step : Step α) (next : α → Bytes → Step β) : Step β :=
  match step with
  | .ok (a, rest) => next a rest
  | .error e => .error e

/-- The byte of an ASCII character. -/
def byteOf (c : Char) : UInt8 := UInt8.ofNat c.toNat

/-- Blanks between tokens. -/
def isSpaceByte (b : UInt8) : Bool := b = 32 || b = 10 || b = 9 || b = 13

/-- Drops blanks. -/
def skipSpace (bs : Bytes) : Bytes := bs.dropWhile isSpaceByte

/-- The value of a decimal digit. -/
def digit? (b : UInt8) : Option Nat :=
  if 48 ≤ b && b ≤ 57 then some (b.toNat - 48) else none

/-- Reads the rest of a word such as `true`. -/
def readWord (value : Json) : List Char → Bytes → Step Json
  | [], rest => .ok (value, rest)
  | _ :: _, [] => failHere .endInValue []
  | c :: cs, b :: rest =>
    if b = byteOf c then readWord value cs rest else failHere .expectedWord rest

/-! ## §3. Numbers -/

/-- The greatest significand. -/
def significandLimit : Nat := Nat.pow 2 64 - 1

/-- The greatest written exponent. -/
def exponentLimit : Nat := Nat.pow 2 31 - 1

/-- A run of digits added to a significand, up to the digit that would leave 64 bits. -/
def readDigits : Nat → Bytes → Nat × Bytes
  | acc, [] => (acc, [])
  | acc, b :: rest =>
    match digit? b with
    | some d =>
      if acc * 10 + d > significandLimit then (acc, b :: rest) else readDigits (acc * 10 + d) rest
    | none => (acc, b :: rest)

/-- Drops digits and counts them. -/
def skipDigits : Nat → Bytes → Nat × Bytes
  | count, [] => (count, [])
  | count, b :: rest =>
    match digit? b with
    | some _ => skipDigits (count + 1) rest
    | none => (count, b :: rest)

/-- The double nearest to a power of ten. -/
def powerOfTen (n : Nat) : Binary64 := Binary64.ofNat (Nat.pow 10 n)

/-- Multiplies or divides by powers of ten, at most 308 at a time, rounding every time. -/
def scaleBy : Nat → Binary64 → Int → Option Binary64
  | 0, x, _ => some x
  | fuel + 1, x, exponent =>
    if exponent.natAbs ≤ 308 then
      if exponent ≥ 0 then
        let product := x.mulMagnitude (powerOfTen exponent.natAbs)
        if product.isFinite then some product else none
      else some (x.divMagnitude (powerOfTen exponent.natAbs))
    else if x.isZero then some x
    else if exponent ≥ 0 then none
    else scaleBy fuel (x.divMagnitude (powerOfTen 308)) (exponent + 308)

/-- The double of a significand and a decimal exponent. -/
def assemble (negative : Bool) (significand : Nat) (exponent : Int) (rest : Bytes) :
    Step Number :=
  match scaleBy (exponent.natAbs / 308 + 1) (.ofNat significand) exponent with
  | some x => .ok (.binary (if negative then x.neg else x), rest)
  | none => failHere .numberOutOfRange rest

/-- The digits of an exponent; `none` at the digit that leaves 32 bits. -/
def readExponentDigits : Nat → Bytes → Option Nat × Bytes
  | acc, [] => (some acc, [])
  | acc, b :: rest =>
    match digit? b with
    | some d =>
      if acc * 10 + d > exponentLimit then (none, rest)
      else readExponentDigits (acc * 10 + d) rest
    | none => (some acc, b :: rest)

/-- What follows the mark of an exponent. -/
def readExponent (negative : Bool) (significand : Nat) (start : Int) (bs : Bytes) :
    Step Number :=
  let (down, bs) :=
    match bs with
    | b :: rest => if b = byteOf '+' then (false, rest) else if b = byteOf '-' then (true, rest)
      else (false, b :: rest)
    | [] => (false, [])
  match bs with
  | [] => failHere .endInValue []
  | b :: rest =>
    match digit? b with
    | none => failHere .invalidNumber rest
    | some d =>
      match readExponentDigits d rest with
      | (some e, rest) => assemble negative significand (if down then start - e else start + e) rest
      | (none, rest) =>
        if significand ≠ 0 ∧ !down then failHere .numberOutOfRange rest
        else
          let (_, rest) := skipDigits 0 rest
          .ok (.binary (if negative then Binary64.zero.neg else Binary64.zero), rest)

/-- An exponent, if one follows. -/
def readExponent? (negative : Bool) (significand : Nat) (start : Int) : Bytes → Step Number
  | b :: rest =>
    if b = byteOf 'e' ∨ b = byteOf 'E' then readExponent negative significand start rest
    else assemble negative significand start (b :: rest)
  | [] => assemble negative significand start []

/-- What follows the decimal point. -/
def readFraction (negative : Bool) (significand : Nat) (start : Int) (bs : Bytes) :
    Step Number :=
  let (whole, rest) := readDigits significand bs
  let count := bs.length - rest.length
  let (skipped, rest) := skipDigits 0 rest
  if count = 0 ∧ skipped = 0 then
    if rest.isEmpty then failNext .endInValue rest else failNext .invalidNumber rest
  else readExponent? negative whole (start - count) rest

/-- A number after its sign and first digits. -/
def readNumberTail (negative : Bool) (significand : Nat) : Bytes → Step Number
  | b :: rest =>
    if b = byteOf '.' then readFraction negative significand 0 rest
    else if b = byteOf 'e' ∨ b = byteOf 'E' then readExponent negative significand 0 rest
    else .ok (whole, b :: rest)
  | [] => .ok (whole, [])
where
  /-- An integer if it fits, and no negative zero. -/
  whole : Number :=
    if negative then
      if significand = 0 ∨ significand > Nat.pow 2 63 then .binary (Binary64.ofNat significand).neg
      else .integer (-(significand : Int))
    else .integer significand

/-- An integer too long for 64 bits: the digits left only count. -/
def readLongInteger (negative : Bool) (significand : Nat) (bs : Bytes) : Step Number :=
  let (skipped, rest) := skipDigits 0 bs
  match rest with
  | b :: tail =>
    if b = byteOf '.' then readFraction negative significand skipped tail
    else readExponent? negative significand skipped rest
  | [] => readExponent? negative significand skipped []

/-- A number after its sign. -/
def readNumber (negative : Bool) : Bytes → Step Number
  | [] => failHere .endInValue []
  | b :: rest =>
    match digit? b with
    | none => failHere .invalidNumber rest
    | some 0 =>
      match rest with
      | c :: _ =>
        if (digit? c).isSome then failNext .invalidNumber rest
        else readNumberTail negative 0 rest
      | [] => readNumberTail negative 0 []
    | some d =>
      let (significand, rest) := readDigits d rest
      match rest with
      | c :: _ =>
        if (digit? c).isSome then readLongInteger negative significand rest
        else readNumberTail negative significand rest
      | [] => readNumberTail negative significand []

/-! ## §4. Strings -/

/-- The value of a hexadecimal digit. -/
def hexDigit? (b : UInt8) : Option Nat :=
  if 48 ≤ b && b ≤ 57 then some (b.toNat - 48)
  else if 97 ≤ b && b ≤ 102 then some (b.toNat - 87)
  else if 65 ≤ b && b ≤ 70 then some (b.toNat - 55)
  else none

/-- Four hexadecimal digits. -/
def readHex : Bytes → Step Nat
  | a :: b :: c :: d :: rest =>
    match hexDigit? a, hexDigit? b, hexDigit? c, hexDigit? d with
    | some a, some b, some c, some d => .ok (((a * 16 + b) * 16 + c) * 16 + d, rest)
    | _, _, _, _ => failHere .invalidEscape rest
  | _ => failHere .endInString []

/-- The bytes of a code point that is no surrogate. -/
def codePointBytes (n : Nat) : Bytes := String.utf8EncodeChar (Char.ofNat n)

/-- What follows `\u`: one code unit, or two that form a pair. -/
def readUnicodeEscape (bs : Bytes) : Step Bytes :=
  andThen (readHex bs) fun high rest =>
    if 0xDC00 ≤ high ∧ high ≤ 0xDFFF then failHere .loneSurrogate rest
    else if high < 0xD800 ∨ high > 0xDBFF then .ok (codePointBytes high, rest)
    else
      andThen (expect '\\' rest) fun _ rest =>
        andThen (expect 'u' rest) fun _ rest =>
          andThen (readHex rest) fun low rest =>
            if low < 0xDC00 ∨ low > 0xDFFF then failHere .loneSurrogate rest
            else .ok (codePointBytes ((high - 0xD800) * 1024 + (low - 0xDC00) + 0x10000), rest)
where
  /-- The next character of the second escape. -/
  expect (c : Char) : Bytes → Step Unit
    | [] => failHere .endInString []
    | b :: rest => if b = byteOf c then .ok ((), rest) else failHere .unfinishedSurrogate rest

/-- The character after a backslash. -/
def readEscape : Bytes → Step Bytes
  | [] => failHere .endInString []
  | b :: rest =>
    if b = byteOf '"' ∨ b = byteOf '\\' ∨ b = byteOf '/' then .ok ([b], rest)
    else if b = byteOf 'b' then .ok ([8], rest)
    else if b = byteOf 'f' then .ok ([12], rest)
    else if b = byteOf 'n' then .ok ([10], rest)
    else if b = byteOf 'r' then .ok ([13], rest)
    else if b = byteOf 't' then .ok ([9], rest)
    else if b = byteOf 'u' then readUnicodeEscape rest
    else failHere .invalidEscape rest

/-- A string after its opening quote; `acc` holds the bytes read, last first. -/
def readString : Nat → Bytes → Bytes → Step String
  | 0, _, rest => failHere .endInString rest
  | _ + 1, _, [] => failHere .endInString []
  | fuel + 1, acc, b :: rest =>
    if b = byteOf '"' then
      match Utf8.decode? acc.reverse with
      | some s => .ok (s, rest)
      | none => failHere .invalidCodePoint (b :: rest)
    else if b = byteOf '\\' then
      andThen (readEscape rest) fun bytes rest => readString fuel (bytes.reverse ++ acc) rest
    else if b < 32 then failHere .controlCharacter rest
    else readString fuel (b :: acc) rest

/-- A string after its opening quote. -/
def readStringBody (bs : Bytes) : Step String := readString (bs.length + 1) [] bs

/-! ## §5. Containers and values -/

/-- Items up to the closing bracket; `acc` holds the items read, last first. -/
def readItems (value : Bytes → Step Json) : Nat → Bool → List Json → Bytes → Step (List Json)
  | 0, _, _, bs => failNext .endInList bs
  | fuel + 1, first, acc, bs =>
    match skipSpace bs with
    | [] => failNext .endInList []
    | b :: rest =>
      if b = byteOf ']' then .ok (acc.reverse, rest)
      else if first then item fuel acc (b :: rest)
      else if b = byteOf ',' then
        match skipSpace rest with
        | [] => failNext .endInValue []
        | c :: tail =>
          if c = byteOf ']' then failNext .trailingComma (c :: tail) else item fuel acc (c :: tail)
      else failNext .expectedCommaOrBracket (b :: rest)
where
  /-- One item and the ones after it. -/
  item (fuel : Nat) (acc : List Json) (bs : Bytes) : Step (List Json) :=
    andThen (value bs) fun v rest => readItems value fuel false (v :: acc) rest

/-- The colon after a key. -/
def readColon (bs : Bytes) : Step Unit :=
  match skipSpace bs with
  | [] => failNext .endInObject []
  | b :: rest => if b = byteOf ':' then .ok ((), rest) else failNext .expectedColon (b :: rest)

/-- Members up to the closing brace, written into `acc`. -/
def readMembers (value : Bytes → Step Json) : Nat → Bool → Dict Json → Bytes → Step (Dict Json)
  | 0, _, _, bs => failNext .endInObject bs
  | fuel + 1, first, acc, bs =>
    match skipSpace bs with
    | [] => failNext .endInObject []
    | b :: rest =>
      if b = byteOf '}' then .ok (acc, rest)
      else if first then
        if b = byteOf '"' then member fuel acc rest else failNext .keyNotString (b :: rest)
      else if b = byteOf ',' then
        match skipSpace rest with
        | [] => failNext .endInValue []
        | c :: tail =>
          if c = byteOf '"' then member fuel acc tail
          else if c = byteOf '}' then failNext .trailingComma (c :: tail)
          else failNext .keyNotString (c :: tail)
      else failNext .expectedCommaOrBrace (b :: rest)
where
  /-- One member, after the quote of its key, and the ones after it. -/
  member (fuel : Nat) (acc : Dict Json) (bs : Bytes) : Step (Dict Json) :=
    andThen (readStringBody bs) fun key rest =>
      andThen (readColon rest) fun _ rest =>
        andThen (value rest) fun v rest =>
          readMembers value fuel false (acc.insert key v) rest

/-- A value that may nest `depth` containers. -/
def readValue : Nat → Bytes → Step Json
  | depth, bs =>
    match skipSpace bs with
    | [] => failNext .endInValue []
    | b :: rest =>
      if b = byteOf 'n' then readWord .null "ull".toList rest
      else if b = byteOf 't' then readWord (.bool true) "rue".toList rest
      else if b = byteOf 'f' then readWord (.bool false) "alse".toList rest
      else if b = byteOf '-' then
        andThen (readNumber true rest) fun n rest => .ok (.number n, rest)
      else if (digit? b).isSome then
        andThen (readNumber false (b :: rest)) fun n rest => .ok (.number n, rest)
      else if b = byteOf '"' then
        andThen (readStringBody rest) fun s rest => .ok (.string s, rest)
      else if b = byteOf '[' then
        match depth with
        | 0 => failNext .tooDeep (b :: rest)
        | depth + 1 =>
          andThen (readItems (readValue depth) (rest.length + 1) true [] rest)
            fun items rest => .ok (.array items, rest)
      else if b = byteOf '{' then
        match depth with
        | 0 => failNext .tooDeep (b :: rest)
        | depth + 1 =>
          andThen (readMembers (readValue depth) (rest.length + 1) true [] rest)
            fun members rest => .ok (.object members, rest)
      else failNext .expectedValue (b :: rest)

/-! ## §6. Whole texts -/

/-- The greatest number of nested containers. -/
def depthLimit : Nat := 127

/-- One value with nothing but blanks after it. -/
def readWhole (bs : Bytes) : Except (SyntaxCause × Nat) Json :=
  match readValue depthLimit bs with
  | .error e => .error e
  | .ok (v, rest) =>
    match skipSpace rest with
    | [] => .ok v
    | b :: rest => .error (.trailingCharacters, (b :: rest).length - 1)

/-- The value that the bytes spell. -/
def parseBytes? (bs : Bytes) : Except SyntaxError Json :=
  match readWhole bs with
  | .ok v => .ok v
  | .error (cause, left) =>
    let (line, column) := locate (bs.take (bs.length - left))
    .error ⟨cause, line, column⟩

/-- The value that the text spells. -/
def parse? (s : String) : Except SyntaxError Json := parseBytes? (Utf8.encode s)

end Pageflow.Json
