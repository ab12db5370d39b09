/-
  Pageflow.Url.Host — the hosts of addresses.

  The host of a web address is a domain name, an address of four bytes in any of its spellings,
  or one of eight 16-bit pieces between brackets.  Domain names are written in lower-case ASCII;
  other scripts are mapped and encoded label by label.  The host of any other address is kept as
  it is written.

  Main definitions: `Host.parse`, `Host.parseOpaque` and `Host.text`.
-/
import Pageflow.Text.Case
import Pageflow.Text.Percent
import Pageflow.Url.Punycode

namespace Pageflow.Url

/-! ## §1. Types -/

/-- Why a text is no address. -/
inductive ParseError where
  | emptyHost
  | invalidDomainName
  | invalidPort
  | invalidIpv4
  | invalidIpv6
  | forbiddenCharacter
  | withoutBase
  | opaqueBase
deriving DecidableEq, Inhabited

/-- The wording of a parse error. -/
def ParseError.message : ParseError → String
  | .emptyHost => "empty host"
  | .invalidDomainName => "invalid international domain name"
  | .invalidPort => "invalid port number"
  | .invalidIpv4 => "invalid IPv4 address"
  | .invalidIpv6 => "invalid IPv6 address"
  | .forbiddenCharacter => "invalid domain character"
  | .withoutBase => "relative URL without a base"
  | .opaqueBase => "relative URL with a cannot-be-a-base base"

/-- A host. -/
inductive Host where
  | domain (name : String)
  | ipv4 (address : Nat)
  | ipv6 (pieces : List Nat)
deriving DecidableEq, Inhabited

namespace Host

/-! ## §2. Numbers -/

/-- The value of digits in a base up to 16. -/
def numeral? (base : Nat) (digits : List Char) : Option Nat :=
  digits.foldl (fun acc c => do
    let n ← acc
    let d ← Percent.digitValue? (UInt8.ofNat (if c.toNat < 128 then c.toNat else 0))
    if d < base then some (n * base + d) else none) (some 0)

/-- One number of a four-byte address: decimal, octal after `0`, hexadecimal after `0x`. -/
def ipv4Number? : List Char → Option Nat
  | [] => none
  | '0' :: 'x' :: digits | '0' :: 'X' :: digits => numeral? 16 digits
  | '0' :: digit :: digits => numeral? 8 (digit :: digits)
  | digits => numeral? 10 digits

/-- The pieces between dots; one empty piece at the end does not count. -/
def dotted (name : List Char) : List (List Char) :=
  match (Text.splitAt '.' name).reverse with
  | [] :: piece :: pieces => (piece :: pieces).reverse
  | pieces => pieces.reverse

/-- Whether a name ends in a number and so has to be an address. -/
def endsInNumber (name : List Char) : Bool :=
  match (dotted name).getLast? with
  | none => false
  | some last => (!last.isEmpty && last.all Char.isDigit) || (ipv4Number? last).isSome

/-- The address of numbers: the last one fills the bytes that the others leave. -/
def ipv4OfNumbers? (numbers : List Nat) : Option Nat :=
  match numbers.reverse with
  | [] => none
  | last :: front =>
    if front.length ≤ 3 ∧ front.all (· ≤ 255) ∧ last < Nat.pow 256 (4 - front.length) then
      let high := front.reverse.foldl (fun acc n => acc * 256 + n) 0
      some (high * Nat.pow 256 (4 - front.length) + last)
    else none

/-- A four-byte address in any of its spellings. -/
def ipv4? (name : List Char) : Option Nat := do
  ipv4OfNumbers? (← (dotted name).mapM ipv4Number?)

/-- A four-byte address inside a longer one: four decimal numbers without superfluous zeros. -/
def strictIpv4? (name : List Char) : Option Nat := do
  let numbers ← (Text.splitAt '.' name).mapM fun piece =>
    match piece with
    | [] => none
    | '0' :: _ :: _ => none
    | piece => numeral? 10 piece
  if numbers.length = 4 then ipv4OfNumbers? numbers else none

/-- A piece of one to four hexadecimal digits. -/
def piece? (digits : List Char) : Option Nat :=
  if digits.isEmpty || 4 < digits.length then none else numeral? 16 digits

/-- Pieces between colons; the last may be a four-byte address. -/
def pieces? : List (List Char) → Option (List Nat)
  | [] => some []
  | [last] =>
    if last.contains '.' then (strictIpv4? last).map fun n => [n / 65536, n % 65536]
    else (piece? last).map fun n => [n]
  | digits :: rest => do
    let n ← piece? digits
    return n :: (← pieces? rest)

/-- What stands before and after the first two colons in a row. -/
def cutAtGap? : List Char → Option (List Char × List Char)
  | ':' :: ':' :: rest => some ([], rest)
  | c :: rest => (cutAtGap? rest).map fun (before, after) => (c :: before, after)
  | [] => none

/-- The pieces of one side of a gap. -/
def side? (cs : List Char) : Option (List Nat) :=
  if cs.isEmpty then some [] else pieces? (Text.splitAt ':' cs)

/-- An address of eight pieces; a gap stands for the zeros that are missing. -/
def ipv6? (cs : List Char) : Option (List Nat) :=
  match cutAtGap? cs with
  | some (before, after) => do
    if before.contains '.' then none
    let left ← side? before
    let right ← side? after
    if left.length + right.length ≤ 7 then
      some (left ++ List.replicate (8 - left.length - right.length) 0 ++ right)
    else none
  | none => do
    let all ← pieces? (Text.splitAt ':' cs)
    if all.length = 8 then some all else none

/-! ## §3. Domain names -/

/-- ASCII characters that no domain name has. -/
def isForbiddenInDomain (c : Char) : Bool :=
  c.toNat ≤ 32 || c.toNat = 127 || "%#/:<>?@[\\]^|".toList.contains c

/-- Characters beyond ASCII that no domain name has: controls, marks of direction, the sign for
what could not be read, private characters and those that are none. -/
def isOutsideNames (c : Char) : Bool :=
  let n := c.toNat
  (0x80 ≤ n && n ≤ 0x9F) || n = 0x200E || n = 0x200F || (0x202A ≤ n && n ≤ 0x202E)
    || (0x2066 ≤ n && n ≤ 0x206F) || (0xE000 ≤ n && n ≤ 0xF8FF) || (0xFDD0 ≤ n && n ≤ 0xFDEF)
    || (0xFFF9 ≤ n && n ≤ 0xFFFD) || 0xFFFE ≤ n % 0x10000 || 0xF0000 ≤ n

/-- A character of a domain name as it is compared: letters in lower case, wide forms narrow,
every blank a space, every full stop a dot, and nothing for what has no width. -/
def mapDomainChar (c : Char) : List Char :=
  let n := c.toNat
  if n < 128 then [c.toLower]
  else if n = 0xAD ∨ n = 0x200B ∨ n = 0x2060 ∨ n = 0xFEFF ∨ (0xFE00 ≤ n ∧ n ≤ 0xFE0F) then []
  else if n = 0x3002 ∨ n = 0xFF0E ∨ n = 0xFF61 then ['.']
  else if Char.isBlank c then [' ']
  else if 0xFF01 ≤ n ∧ n ≤ 0xFF5E then [(Char.ofNat (n - 0xFEE0)).toLower]
  else [Text.lowerChar c]

/-- The mark of an encoded label. -/
def encodedMark : List Char := "xn--".toList

/-- Whether a character may stand in a label as it is. -/
def isSettled (c : Char) : Bool := mapDomainChar c = [c] && !isOutsideNames c

/-- A label in ASCII; an encoded label has to spell something beyond ASCII, in the form in which
names are compared. -/
def asciiLabel? (label : List Char) : Option (List Char) :=
  if label.all fun c => c.toNat < 128 then
    match Text.dropStart? encodedMark label with
    | none => some label
    | some code =>
      (Punycode.decode? code).bind fun spelled =>
        if (spelled.all fun c => c.toNat < 128) || !spelled.all isSettled then none
        else some label
  else if label.any isOutsideNames then none
  else some (encodedMark ++ Punycode.encode label)

/-- The labels with dots between them. -/
def joinLabels (labels : List (List Char)) : List Char := (labels.intersperse ['.']).flatten

/-- A domain name in ASCII. -/
def domain? (name : List Char) : Option (List Char) := do
  let labels ← (Text.splitAt '.' (name.flatMap mapDomainChar)).mapM asciiLabel?
  let joined := joinLabels labels
  if joined.any isForbiddenInDomain then none else some joined

/-! ## §4. Hosts -/

/-- An address between brackets, after the opening one. -/
def parseBracketed (inside : List Char) : Except ParseError Host :=
  match inside.reverse with
  | ']' :: back =>
    match ipv6? back.reverse with
    | some pieces => .ok (.ipv6 pieces)
    | none => .error .invalidIpv6
  | _ => .error .invalidIpv6

/-- The host of a web address. -/
def parse : List Char → Except ParseError Host
  | '[' :: inside => parseBracketed inside
  | cs =>
    match Utf8.decode? (Percent.decodeBytes (Utf8.encode (String.ofList cs))) with
    | none => .error .invalidDomainName
    | some decoded =>
      match domain? decoded.toList with
      | none => .error .invalidDomainName
      | some [] => .error .emptyHost
      | some name =>
        if endsInNumber name then
          match ipv4? name with
          | some address => .ok (.ipv4 address)
          | none => .error .invalidIpv4
        else .ok (.domain (String.ofList name))

/-- Characters that no host has. -/
def isForbidden (c : Char) : Bool := "\x00\t\n\r #/:<>?@[\\]^|".toList.contains c

/-- Whether a byte is an ASCII character that can be seen, or a space. -/
def isPlain (b : UInt8) : Bool := 32 ≤ b && b < 127

/-- The host of any other address. -/
def parseOpaque : List Char → Except ParseError Host
  | '[' :: inside => parseBracketed inside
  | cs =>
    if cs.any isForbidden then .error .forbiddenCharacter
    else .ok (.domain (Percent.encode isPlain (String.ofList cs)))

/-! ## §5. Text -/

/-- A four-byte address. -/
def ipv4Text (n : Nat) : String :=
  s!"{n / 16777216 % 256}.{n / 65536 % 256}.{n / 256 % 256}.{n % 256}"

/-- The number of zeros at the front. -/
def leadingZeros (pieces : List Nat) : Nat := (pieces.takeWhile (· = 0)).length

/-- The first longest run of zeros: where it starts and how long it is. -/
def longestGap : Nat → List Nat → Nat × Nat
  | _, [] => (0, 0)
  | place, n :: rest =>
    let here := leadingZeros (n :: rest)
    let (later, length) := longestGap (place + 1) rest
    if length ≤ here then (place, here) else (later, length)

/-- Pieces in hexadecimal with colons between them. -/
def hexPieces (pieces : List Nat) : String :=
  Text.join ":" (pieces.map fun n => String.ofList (Nat.toDigits 16 n))

/-- An address of eight pieces; its first longest run of zeros is left out if it has two. -/
def ipv6Text (pieces : List Nat) : String :=
  let (start, length) := longestGap 0 pieces
  if 2 ≤ length then
    hexPieces (pieces.take start) ++ "::" ++ hexPieces (pieces.drop (start + length))
  else hexPieces pieces

/-- The text of a host. -/
def text : Host → String
  | .domain name => name
  | .ipv4 address => ipv4Text address
  | .ipv6 pieces => "[" ++ ipv6Text pieces ++ "]"

end Host

end Pageflow.Url
