/-
  Pageflow.Json.Printer — JSON text.

  Compact text has no blank; indented text puts every item and member on a line of its own, two
  spaces deeper than its container.  A double is written with the fewest digits that read back:
  positionally for decimal exponents from -5 to 15, else with a signed exponent.
-/
import Pageflow.Json.Value
import Pageflow.Decimal.Shortest

namespace Pageflow.Json

/-! ## §1. Numbers -/

/-- The least decimal exponent of positional notation. -/
def leastPositional : Int := -5

/-- The greatest decimal exponent of positional notation. -/
def greatestPositional : Int := 15

/-- A double: always with a point or an exponent. -/
def printBinary (x : Binary64) : String :=
  let sign := if x.isNegative then "-" else ""
  let ⟨digits, exponent⟩ := x.shortest
  let ds := Nat.toDigits 10 digits
  let text :=
    if leastPositional ≤ exponent ∧ exponent ≤ greatestPositional then
      if exponent < 0 then
        '0' :: '.' :: (List.replicate (-exponent - 1).toNat '0' ++ ds)
      else
        let whole := exponent.toNat + 1
        let padded := ds ++ List.replicate (whole - ds.length) '0'
        let fraction := padded.drop whole
        padded.take whole ++ '.' :: (if fraction.isEmpty then ['0'] else fraction)
    else
      let fraction := ds.drop 1
      let point := if fraction.isEmpty then [] else '.' :: fraction
      let mark := if exponent < 0 then ['e', '-'] else ['e', '+']
      ds.take 1 ++ point ++ mark ++ Nat.toDigits 10 exponent.natAbs
  sign ++ String.ofList text

/-- A number: integers in decimal, doubles as above, non-finite ones as `null`. -/
def printNumber : Number → String
  | .integer n => toString n
  | .binary x => if x.isFinite then printBinary x else "null"

/-! ## §2. Strings -/

/-- One lower-case hexadecimal digit. -/
def hexDigit (n : Nat) : Char := Nat.digitChar n

/-- A character inside a string. -/
def escapeChar (c : Char) : List Char :=
  if c = '"' then ['\\', '"']
  else if c = '\\' then ['\\', '\\']
  else if c = '\x08' then ['\\', 'b']
  else if c = '\t' then ['\\', 't']
  else if c = '\n' then ['\\', 'n']
  else if c = '\x0c' then ['\\', 'f']
  else if c = '\r' then ['\\', 'r']
  else if c.toNat < 32 then
    ['\\', 'u', '0', '0', hexDigit (c.toNat / 16), hexDigit (c.toNat % 16)]
  else [c]

/-- A string with its quotes. -/
def quote (s : String) : String :=
  "\"" ++ String.ofList (s.toList.flatMap escapeChar) ++ "\""

/-! ## §3. Compact text -/

mutual

/-- The text of a value without blanks. -/
def print : Json → String
  | .null => "null"
  | .bool true => "true"
  | .bool false => "false"
  | .number n => printNumber n
  | .string s => quote s
  | .array items => "[" ++ printItems items ++ "]"
  | .object members => "\x7b" ++ printMembers members ++ "\x7d"

/-- Items with commas between them. -/
def printItems : List Json → String
  | [] => ""
  | [v] => print v
  | v :: rest => print v ++ "," ++ printItems rest

/-- Members with commas between them. -/
def printMembers : List (String × Json) → String
  | [] => ""
  | [(k, v)] => quote k ++ ":" ++ print v
  | (k, v) :: rest => quote k ++ ":" ++ print v ++ "," ++ printMembers rest

end

/-- A value inside another text: strings bare, all else as compact JSON. -/
def toText : Json → String
  | .string s => s
  | other => other.print

/-! ## §4. Indented text -/

/-- A new line at the given depth. -/
def newline (depth : Nat) : String := "\n" ++ String.ofList (List.replicate (2 * depth) ' ')

mutual

/-- The indented text of a value whose first line stands at `depth`. -/
def printIndented (depth : Nat) : Json → String
  | .array [] => "[]"
  | .array items => "[" ++ printIndentedItems (depth + 1) items ++ newline depth ++ "]"
  | .object [] => "\x7b\x7d"
  | .object members =>
    "\x7b" ++ printIndentedMembers (depth + 1) members ++ newline depth ++ "\x7d"
  | .null => "null"
  | .bool true => "true"
  | .bool false => "false"
  | .number n => printNumber n
  | .string s => quote s

/-- Items on lines of their own. -/
def printIndentedItems (depth : Nat) : List Json → String
  | [] => ""
  | [v] => newline depth ++ printIndented depth v
  | v :: rest => newline depth ++ printIndented depth v ++ "," ++ printIndentedItems depth rest

/-- Members on lines of their own. -/
def printIndentedMembers (depth : Nat) : List (String × Json) → String
  | [] => ""
  | [(k, v)] => newline depth ++ quote k ++ ": " ++ printIndented depth v
  | (k, v) :: rest =>
    newline depth ++ quote k ++ ": " ++ printIndented depth v ++ ","
      ++ printIndentedMembers depth rest

end

/-- The indented text of a value. -/
def pretty (value : Json) : String := printIndented 0 value

end Pageflow.Json
