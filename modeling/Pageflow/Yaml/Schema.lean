/-
  Pageflow.Yaml.Schema — what the texts of scalars mean.

  A plain scalar is null, a truth value, an integer or a double if it is written like one, else a
  text.  A run of digits that starts with a zero is a text.  A tag of the core schema asks for one
  kind of value.
-/
import Pageflow.Json.Selection
import Pageflow.Yaml.Cursor

namespace Pageflow.Yaml

/-! ## §1. Words -/

/-- The ways to write null. -/
def isNullWord (s : String) : Bool := ["null", "Null", "NULL", "~"].contains s

/-- A truth value. -/
def truth? (s : String) : Option Bool :=
  if ["true", "True", "TRUE"].contains s then some true
  else if ["false", "False", "FALSE"].contains s then some false
  else none

/-! ## §2. Integers -/

/-- The value of a digit in a base up to 16. -/
def digitIn? (base : Nat) (c : Char) : Option Nat :=
  let n := c.toNat
  let d := if c.isDigit then n - 48 else if 97 ≤ n ∧ n ≤ 102 then n - 87
    else if 65 ≤ n ∧ n ≤ 70 then n - 55 else base
  if d < base then some d else none

/-- The value of digits, at least one. -/
def natural? (base : Nat) (cs : List Char) : Option Nat :=
  if cs.isEmpty then none
  else cs.foldl (fun acc c => do return (← acc) * base + (← digitIn? base c)) (some 0)

/-- The base that a mark announces, and the digits after it. -/
def marked? : List Char → Option (Nat × List Char)
  | '0' :: 'x' :: cs => some (16, cs)
  | '0' :: 'o' :: cs => some (8, cs)
  | '0' :: 'b' :: cs => some (2, cs)
  | _ => none

/-- The text after a sign. -/
def unsigned : List Char → List Char
  | '+' :: cs | '-' :: cs => cs
  | cs => cs

/-- Whether a text is digits that start with a superfluous zero. -/
def isPaddedNumber (cs : List Char) : Bool :=
  match unsigned cs with
  | '0' :: c :: cs => (c :: cs).all Char.isDigit
  | _ => false

/-- The magnitude of an integer after its sign. -/
def magnitude? (cs : List Char) : Option Nat :=
  match (marked? cs).bind fun (base, digits) => natural? base digits with
  | some n => some n
  | none => if isPaddedNumber cs then none else natural? 10 cs

/-- An integer. -/
def integer? : List Char → Option Int
  | '-' :: cs => (magnitude? cs).map fun n => -(n : Int)
  | '+' :: cs => (magnitude? cs).map fun n => (n : Int)
  | cs => (magnitude? cs).map fun n => (n : Int)

/-- The integers that a value can hold. -/
def fitsWord (n : Int) : Bool := -((Nat.pow 2 63 : Nat) : Int) ≤ n && n < Nat.pow 2 64

/-- The integers that are integers at all; beyond them a text of digits is a double. -/
def fitsDoubleWord (n : Int) : Bool := -((Nat.pow 2 127 : Nat) : Int) ≤ n && n < Nat.pow 2 128

/-! ## §3. Doubles -/

/-- A run of digits. -/
def digitRun (cs : List Char) : List Char × List Char := cs.span Char.isDigit

/-- An exponent after its mark. -/
def exponent? : List Char → Option Int
  | [] => some 0
  | c :: cs =>
    if c = 'e' || c = 'E' then
      match cs with
      | '-' :: digits => (natural? 10 digits).map fun n => -(n : Int)
      | '+' :: digits => (natural? 10 digits).map fun n => (n : Int)
      | digits => (natural? 10 digits).map fun n => (n : Int)
    else none

/-- Decimal exponents beyond this one mean zero or no finite number. -/
def exponentBound : Int := 400

/-- The double nearest to a decimal, if it is finite. -/
def double? (negative : Bool) (digits : List Char) (exponent : Int) : Option Binary64 :=
  let significand := (natural? 10 digits).getD 0
  let zero := if negative then Binary64.zero.neg else Binary64.zero
  if significand = 0 then some zero
  else
    let order := exponent + (Nat.toDigits 10 significand).length
    if order > exponentBound then none
    else if order < -exponentBound then some zero
    else
      let x := Binary64.ofDecimal negative significand exponent
      if x.isFinite then some x else none

/-- A finite double, after its sign. -/
def decimal? (negative : Bool) (cs : List Char) : Option Binary64 :=
  let (whole, rest) := digitRun cs
  let (fraction, rest) := match rest with
    | '.' :: rest => digitRun rest
    | rest => ([], rest)
  if whole.isEmpty && fraction.isEmpty then none
  else (exponent? rest).bind fun e => double? negative (whole ++ fraction) (e - fraction.length)

/-- What a double is: a finite number, or none that a value can hold. -/
inductive Double where
  | finite (x : Binary64)
  | other

/-- A double. -/
def readDouble? (s : String) : Option Double :=
  if [".inf", ".Inf", ".INF", "+.inf", "+.Inf", "+.INF", "-.inf", "-.Inf", "-.INF", ".nan", ".NaN",
      ".NAN"].contains s then some .other
  else
    match s.toList with
    | '-' :: cs => (decimal? true cs).map .finite
    | '+' :: cs => (decimal? false cs).map .finite
    | cs => (decimal? false cs).map .finite

/-- A double as a value; what is no number is null. -/
def Double.toJson : Double → Json
  | .finite x => .number (.binary x)
  | .other => .null

/-! ## §4. Scalars -/

/-- An integer as a value; one that is too large is refused. -/
def integerJson? (n : Int) : Option Json := if fitsWord n then some (.integer n) else none

/-- The integer that a text spells, if it is not too large to be one. -/
def wordOrLarger? (s : String) : Option Int :=
  (integer? s.toList).filter fitsDoubleWord

/-- The value of a plain scalar. -/
def plainJson? (s : String) : Option Json :=
  if s.isEmpty || isNullWord s then some .null
  else
    match truth? s, wordOrLarger? s with
    | some b, _ => some (.bool b)
    | none, some n => integerJson? n
    | none, none =>
      if isPaddedNumber s.toList then some (.string s)
      else some (((readDouble? s).map Double.toJson).getD (.string s))

/-- Where the tags of the core schema are. -/
def corePlace : String := "tag:yaml.org,2002:"

/-- The value of a scalar with this tag. -/
def scalarJson? (tag : Option String) (isPlain : Bool) (s : String) : Option Json :=
  match tag with
  | none => if isPlain then plainJson? s else some (.string s)
  | some tag =>
    if tag.toList.head? = some '!' then none
    else if tag = corePlace ++ "bool" then (truth? s).map .bool
    else if tag = corePlace ++ "int" then (wordOrLarger? s).bind integerJson?
    else if tag = corePlace ++ "float" then (readDouble? s).map Double.toJson
    else if tag = corePlace ++ "null" then if isNullWord s then some .null else none
    else some (.string s)

end Pageflow.Yaml
