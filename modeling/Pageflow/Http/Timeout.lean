/-
  Pageflow.Http.Timeout — how long a request may take.

  The time is set by a variable of the environment, in whole seconds.
-/
import Pageflow.Text.Blank

namespace Pageflow.Http

/-! ## §1. Whole numbers -/

/-- Why a text is no 64-bit number. -/
inductive NumeralError where
  | empty
  | invalidDigit
  | tooLarge
deriving DecidableEq, Inhabited

/-- The wording of a refusal. -/
def NumeralError.message : NumeralError → String
  | .empty => "cannot parse integer from empty string"
  | .invalidDigit => "invalid digit found in string"
  | .tooLarge => "number too large to fit in target type"

/-- The greatest number. -/
def numeralLimit : Nat := Nat.pow 2 64 - 1

/-- Digits after the number read so far; the first thing wrong counts. -/
def numeralFrom : Nat → List Char → Except NumeralError Nat
  | acc, [] => .ok acc
  | acc, c :: cs =>
    if !c.isDigit then .error .invalidDigit
    else if acc * 10 + (c.toNat - 48) > numeralLimit then .error .tooLarge
    else numeralFrom (acc * 10 + (c.toNat - 48)) cs

/-- A number, perhaps after a plus sign. -/
def numeral (s : String) : Except NumeralError Nat :=
  match s.toList with
  | [] => .error .empty
  | ['+'] => .error .invalidDigit
  | '+' :: cs => numeralFrom 0 cs
  | cs => numeralFrom 0 cs

/-! ## §2. The variable -/

/-- The name of the variable. -/
def timeoutVariable : String := "DSTK_HTTP_TIMEOUT_SECS"

/-- The time without the variable. -/
def defaultTimeout : Nat := 30

/-- A value that is no time. -/
structure TimeoutError where
  value : String
  cause : NumeralError
deriving DecidableEq, Inhabited

/-- The wording of the refusal. -/
def TimeoutError.message (e : TimeoutError) : String :=
  timeoutVariable ++ " must be a whole number of seconds, got '" ++ e.value ++ "': "
    ++ e.cause.message

/-- The seconds that a value of the variable means; blanks around it do not count. -/
def timeout : Option String → Except TimeoutError Nat
  | none => .ok defaultTimeout
  | some value => (numeral (Text.trim value)).mapError fun cause => ⟨value, cause⟩

end Pageflow.Http
