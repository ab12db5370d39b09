/-
  Pageflow.Text.Redaction — hiding credentials in a line of a log.

  Three marks announce a credential: an authorization header, the word `bearer`, and an
  assignment to a key, token, secret or password.  What follows a mark is replaced; the three
  are applied one after the other, each from the left and without overlap, in any letter case.
-/
import Pageflow.Text.Class

namespace Pageflow.Text

/-! ## §1. Marks -/

/-- Equality with a lower-case letter in any case, the long s and the Kelvin sign included. -/
def foldsTo (letter c : Char) : Bool :=
  c.toLower = letter || (letter = 's' && c = 'ſ') || (letter = 'k' && c = '\u212A')

/-- The rest after a word in any letter case. -/
def dropWord? : List Char → List Char → Option (List Char)
  | [], cs => some cs
  | _ :: _, [] => none
  | p :: ps, c :: cs => if foldsTo p c then dropWord? ps cs else none

/-- The length of the credential at the start. -/
abbrev Measure := List Char → Nat

/-- A character of a token. -/
def isTokenChar (c : Char) : Bool :=
  isWordChar c || c = '-' || c = '.' || c = '=' || c = ':' || c = '/' || c = '+'

/-- The length of a token. -/
def tokenLength : Measure := fun cs => (cs.takeWhile isTokenChar).length

/-- The length of a query value: up to a blank or an ampersand. -/
def valueLength : Measure := fun cs => (cs.takeWhile fun c => !Char.isBlank c && c ≠ '&').length

/-- A credential at the start of `cs`: the lengths of its mark and of itself. -/
abbrev Recogniser := List Char → Option (Nat × Nat)

/-- Recognises `mark` followed by a credential that is not empty. -/
def afterMark (mark : String) (measure : Measure) : Recogniser := fun cs =>
  match dropWord? mark.toList cs with
  | some rest =>
    let n := measure rest
    if n = 0 then none else some (mark.length, n)
  | none => none

/-- The first recogniser that finds a credential. -/
def firstOf (recognisers : List Recogniser) : Recogniser := fun cs =>
  recognisers.findSome? fun r => r cs

/-- The value of an authorization header, its scheme kept. -/
def authorization : Recogniser := firstOf
  [afterMark "authorization: bearer " tokenLength, afterMark "authorization: basic " tokenLength,
    afterMark "authorization: " tokenLength]

/-- What follows the word `bearer`. -/
def bearer : Recogniser := afterMark "bearer " tokenLength

/-- The value of a parameter that is called like a credential. -/
def assignment : Recogniser := firstOf
  (["api_key=", "api-key=", "apikey=", "token=", "secret=", "password="].map
    fun mark => afterMark mark valueLength)

/-! ## §2. Replacing -/

/-- What stands in place of a credential. -/
def redacted : List Char := "<redacted>".toList

/-- Replaces what the recogniser finds, after `skip` characters that are already dealt with. -/
def hideFrom (recognise : Recogniser) : Nat → List Char → List Char
  | _, [] => []
  | skip + 1, _ :: cs => hideFrom recognise skip cs
  | 0, c :: cs =>
    match recognise (c :: cs) with
    | some (mark, n) =>
      (c :: cs).take mark ++ redacted ++ hideFrom recognise (mark + n - 1) cs
    | none => c :: hideFrom recognise 0 cs

/-- Replaces every credential that the recogniser finds. -/
def hide (recognise : Recogniser) (cs : List Char) : List Char := hideFrom recognise 0 cs

/-- A line without credentials. -/
def redact (line : String) : String :=
  String.ofList (hide assignment (hide bearer (hide authorization line.toList)))

end Pageflow.Text
