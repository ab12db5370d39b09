/-
  Pageflow.Json.Pointer — JSON pointers.

  A pointer is empty or a sequence of tokens, each after a slash; in a token `~1` stands for a
  slash and `~0` for a tilde.  A token names a member of an object or the index of an item.

  Main definition: `Json.resolve?`.
-/
import Pageflow.Json.Selection

namespace Pageflow.Json

/-- Reads the escapes of a token. -/
def unescapeToken : List Char → List Char
  | '~' :: '1' :: rest => '/' :: unescapeToken rest
  | '~' :: '0' :: rest => '~' :: unescapeToken rest
  | c :: rest => c :: unescapeToken rest
  | [] => []

/-- The index that a token names: decimal digits without a sign or superfluous zeros. -/
def tokenIndex? (token : List Char) : Option Nat :=
  match token with
  | ['0'] => some 0
  | '0' :: _ | '+' :: _ => none
  | _ => indexOf? (String.ofList token)

/-- The part of a value that one token names. -/
def tokenStep (value : Json) (token : List Char) : Option Json :=
  match value with
  | .object members => Dict.get? members (String.ofList token)
  | .array items => (tokenIndex? token).bind fun i => items[i]?
  | _ => none

/-- The part of a value that the tokens name, one after the other. -/
def tokenWalk (value : Json) : List (List Char) → Option Json
  | [] => some value
  | token :: rest => (value.tokenStep token).bind fun part => part.tokenWalk rest

/-- The part of a value that a pointer names. -/
def resolve? (value : Json) (pointer : String) : Option Json :=
  match pointer.toList with
  | [] => some value
  | '/' :: cs => value.tokenWalk ((Text.splitAt '/' cs).map unescapeToken)
  | _ => none

end Pageflow.Json
