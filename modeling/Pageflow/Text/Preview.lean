/-
  Pageflow.Text.Preview — short forms of long texts.

  A preview turns each run of line breaks and tabs into one space and stops, with an ellipsis,
  when the bytes written reach the limit.
-/
import Pageflow.Text.Blank
import Pageflow.Text.Utf8

namespace Pageflow.Text

/-- A line break or a tab. -/
def isBreak (c : Char) : Bool := c = '\n' || c = '\r' || c = '\t'

/-- The collapsed characters after `written` bytes; `spaced` says whether the last one written
was a space. -/
def collapse (limit : Nat) : Nat → Bool → List Char → List Char
  | _, _, [] => []
  | written, spaced, c :: cs =>
    if limit ≤ written then ['.', '.', '.']
    else if isBreak c then
      if spaced then collapse limit written true cs
      else ' ' :: collapse limit (written + 1) true cs
    else c :: collapse limit (written + c.utf8Size) (c = ' ') cs

/-- The preview of a text. -/
def preview (text : String) (limit : Nat) : String :=
  if isBlank text then "<empty>"
  else String.ofList (stripWhile Char.isBlank (collapse limit 0 false text.toList))

end Pageflow.Text
