/-
  Pageflow.Text.Quoted — texts, lists and options spelled out for a log.

  A quoted text shows every character: quotes and backslashes are escaped, line breaks and tabs
  get their letters, and whatever has no visible form of its own is written by its code point.
-/
import Pageflow.Text.Class
import Pageflow.Text.UnprintableTable

namespace Pageflow.Text

/-- Whether a character is written by its code point. -/
def isUnprintable (c : Char) : Bool :=
  let n := c.toNat
  if n < 128 then n < 32 || n = 127 else inRanges unprintableRanges n

/-- A code point in lower-case hexadecimal digits between braces. -/
def codePoint (c : Char) : List Char :=
  ['\\', 'u', '{'] ++ Nat.toDigits 16 c.toNat ++ ['}']

/-- A character inside quotes. -/
def quoteChar (c : Char) : List Char :=
  if c = '"' then ['\\', '"']
  else if c = '\\' then ['\\', '\\']
  else if c = '\n' then ['\\', 'n']
  else if c = '\r' then ['\\', 'r']
  else if c = '\t' then ['\\', 't']
  else if c.toNat = 0 then ['\\', '0']
  else if isUnprintable c then codePoint c
  else [c]

/-- A text between quotes. -/
def quoted (s : String) : String := "\"" ++ String.ofList (s.toList.flatMap quoteChar) ++ "\""

/-- A list of quoted texts between brackets. -/
def quotedList (l : List String) : String := "[" ++ join ", " (l.map quoted) ++ "]"

/-- A quoted text that may be missing. -/
def quotedOption : Option String → String
  | some s => "Some(" ++ quoted s ++ ")"
  | none => "None"

end Pageflow.Text
