/-
  Pageflow.Yaml.Cursor — a place in a YAML text.

  The cursor knows the characters that are left, the line and the column.  Lines end at any of
  the five breaks of YAML; a carriage return and a line feed are one break.
-/
import Pageflow.Text.Blank

namespace Pageflow.Yaml

/-! ## §1. Characters -/

/-- A character that ends a line. -/
def isBreak (c : Char) : Bool :=
  c = '\n' || c = '\r' || c.toNat = 0x85 || c.toNat = 0x2028 || c.toNat = 0x2029

/-- A space or a tab. -/
def isBlank (c : Char) : Bool := c = ' ' || c = '\t'

/-- A blank or a break. -/
def isGap (c : Char) : Bool := isBlank c || isBreak c

/-- A character that a text may hold. -/
def isAllowed (c : Char) : Bool :=
  let n := c.toNat
  n = 0x09 || n = 0x0A || n = 0x0D || (0x20 ≤ n && n ≤ 0x7E) || n = 0x85
    || (0xA0 ≤ n && n ≤ 0xD7FF) || (0xE000 ≤ n && n ≤ 0xFFFD) || 0x10000 ≤ n

/-- A character of a name: an ASCII letter or digit, a dash or an underscore. -/
def isNameChar (c : Char) : Bool := c.isAlphanum || c = '-' || c = '_'

/-- The mark of the byte order. -/
def byteOrderMark : Char := '\uFEFF'

/-! ## §2. The cursor -/

/-- A place in a text. -/
structure Cursor where
  rest : List Char
  line : Nat := 0
  column : Nat := 0
  /-- The number of characters before. -/
  index : Nat := 0
deriving Inhabited

namespace Cursor

/-- The next character. -/
def peek? (c : Cursor) : Option Char := c.rest.head?

/-- Whether the next character is `ch`. -/
def at? (c : Cursor) (ch : Char) : Bool := c.peek? = some ch

/-- The character after the next one. -/
def second? (c : Cursor) : Option Char := c.rest[1]?

/-- Whether a character that may be missing is a gap or the end. -/
def isGapOrEnd : Option Char → Bool
  | none => true
  | some ch => isGap ch

/-- Whether a character that may be missing is a break or the end. -/
def isBreakOrEnd : Option Char → Bool
  | none => true
  | some ch => isBreak ch

/-- Past one character that is no break. -/
def next (c : Cursor) : Cursor :=
  { c with rest := c.rest.drop 1, column := c.column + 1, index := c.index + 1 }

/-- Past several characters that are no breaks. -/
def skip (c : Cursor) (n : Nat) : Cursor :=
  { c with rest := c.rest.drop n, column := c.column + n, index := c.index + n }

/-- Past one break. -/
def nextLine (c : Cursor) : Cursor :=
  match c.rest with
  | '\r' :: '\n' :: rest => ⟨rest, c.line + 1, 0, c.index + 2⟩
  | _ :: rest => ⟨rest, c.line + 1, 0, c.index + 1⟩
  | [] => c

/-- The break at the cursor as it is kept: the two separators of Unicode stay. -/
def lineBreak (c : Cursor) : List Char :=
  match c.peek? with
  | some ch => if ch.toNat = 0x2028 || ch.toNat = 0x2029 then [ch] else ['\n']
  | none => []

/-- The characters up to the first outside a class, and the place after them. -/
def span (c : Cursor) (p : Char → Bool) : List Char × Cursor :=
  let taken := c.rest.takeWhile p
  (taken, c.skip taken.length)

/-- Past the characters of a class. -/
def skipWhile (c : Cursor) (p : Char → Bool) : Cursor := (c.span p).2

/-- Whether three equal characters and a gap stand here at the start of a line. -/
def atMarker (c : Cursor) (ch : Char) : Bool :=
  c.column = 0 && c.rest.take 3 = [ch, ch, ch] && isGapOrEnd c.rest[3]?

/-- Whether a document starts or ends here. -/
def atDocumentMarker (c : Cursor) : Bool := c.atMarker '-' || c.atMarker '.'

end Cursor

end Pageflow.Yaml
