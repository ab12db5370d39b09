/-
  Pageflow.Yaml.Lexeme — names, tags and scalars of YAML.

  Each reader starts at the cursor and gives what it read and where it ended, or nothing if the
  text is not well formed.  A line break inside a scalar becomes a space; blank lines after it
  become line breaks.

  Main definitions: `plain?`, `quoted?` and `block?`.
-/
import Pageflow.Text.Percent
import Pageflow.Yaml.Cursor

namespace Pageflow.Yaml

/-! ## §1. Folding -/

/-- A break and the breaks of the blank lines after it, as they count inside a scalar. -/
def fold (first : List Char) (blank : List Char) : List Char :=
  if first.head? = some '\n' then (if blank.isEmpty then [' '] else blank) else first ++ blank

/-- The gap between two lines of a scalar. -/
structure Gap where
  /-- The blanks, as long as there is no break. -/
  blanks : List Char := []
  /-- The first break. -/
  first : List Char := []
  /-- The breaks of blank lines. -/
  later : List Char := []
  /-- Whether there is a break. -/
  broken : Bool := false

/-- What a gap contributes to a scalar. -/
def Gap.text (g : Gap) : List Char := if g.broken then fold g.first g.later else g.blanks

/-- Reads a gap.  `tabs` says in which columns after a break a tab is allowed. -/
def readGap (tabs : Nat → Bool) : Nat → Gap → Cursor → Option (Gap × Cursor)
  | 0, g, c => some (g, c)
  | fuel + 1, g, c =>
    match c.peek? with
    | none => some (g, c)
    | some ch =>
      if isBlank ch then
        if g.broken && ch = '\t' && !tabs c.column then none
        else
          let g := if g.broken then g else { g with blanks := g.blanks ++ [ch] }
          readGap tabs fuel g c.next
      else if isBreak ch then
        let g :=
          if g.broken then { g with later := g.later ++ c.lineBreak }
          else { g with blanks := [], first := c.lineBreak, broken := true }
        readGap tabs fuel g c.nextLine
      else some (g, c)

/-! ## §2. Names and tags -/

/-- The name of an anchor or alias; it has to end at a gap or an indicator. -/
def name? (c : Cursor) : Option (String × Cursor) :=
  let (name, after) := c.span isNameChar
  let ends := match after.peek? with
    | none => true
    | some ch => isGap ch || ['?', ':', ',', ']', '}', '%', '@', '`'].contains ch
  if name.isEmpty || !ends then none else some (String.ofList name, after)

/-- A tag: a handle and what follows it. -/
structure Tag where
  handle : String
  suffix : String
deriving DecidableEq, Inhabited

/-- A character of a tag. -/
def isTagChar (c : Char) : Bool :=
  isNameChar c
    || [';', '/', '?', ':', '@', '&', '=', '+', '$', '.', '%', '!', '~', '*', '\'', '(',
      ')'].contains c

/-- The value of hexadecimal digits. -/
def hexValue? (digits : List Char) : Option Nat :=
  digits.foldl (fun acc ch => do
    let n ← acc
    if ch.toNat < 128 then
      let d ← Percent.digitValue? (UInt8.ofNat ch.toNat)
      return n * 16 + d
    else none) (some 0)

/-- Whether each percent sign starts an escape. -/
def allEscapes : List Char → Bool
  | [] => true
  | '%' :: rest => (hexValue? (rest.take 2)).isSome && 2 ≤ rest.length && allEscapes rest
  | _ :: rest => allEscapes rest

/-- Characters of a tag with their escapes read. -/
def tagText? (cs : List Char) : Option String :=
  if allEscapes cs then Utf8.decode? (Percent.decodeBytes (Utf8.encode (String.ofList cs)))
  else none

/-- A tag, after its exclamation mark. -/
def tag? (c : Cursor) : Option (Tag × Cursor) :=
  match c.peek? with
  | some '<' => do
    let (uri, after) := c.next.span fun ch => isTagChar ch || [',', '[', ']'].contains ch
    if uri.isEmpty || !after.at? '>' then none
    else some (⟨"", ← tagText? uri⟩, after.next)
  | _ => do
    let (name, after) := c.span isNameChar
    if after.at? '!' then
      let (suffix, after) := after.next.span isTagChar
      if suffix.isEmpty then none
      else some (⟨String.ofList ('!' :: name ++ ['!']), ← tagText? suffix⟩, after)
    else
      let (more, after) := after.span isTagChar
      if name.isEmpty && more.isEmpty then some (⟨"", "!"⟩, after)
      else some (⟨"!", ← tagText? (name ++ more)⟩, after)

/-! ## §3. Plain scalars -/

/-- Characters that structure collections in one line. -/
def isFlowIndicator (c : Char) : Bool := [',', '[', ']', '{', '}'].contains c

/-- The characters of a plain scalar up to a gap or its end. -/
def plainRun : Bool → List Char → List Char
  | _, [] => []
  | flow, ch :: rest =>
    if isGap ch || (ch = ':' && Cursor.isGapOrEnd rest.head?)
        || (flow && isFlowIndicator ch) then []
    else ch :: plainRun flow rest

/-- Whether a run holds a colon before an indicator, which nothing allows. -/
def hasStrayColon (run : List Char) (after : Option Char) : Bool :=
  (run.zip (run.tail.map some ++ [after])).any fun (ch, following) =>
    ch = ':' && following.any fun f => isFlowIndicator f || f = '?'

/-- Whether a plain scalar goes on here. -/
def plainGoesOn (flow : Bool) (indent : Nat) (broken : Bool) (c : Cursor) : Bool :=
  !(broken && !flow && c.column < indent) && !c.atDocumentMarker && !c.at? '#'

/-- A plain scalar whose lines are indented by at least `indent`; the result also says whether it
ends after a break. -/
def plainFrom (flow : Bool) (indent : Nat) : Nat → List Char → Gap → Cursor →
    Option (List Char × Bool × Cursor)
  | 0, acc, g, c => some (acc, g.broken, c)
  | fuel + 1, acc, g, c =>
    if !plainGoesOn flow indent g.broken c then some (acc, g.broken, c)
    else
      let run := plainRun flow c.rest
      let after := c.skip run.length
      if flow && hasStrayColon run after.peek? then none
      else
        let ends := match after.peek? with
          | none => true
          | some ch => !isGap ch
        if run.isEmpty then some (acc, g.broken, c)
        else
          let acc := acc ++ g.text ++ run
          if ends then some (acc, false, after)
          else
            (readGap (fun column => indent ≤ column) after.rest.length {} after).bind
              fun (g, c) => plainFrom flow indent fuel acc g c

/-- A plain scalar. -/
def plain? (flow : Bool) (indent : Nat) (c : Cursor) : Option (String × Bool × Cursor) :=
  (plainFrom flow indent (c.rest.length + 1) [] {} c).map fun (cs, broken, c) =>
    (String.ofList cs, broken, c)

/-! ## §4. Quoted scalars -/

/-- The character written by a number of hexadecimal digits. -/
def hexChar? (count : Nat) (c : Cursor) : Option (Char × Cursor) := do
  let digits := c.rest.take count
  if digits.length ≠ count then none
  let n ← hexValue? digits
  if (0xD800 ≤ n ∧ n ≤ 0xDFFF) ∨ 0x10FFFF < n then none
  else some (Char.ofNat n, c.skip count)

/-- The character after a backslash. -/
def escape? (c : Cursor) : Option (Char × Cursor) :=
  let simple (code : Nat) : Option (Char × Cursor) := some (Char.ofNat code, c.next)
  match c.peek? with
  | some '0' => simple 0
  | some 'a' => simple 7
  | some 'b' => simple 8
  | some 't' | some '\t' => simple 9
  | some 'n' => simple 10
  | some 'v' => simple 11
  | some 'f' => simple 12
  | some 'r' => simple 13
  | some 'e' => simple 27
  | some ' ' => simple 32
  | some '"' => simple 34
  | some '/' => simple 47
  | some '\\' => simple 92
  | some 'N' => simple 0x85
  | some '_' => simple 0xA0
  | some 'L' => simple 0x2028
  | some 'P' => simple 0x2029
  | some 'x' => hexChar? 2 c.next
  | some 'u' => hexChar? 4 c.next
  | some 'U' => hexChar? 8 c.next
  | _ => none

/-- The characters of a quoted scalar up to a gap or the closing quote; the result also says
whether an escaped break ended them. -/
def quotedRun (quote : Char) : Nat → List Char → Cursor → Option (List Char × Bool × Cursor)
  | 0, acc, c => some (acc, false, c)
  | fuel + 1, acc, c =>
    match c.peek? with
    | none => some (acc, false, c)
    | some ch =>
      if isGap ch then some (acc, false, c)
      else if ch = quote then
        if quote = '\'' && c.second? = some '\'' then
          quotedRun quote fuel (acc ++ ['\'']) (c.skip 2)
        else some (acc, false, c)
      else if quote = '"' && ch = '\\' then
        match c.second? with
        | none => none
        | some following =>
          if isBreak following then some (acc, true, c.next.nextLine)
          else (escape? c.next).bind fun (ch, c) => quotedRun quote fuel (acc ++ [ch]) c
      else quotedRun quote fuel (acc ++ [ch]) c.next

/-- A quoted scalar after its opening quote. -/
def quotedFrom (quote : Char) : Nat → List Char → Cursor → Option (List Char × Cursor)
  | 0, _, _ => none
  | fuel + 1, acc, c =>
    if c.atDocumentMarker || c.rest.isEmpty then none
    else
      (quotedRun quote c.rest.length acc c).bind fun (acc, escaped, c) =>
        if c.at? quote && !escaped then some (acc, c.next)
        else
          (readGap (fun _ => true) c.rest.length { broken := escaped } c).bind fun (g, c) =>
            quotedFrom quote fuel (acc ++ g.text) c

/-- A quoted scalar, at its opening quote. -/
def quoted? (quote : Char) (c : Cursor) : Option (String × Cursor) :=
  (quotedFrom quote (c.rest.length + 1) [] c.next).map fun (cs, c) => (String.ofList cs, c)

/-! ## §5. Block scalars -/

/-- What becomes of the breaks at the end of a block scalar. -/
inductive Chomping where
  | clip
  | keep
  | strip
deriving DecidableEq, Inhabited

/-- The chomping that an indicator asks for. -/
def chomping? : Option Char → Option Chomping
  | some '+' => some .keep
  | some '-' => some .strip
  | _ => none

/-- The value of a decimal digit. -/
def digit? : Option Char → Option Nat
  | some ch => if ch.isDigit then some (ch.toNat - 48) else none
  | none => none

/-- The indicators after the mark of a block scalar: chomping and indentation, in any order. -/
def blockHeader? (c : Cursor) : Option (Chomping × Option Nat × Cursor) :=
  let valid (chomping : Chomping) (width : Option Nat) (c : Cursor) :
      Option (Chomping × Option Nat × Cursor) :=
    if width = some 0 then none else some (chomping, width, c)
  match chomping? c.peek?, digit? c.peek? with
  | some chomping, _ =>
    match digit? c.next.peek? with
    | some n => valid chomping (some n) (c.skip 2)
    | none => valid chomping none c.next
  | none, some n =>
    match chomping? c.next.peek? with
    | some chomping => valid chomping (some n) (c.skip 2)
    | none => valid .clip (some n) c.next
  | none, none => valid .clip none c

/-- Reads indentation and blank lines.  Without a known indentation every space counts, and the
deepest line is remembered. -/
def blockBreaks (indent : Option Nat) : Nat → Nat → List Char → Cursor →
    Option (List Char × Nat × Cursor)
  | 0, deepest, breaks, c => some (breaks, deepest, c)
  | fuel + 1, deepest, breaks, c =>
    let width := match indent with
      | some n => min (n - c.column) (c.rest.takeWhile (· = ' ')).length
      | none => (c.rest.takeWhile (· = ' ')).length
    let c := c.skip width
    let deepest := max deepest c.column
    let shallow := match indent with
      | some n => decide (c.column < n)
      | none => true
    match c.peek? with
    | none => some (breaks, deepest, c)
    | some ch =>
      if shallow && ch = '\t' then none
      else if isBreak ch then blockBreaks indent fuel deepest (breaks ++ c.lineBreak) c.nextLine
      else some (breaks, deepest, c)

/-- The lines of a block scalar with this indentation.  `first` is the break before the line at
the cursor, `later` the breaks of blank lines after that, and `blank` says whether the line
before starts with a blank. -/
def blockLines (literal : Bool) (indent : Nat) : Nat → List Char → List Char → List Char → Bool →
    Cursor → Option (List Char × List Char × List Char × Cursor)
  | 0, acc, first, later, _, c => some (acc, first, later, c)
  | fuel + 1, acc, first, later, blank, c =>
    if c.column ≠ indent || c.rest.isEmpty then some (acc, first, later, c)
    else
      let starts := c.peek?.any isBlank
      let joint :=
        if !literal && first.head? = some '\n' && !blank && !starts then
          (if later.isEmpty then [' '] else []) ++ later
        else first ++ later
      let (line, c) := c.span fun ch => !isBreak ch
      (blockBreaks (some indent) c.rest.length 0 [] c.nextLine).bind fun (later, _, after) =>
        blockLines literal indent fuel (acc ++ joint ++ line) c.lineBreak later starts after

/-- A block scalar, after its mark, inside a collection indented by `outer`. -/
def block? (literal : Bool) (outer : Option Nat) (c : Cursor) : Option (String × Cursor) :=
  (blockHeader? c).bind fun (chomping, width, c) =>
    let c := c.skipWhile isBlank
    let c := if c.at? '#' then c.skipWhile fun ch => !isBreak ch else c
    if !Cursor.isBreakOrEnd c.peek? then none
    else
      let c := if c.rest.isEmpty then c else c.nextLine
      let known := width.map fun n => n + outer.getD 0
      let least := match outer with
        | some n => n + 1
        | none => 1
      (blockBreaks known (c.rest.length + 1) 0 [] c).bind fun (breaks, deepest, c) =>
        let indent := known.getD (max deepest least)
        (blockLines literal indent (c.rest.length + 1) [] [] breaks false c).map
          fun (acc, first, later, c) =>
            let tail := match chomping with
              | .strip => []
              | .clip => first
              | .keep => first ++ later
            (String.ofList (acc ++ tail), c)

end Pageflow.Yaml
