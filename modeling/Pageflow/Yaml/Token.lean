/-
  Pageflow.Yaml.Token — the tokens of a YAML text.

  Indentation and line structure become tokens of their own.  Whether a node is the key of a
  mapping shows only when the colon after it is met, so the place of every possible key is kept,
  one for each open collection, and the tokens of a key are put in there afterwards.

  Main definition: `tokens?`.
-/
import Pageflow.Yaml.Lexeme

namespace Pageflow.Yaml

/-! ## §1. Tokens -/

/-- A token. -/
inductive Token where
  | directive (name : String) (arguments : List String)
  | documentStart
  | documentEnd
  | blockSequenceStart
  | blockMappingStart
  | blockEnd
  | flowSequenceStart
  | flowSequenceEnd
  | flowMappingStart
  | flowMappingEnd
  | blockEntry
  | flowEntry
  | key
  | value
  | anchor (name : String)
  | alias (name : String)
  | tag (t : Tag)
  | scalar (isPlain : Bool) (text : String)
  | streamEnd
deriving DecidableEq, Inhabited

/-- The place of a node that may turn out to be a key. -/
structure PossibleKey where
  /-- The number of tokens before it. -/
  token : Nat
  line : Nat
  column : Nat
  index : Nat
  /-- Whether nothing else can stand there. -/
  required : Bool
deriving Inhabited

/-- How far the tokens of a text are known. -/
structure Tokenizer where
  cursor : Cursor
  tokens : Array Token := #[]
  /-- The columns of the open block collections, the innermost first. -/
  indents : List Nat := []
  /-- The possible key of the block level. -/
  outerKey : Option PossibleKey := none
  /-- The possible keys of the open flow collections, the innermost first. -/
  flowKeys : List (Option PossibleKey) := []
  /-- Whether a key may start here. -/
  keyAllowed : Bool := true
deriving Inhabited

namespace Tokenizer

/-! ## §2. Indentation and possible keys -/

/-- Whether a flow collection is open. -/
def inFlow (t : Tokenizer) : Bool := !t.flowKeys.isEmpty

/-- Adds a token. -/
def push (t : Tokenizer) (token : Token) : Tokenizer := { t with tokens := t.tokens.push token }

/-- The possible key of the innermost level. -/
def possibleKey (t : Tokenizer) : Option PossibleKey :=
  match t.flowKeys with
  | key :: _ => key
  | [] => t.outerKey

/-- Sets the possible key of the innermost level. -/
def setKey (t : Tokenizer) (key : Option PossibleKey) : Tokenizer :=
  match t.flowKeys with
  | _ :: rest => { t with flowKeys := key :: rest }
  | [] => { t with outerKey := key }

/-- Gives up the possible key of the innermost level, if something else can stand there. -/
def dropKey? (t : Tokenizer) : Option Tokenizer :=
  match t.possibleKey with
  | some key => if key.required then none else some (t.setKey none)
  | none => some t

/-- Remembers that a key may start here. -/
def saveKey? (t : Tokenizer) : Option Tokenizer :=
  if !t.keyAllowed then some t
  else
    let c := t.cursor
    let required := !t.inFlow && t.indents.head? = some c.column
    t.dropKey?.map fun t => t.setKey (some ⟨t.tokens.size, c.line, c.column, c.index, required⟩)

/-- The greatest length of a key on one line. -/
def keyLimit : Nat := 1024

/-- Whether a place is too far back to be a key. -/
def isStale (c : Cursor) (key : PossibleKey) : Bool :=
  key.line < c.line || key.index + keyLimit < c.index

/-- A possible key, unless it is too far back; a required one must not be. -/
def refresh? (c : Cursor) : Option PossibleKey → Option (Option PossibleKey)
  | some key => if !isStale c key then some (some key) else if key.required then none else some none
  | none => some none

/-- Gives up the possible keys that are too far back. -/
def dropStale? (t : Tokenizer) : Option Tokenizer := do
  let outerKey ← refresh? t.cursor t.outerKey
  let flowKeys ← t.flowKeys.mapM (refresh? t.cursor)
  return { t with outerKey, flowKeys }

/-- Opens a block collection at a column, unless one is open there; its token goes to `place`. -/
def indentTo (t : Tokenizer) (column place : Nat) (token : Token) : Tokenizer :=
  if t.inFlow || t.indents.head?.any (column ≤ ·) then t
  else
    { t with
      indents := column :: t.indents
      tokens := t.tokens.toList.insertIdx place token |>.toArray }

/-- Closes the block collections that start after a column, or all of them. -/
def unindentTo (t : Tokenizer) (column : Option Nat) : Tokenizer :=
  if t.inFlow then t
  else
    let closed := t.indents.takeWhile fun n => column.all (· < n)
    { t with
      indents := t.indents.drop closed.length
      tokens := closed.foldl (fun tokens _ => tokens.push .blockEnd) t.tokens }

/-! ## §3. Gaps and comments -/

/-- Past blanks, comments and breaks to the next token. -/
def skipGap : Nat → Tokenizer → Tokenizer
  | 0, t => t
  | fuel + 1, t =>
    let c := if t.cursor.column = 0 && t.cursor.at? byteOrderMark then t.cursor.next else t.cursor
    let tabs := t.inFlow || !t.keyAllowed
    let c := c.skipWhile fun ch => ch = ' ' || (tabs && ch = '\t')
    let c := if c.at? '#' then c.skipWhile fun ch => !isBreak ch else c
    match c.peek? with
    | some ch =>
      if isBreak ch then
        skipGap fuel { t with cursor := c.nextLine, keyAllowed := t.keyAllowed || !t.inFlow }
      else { t with cursor := c }
    | none => { t with cursor := c }

/-! ## §4. One token -/

/-- A step: the tokens so far, and whether the text is at its end. -/
abbrev Step := Option (Tokenizer × Bool)

/-- A step that goes on after `n` characters with one more token. -/
def emit (t : Tokenizer) (n : Nat) (token : Token) : Step :=
  some ({ t with cursor := t.cursor.skip n }.push token, false)

/-- The end of the text. -/
def finish (t : Tokenizer) : Step :=
  (t.unindentTo none).dropKey?.map fun t => (t.push .streamEnd, true)

/-- A marker of three characters. -/
def marker (t : Tokenizer) (token : Token) : Step :=
  (t.unindentTo none).dropKey?.bind fun t => { t with keyAllowed := false }.emit 3 token

/-- The words of a line up to a comment. -/
def words (line : List Char) : List String :=
  let separated := line.map fun ch => if ch = '\t' then ' ' else ch
  ((Text.splitAt ' ' separated).filter (!·.isEmpty)).map String.ofList
    |>.takeWhile fun word => word.toList.head? ≠ some '#'

/-- A directive. -/
def directive (t : Tokenizer) : Step :=
  (t.unindentTo none).dropKey?.bind fun t =>
    let (line, c) := t.cursor.next.span fun ch => !isBreak ch
    match words line with
    | [] => none
    | name :: arguments =>
      some ({ t with cursor := c, keyAllowed := false }.push (.directive name arguments), false)

/-- The start of a flow collection. -/
def openFlow (t : Tokenizer) (token : Token) : Step :=
  t.saveKey?.bind fun t =>
    { t with flowKeys := none :: t.flowKeys, keyAllowed := true }.emit 1 token

/-- The end of a flow collection. -/
def closeFlow (t : Tokenizer) (token : Token) : Step :=
  t.dropKey?.bind fun t =>
    { t with flowKeys := t.flowKeys.drop 1, keyAllowed := false }.emit 1 token

/-- The mark of an entry of a block sequence. -/
def blockEntry (t : Tokenizer) : Step :=
  if !t.inFlow && !t.keyAllowed then none
  else
    (t.indentTo t.cursor.column t.tokens.size .blockSequenceStart).dropKey?.bind fun t =>
      { t with keyAllowed := true }.emit 1 .blockEntry

/-- The mark of a key that is written out. -/
def explicitKey (t : Tokenizer) : Step :=
  if !t.inFlow && !t.keyAllowed then none
  else
    (t.indentTo t.cursor.column t.tokens.size .blockMappingStart).dropKey?.bind fun t =>
      { t with keyAllowed := !t.inFlow }.emit 1 .key

/-- The mark of a value; what stands at the possible key is a key. -/
def value (t : Tokenizer) : Step :=
  match t.possibleKey with
  | some key =>
    let t := { t with tokens := t.tokens.toList.insertIdx key.token .key |>.toArray }
    let t := (t.indentTo key.column key.token .blockMappingStart).setKey none
    { t with keyAllowed := false }.emit 1 .value
  | none =>
    if !t.inFlow && !t.keyAllowed then none
    else
      let t := t.indentTo t.cursor.column t.tokens.size .blockMappingStart
      { t with keyAllowed := !t.inFlow }.emit 1 .value

/-- A node without inner structure, by its reader. -/
def leaf {α : Type} (t : Tokenizer) (skip : Nat) (read : Cursor → Option (α × Cursor))
    (token : α → Token) : Step :=
  t.saveKey?.bind fun t =>
    (read (t.cursor.skip skip)).bind fun (a, c) =>
      some ({ t with cursor := c, keyAllowed := false }.push (token a), false)

/-- A tag that ends where a tag may end. -/
def readTag (flow : Bool) (c : Cursor) : Option (Tag × Cursor) :=
  (tag? c).bind fun (tag, after) =>
    if Cursor.isGapOrEnd after.peek? || (flow && after.at? ',') then some (tag, after) else none

/-- A block scalar. -/
def blockScalar (t : Tokenizer) (literal : Bool) : Step :=
  t.dropKey?.bind fun t =>
    (block? literal t.indents.head? t.cursor.next).bind fun (text, c) =>
      some ({ t with cursor := c, keyAllowed := true }.push (.scalar false text), false)

/-- A plain scalar; after a break a key may start. -/
def plainScalar (t : Tokenizer) : Step :=
  t.saveKey?.bind fun t =>
    let indent := match t.indents with
      | n :: _ => n + 1
      | [] => 0
    (plain? t.inFlow indent t.cursor).bind fun (text, broken, c) =>
      some ({ t with cursor := c, keyAllowed := broken }.push (.scalar true text), false)

/-- Characters that start no plain scalar. -/
def isIndicator (c : Char) : Bool :=
  ['-', '?', ':', ',', '[', ']', '{', '}', '#', '&', '*', '!', '|', '>', '\'', '"', '%', '@',
    '`'].contains c

/-- Whether a plain scalar starts with these characters. -/
def startsPlain (flow : Bool) (ch : Char) (following : Option Char) : Bool :=
  !(isGap ch || isIndicator ch) || (ch = '-' && !following.any isBlank)
    || (!flow && (ch = '?' || ch = ':') && !Cursor.isGapOrEnd following)

/-- The next token. -/
def step (t : Tokenizer) : Step :=
  (skipGap (t.cursor.rest.length + 1) t).dropStale?.bind fun t =>
    let t := t.unindentTo (some t.cursor.column)
    let c := t.cursor
    match c.peek? with
    | none => t.finish
    | some ch =>
      let gapFollows := Cursor.isGapOrEnd c.second?
      if c.column = 0 && ch = '%' then t.directive
      else if c.atMarker '-' then t.marker .documentStart
      else if c.atMarker '.' then t.marker .documentEnd
      else if ch = '[' then t.openFlow .flowSequenceStart
      else if ch = '{' then t.openFlow .flowMappingStart
      else if ch = ']' then t.closeFlow .flowSequenceEnd
      else if ch = '}' then t.closeFlow .flowMappingEnd
      else if ch = ',' then
        t.dropKey?.bind fun t => { t with keyAllowed := true }.emit 1 .flowEntry
      else if ch = '-' && gapFollows then t.blockEntry
      else if ch = '?' && (t.inFlow || gapFollows) then t.explicitKey
      else if ch = ':' && (t.inFlow || gapFollows) then t.value
      else if ch = '*' then t.leaf 1 name? .alias
      else if ch = '&' then t.leaf 1 name? .anchor
      else if ch = '!' then t.leaf 1 (readTag t.inFlow) .tag
      else if ch = '|' && !t.inFlow then t.blockScalar true
      else if ch = '>' && !t.inFlow then t.blockScalar false
      else if ch = '\'' || ch = '"' then t.leaf 0 (quoted? ch) (.scalar false)
      else if startsPlain t.inFlow ch c.second? then t.plainScalar
      else none

/-- All tokens; each but the last one uses up at least one character. -/
def run : Nat → Tokenizer → Option (List Token)
  | 0, _ => none
  | fuel + 1, t =>
    t.step.bind fun (t, isDone) => if isDone then some t.tokens.toList else run fuel t

end Tokenizer

/-- The tokens of a text. -/
def tokens? (text : String) : Option (List Token) :=
  let cs := text.toList
  if cs.all isAllowed then Tokenizer.run (cs.length + 2) { cursor := { rest := cs } } else none

end Pageflow.Yaml
