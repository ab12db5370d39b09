/-
  Pageflow.Yaml.Node — YAML as a tree of values.

  Tokens form nodes: scalars, sequences and mappings, in block or flow form.  A node may carry a
  tag, and a name under which later nodes refer to it; a missing node is an empty scalar.  An
  alias stays an alias in the tree: a node may contain itself, and what aliases multiply need not
  be small.  The value of a tree is therefore read within a depth and a number of aliases.

  Main definitions: `document?`, `Node.read?` and `parse?`.
-/
import Pageflow.Yaml.Schema
import Pageflow.Yaml.Token

namespace Pageflow.Yaml

/-! ## §1. Nodes -/

/-- A node. -/
inductive Node where
  | scalar (tag : Option String) (isPlain : Bool) (text : String)
  | sequence (tag : Option String) (items : List Node)
  | mapping (tag : Option String) (entries : List (Node × Node))
  /-- The node with this number once more. -/
  | alias (number : Nat)
deriving Inhabited

/-- The node that is not written. -/
def Node.empty : Node := .scalar none true ""

/-- The nodes that aliases can mean. -/
structure Anchors where
  /-- The number that each name stands for. -/
  numbers : Dict Nat := []
  /-- The nodes by number, the latest first. -/
  nodes : List (Nat × Node) := []
deriving Inhabited

/-- Makes a name known, from the start of its node on.  Its number is that of the names before;
of two nodes with one number the later counts. -/
def Anchors.declare (anchors : Anchors) (name : String) : Anchors :=
  { anchors with numbers := anchors.numbers.insert name anchors.numbers.length }

/-- The places that handles stand for. -/
abbrev Handles := List (String × String)

/-- What was read, the nodes known after it, and the tokens left. -/
abbrev Parsed (α : Type) := Option (α × Anchors × List Token)

/-- The tag that is meant. -/
def resolveTag? (handles : Handles) (t : Tag) : Option String :=
  if t.handle.isEmpty then some t.suffix
  else (handles.lookup t.handle).map fun place => place ++ t.suffix

/-- What may stand before a node. -/
structure Properties where
  anchor : Option String := none
  tag : Option String := none

/-- Whether nothing stands before a node. -/
def Properties.isEmpty (p : Properties) : Bool := p.anchor.isNone && p.tag.isNone

/-- The name and the tag before a node, in either order. -/
def properties? (handles : Handles) : List Token → Option (Properties × List Token)
  | .anchor name :: .tag t :: rest =>
    (resolveTag? handles t).map fun tag => (⟨some name, some tag⟩, rest)
  | .tag t :: .anchor name :: rest =>
    (resolveTag? handles t).map fun tag => (⟨some name, some tag⟩, rest)
  | .anchor name :: rest => some (⟨some name, none⟩, rest)
  | .tag t :: rest => (resolveTag? handles t).map fun tag => (⟨none, some tag⟩, rest)
  | rest => some ({}, rest)

/-- Reads a node and makes it known by its name, if it has one. -/
def withAnchor (p : Properties) (anchors : Anchors) (read : Anchors → Parsed Node) :
    Parsed Node :=
  match p.anchor with
  | none => read anchors
  | some name =>
    (read (anchors.declare name)).map fun (node, after, rest) =>
      (node, { after with nodes := (anchors.numbers.length, node) :: after.nodes }, rest)

/-- Whether the first token is one of these. -/
def starts (ts : List Token) (those : List Token) : Bool := ts.head?.any those.contains

/-- An empty scalar, if something was written before it. -/
def missing? (p : Properties) (anchors : Anchors) (ts : List Token) : Parsed Node :=
  if p.isEmpty then none else some (.scalar p.tag true "", anchors, ts)

/-- What follows an entry of a flow collection: its end, or a comma that is dropped. -/
def flowNext? (ends : Token) : List Token → Option (List Token)
  | t :: rest =>
    if t = ends then some (t :: rest) else if t = .flowEntry then some rest else none
  | [] => none

mutual

/-- A node.  `block` says whether block collections may stand here, `indentless` whether a
sequence may do without indentation. -/
def node? (handles : Handles) (fuel : Nat) (block indentless : Bool) (anchors : Anchors)
    (ts : List Token) : Parsed Node :=
  match fuel with
  | 0 => none
  | fuel + 1 =>
    match ts with
    | .alias name :: rest =>
      (anchors.numbers.get? name).map fun number => (.alias number, anchors, rest)
    | ts =>
      (properties? handles ts).bind fun (p, ts) =>
        withAnchor p anchors fun anchors => content? handles fuel block indentless p anchors ts
termination_by (fuel, 0)

/-- A node after its properties. -/
def content? (handles : Handles) (fuel : Nat) (block indentless : Bool) (p : Properties)
    (anchors : Anchors) (ts : List Token) : Parsed Node :=
  match ts with
  | .blockEntry :: _ =>
    if indentless then
      (indentlessItems? handles fuel anchors ts).map fun (items, anchors, rest) =>
        (.sequence p.tag items, anchors, rest)
    else missing? p anchors ts
  | .scalar isPlain text :: rest =>
    some (.scalar (p.tag.filter (· ≠ "!")) isPlain text, anchors, rest)
  | .flowSequenceStart :: rest =>
    (flowItems? handles fuel true anchors rest).map fun (items, anchors, rest) =>
      (.sequence p.tag items, anchors, rest)
  | .flowMappingStart :: rest =>
    (flowEntries? handles fuel true anchors rest).map fun (entries, anchors, rest) =>
      (.mapping p.tag entries, anchors, rest)
  | .blockSequenceStart :: rest =>
    if block then
      (blockItems? handles fuel anchors rest).map fun (items, anchors, rest) =>
        (.sequence p.tag items, anchors, rest)
    else missing? p anchors ts
  | .blockMappingStart :: rest =>
    if block then
      (blockEntries? handles fuel anchors rest).map fun (entries, anchors, rest) =>
        (.mapping p.tag entries, anchors, rest)
    else missing? p anchors ts
  | _ => missing? p anchors ts
termination_by (fuel, 1)

/-- A node, unless the next token is one of those that follow a missing one. -/
def optional? (handles : Handles) (fuel : Nat) (block indentless : Bool) (ends : List Token)
    (anchors : Anchors) (ts : List Token) : Parsed Node :=
  match fuel with
  | 0 => none
  | fuel + 1 =>
    if starts ts ends then some (.empty, anchors, ts)
    else node? handles fuel block indentless anchors ts
termination_by (fuel, 0)

/-- The items of a block sequence up to its end. -/
def blockItems? (handles : Handles) (fuel : Nat) (anchors : Anchors) (ts : List Token) :
    Parsed (List Node) :=
  match fuel, ts with
  | fuel + 1, .blockEntry :: rest =>
    (optional? handles fuel true false [.blockEntry, .blockEnd] anchors rest).bind
      fun (item, anchors, rest) =>
        (blockItems? handles fuel anchors rest).map fun (items, anchors, rest) =>
          (item :: items, anchors, rest)
  | _, .blockEnd :: rest => some ([], anchors, rest)
  | _, _ => none
termination_by (fuel, 0)

/-- The items of a sequence without indentation. -/
def indentlessItems? (handles : Handles) (fuel : Nat) (anchors : Anchors) (ts : List Token) :
    Parsed (List Node) :=
  match fuel, ts with
  | fuel + 1, .blockEntry :: rest =>
    (optional? handles fuel true false [.blockEntry, .key, .value, .blockEnd] anchors rest).bind
      fun (item, anchors, rest) =>
        (indentlessItems? handles fuel anchors rest).map fun (items, anchors, rest) =>
          (item :: items, anchors, rest)
  | _, ts => some ([], anchors, ts)
termination_by (fuel, 0)

/-- The value after a key, if one is written. -/
def valueAfter? (handles : Handles) (fuel : Nat) (block : Bool) (ends : List Token)
    (anchors : Anchors) (ts : List Token) : Parsed Node :=
  match fuel, ts with
  | fuel + 1, .value :: rest => optional? handles fuel block block ends anchors rest
  | _, ts => some (.empty, anchors, ts)
termination_by (fuel, 0)

/-- The entries of a block mapping up to its end. -/
def blockEntries? (handles : Handles) (fuel : Nat) (anchors : Anchors) (ts : List Token) :
    Parsed (List (Node × Node)) :=
  match fuel, ts with
  | fuel + 1, .key :: rest =>
    (optional? handles fuel true true [.key, .value, .blockEnd] anchors rest).bind
      fun (key, anchors, rest) =>
        (valueAfter? handles fuel true [.key, .value, .blockEnd] anchors rest).bind
          fun (value, anchors, rest) =>
            (blockEntries? handles fuel anchors rest).map fun (entries, anchors, rest) =>
              ((key, value) :: entries, anchors, rest)
  | _, .blockEnd :: rest => some ([], anchors, rest)
  | _, _ => none
termination_by (fuel, 0)

/-- The items of a flow sequence up to its end; a single pair is a mapping of its own.  A mark of
a key that is not followed by one takes the next token with it. -/
def flowItems? (handles : Handles) (fuel : Nat) (first : Bool) (anchors : Anchors)
    (ts : List Token) : Parsed (List Node) :=
  match fuel with
  | 0 => none
  | fuel + 1 =>
    match (if first then some ts else flowNext? .flowSequenceEnd ts) with
    | none => none
    | some (.flowSequenceEnd :: rest) => some ([], anchors, rest)
    | some (.key :: rest) =>
      let ends := [.value, .flowEntry, .flowSequenceEnd]
      (optional? handles fuel false false ends anchors rest).bind
        fun (key, anchors, after) =>
          let after := if starts rest ends then after.drop 1 else after
          (valueAfter? handles fuel false [.flowEntry, .flowSequenceEnd] anchors after).bind
            fun (value, anchors, rest) =>
              (flowItems? handles fuel false anchors rest).map fun (items, anchors, rest) =>
                (.mapping none [(key, value)] :: items, anchors, rest)
    | some ts =>
      (node? handles fuel false false anchors ts).bind fun (item, anchors, rest) =>
        (flowItems? handles fuel false anchors rest).map fun (items, anchors, rest) =>
          (item :: items, anchors, rest)
termination_by (fuel, 0)

/-- The entries of a flow mapping up to its end. -/
def flowEntries? (handles : Handles) (fuel : Nat) (first : Bool) (anchors : Anchors)
    (ts : List Token) : Parsed (List (Node × Node)) :=
  match fuel with
  | 0 => none
  | fuel + 1 =>
    match (if first then some ts else flowNext? .flowMappingEnd ts) with
    | none => none
    | some (.flowMappingEnd :: rest) => some ([], anchors, rest)
    | some (.key :: rest) =>
      (optional? handles fuel false false [.value, .flowEntry, .flowMappingEnd] anchors rest).bind
        fun (key, anchors, rest) =>
          (valueAfter? handles fuel false [.flowEntry, .flowMappingEnd] anchors rest).bind
            fun (value, anchors, rest) =>
              (flowEntries? handles fuel false anchors rest).map fun (entries, anchors, rest) =>
                ((key, value) :: entries, anchors, rest)
    | some ts =>
      (node? handles fuel false false anchors ts).bind fun (key, anchors, rest) =>
        (flowEntries? handles fuel false anchors rest).map fun (entries, anchors, rest) =>
          ((key, .empty) :: entries, anchors, rest)
termination_by (fuel, 0)

end

/-! ## §2. Values -/

/-- Whether a tag is none that is known. -/
def isForeign (tag : Option String) : Bool := tag.any fun t => t.toList.head? = some '!'

mutual

/-- The number of leaves, and of starts and ends of collections. -/
def Node.size : Node → Nat
  | .scalar _ _ _ | .alias _ => 1
  | .sequence _ items => itemsSize items + 2
  | .mapping _ entries => entriesSize entries + 2

/-- The size of items. -/
def itemsSize : List Node → Nat
  | [] => 0
  | item :: rest => item.size + itemsSize rest

/-- The size of entries. -/
def entriesSize : List (Node × Node) → Nat
  | [] => 0
  | (key, value) :: rest => key.size + value.size + entriesSize rest

end

/-- What a node stands for, and how many aliases may be followed after it. -/
def Node.follow? (nodes : List (Nat × Node)) (budget : Nat) : Node → Option (Node × Nat)
  | .alias number =>
    match budget with
    | 0 => none
    | budget + 1 => (nodes.lookup number).map (·, budget)
  | node => some (node, budget)

mutual

/-- The value of a node whose collections nest at most `depth` deep, following at most `budget`
aliases; what is left of the budget comes with it. -/
def Node.read? (nodes : List (Nat × Node)) (depth budget : Nat) (node : Node) :
    Option (Json × Nat) :=
  match node.follow? nodes budget with
  | some (.scalar tag isPlain text, budget) => (scalarJson? tag isPlain text).map (·, budget)
  | some (.sequence tag items, budget) =>
    match depth with
    | 0 => none
    | depth + 1 =>
      if isForeign tag then none
      else (readItems? nodes depth budget items).map fun (vs, budget) => (.array vs, budget)
  | some (.mapping tag entries, budget) =>
    match depth with
    | 0 => none
    | depth + 1 =>
      if isForeign tag then none
      else
        (readEntries? nodes depth budget [] entries).map fun (d, budget) => (.object d, budget)
  | some (.alias _, _) | none => none
termination_by (depth, 0)

/-- The values of items. -/
def readItems? (nodes : List (Nat × Node)) (depth budget : Nat) (items : List Node) :
    Option (List Json × Nat) :=
  match items with
  | [] => some ([], budget)
  | item :: rest =>
    (item.read? nodes depth budget).bind fun (v, budget) =>
      (readItems? nodes depth budget rest).map fun (vs, budget) => (v :: vs, budget)
termination_by (depth, items.length + 1)

/-- The values of entries, written into a dictionary; a key is a scalar, and its text counts as
it is written. -/
def readEntries? (nodes : List (Nat × Node)) (depth budget : Nat) (acc : Dict Json)
    (entries : List (Node × Node)) : Option (Dict Json × Nat) :=
  match entries with
  | [] => some (acc, budget)
  | (key, value) :: rest =>
    match key.follow? nodes budget with
    | some (.scalar _ _ text, budget) =>
      (value.read? nodes depth budget).bind fun (v, budget) =>
        readEntries? nodes depth budget (acc.insert text v) rest
    | _ => none
termination_by (depth, entries.length + 1)

end

/-! ## §3. Documents -/

/-- The greatest depth of nested collections. -/
def depthLimit : Nat := 128

/-- The handles that need no directive. -/
def knownHandles : Handles := [("!", "!"), ("!!", corePlace)]

/-- The versions that a directive may name. -/
def knownVersions : List String := ["1.1", "1.2"]

/-- Reads the directives before a document; the version may be given once. -/
def directives? : Bool → Handles → List Token → Option (Handles × List Token)
  | versioned, handles, .directive name arguments :: rest =>
    match name, arguments with
    | "YAML", [version] =>
      if versioned || !knownVersions.contains version then none
      else directives? true handles rest
    | "TAG", [handle, place] =>
      if handle.toList.head? ≠ some '!' || handles.any fun (h, _) => h = handle then none
      else directives? versioned (handles ++ [(handle, place)]) rest
    | _, _ => none
  | _, handles, rest => some (handles, rest)

/-- Whether a document has no content. -/
def isBare : List Token → Bool
  | .documentStart :: _ | .documentEnd :: _ | .streamEnd :: _ | .directive _ _ :: _ => true
  | _ => false

/-- A node that is all of a document. -/
def root? (handles : Handles) (ts : List Token) : Parsed Node :=
  node? handles (4 * ts.length + 4) true false {} ts

/-- The first document of a text; only after a mark for its start may it be empty. -/
def firstDocument? (ts : List Token) : Parsed Node :=
  match ts with
  | .directive _ _ :: _ | .documentStart :: _ =>
    (directives? false [] ts).bind fun (handles, rest) =>
      match rest with
      | .documentStart :: rest =>
        if isBare rest then some (.empty, {}, rest) else root? (handles ++ knownHandles) rest
      | _ => none
  | ts => root? knownHandles ts

/-- The only document of a text, and the nodes that aliases mean; no document is an empty one. -/
def document? (ts : List Token) : Option (Node × List (Nat × Node)) :=
  match ts with
  | [.streamEnd] => some (.empty, [])
  | ts =>
    (firstDocument? ts).bind fun (node, anchors, rest) =>
      match rest.dropWhile (· = .documentEnd) with
      | [.streamEnd] => some (node, anchors.nodes)
      | _ => none

/-- How many aliases may be followed for each leaf of a document. -/
def aliasesPerLeaf : Nat := 100

/-- The value that a text spells. -/
def parse? (text : String) : Option Json :=
  (tokens? text).bind fun ts => (document? ts).bind fun (node, nodes) =>
    (node.read? nodes depthLimit (aliasesPerLeaf * node.size)).map Prod.fst

end Pageflow.Yaml
