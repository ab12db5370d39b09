/-
  Pageflow.Command.Words — the words of a command line.

  A word is an option, the value of the option before it, an operand, or the name of a command.
  Options start with two hyphens and may carry their value after an equals sign; after a word of
  two hyphens alone every word is an operand.  An option without its value yet takes the next
  word that looks like no option.  It is settled only when something comes after it, so that an
  unknown word is told before a bad value in front of it.

  Main definitions: `Vocabulary`, `Vocabulary.step` and `Vocabulary.read`.
-/
import Pageflow.Command.Assignment

namespace Pageflow.Command

/-! ## §1. Refusals -/

/-- Why a command line is not carried out. -/
inductive UsageError where
  /-- Help was asked for. -/
  | help
  /-- The version was asked for. -/
  | version
  /-- There is nothing on the line. -/
  | nothing
  | noCommand
  | unknownCommand (name : String)
  | unknownArgument (word : String)
  | noOptionValue (option : String)
  /-- A switch was given a value. -/
  | switchValue (option : String)
  | repeated (option : String)
  | badValue (option : String) (cause : AssignmentError)
  /-- An option or an operand that has to be there is not. -/
  | incomplete
deriving DecidableEq, Inhabited

/-- Whether the line asked for what it gets. -/
def UsageError.isAnswer : UsageError → Bool
  | .help | .version => true
  | _ => false

/-! ## §2. Vocabularies -/

/-- What an option does to what has been read. -/
inductive Meaning (σ : Type) where
  | switch (set : σ → Except UsageError σ)
  | valued (set : String → σ → Except UsageError σ)
  | stop (answer : UsageError)

/-- The words that are known at one place of a command line. -/
structure Vocabulary (σ : Type) where
  /-- The options, without their hyphens. -/
  options : List (String × Meaning σ)
  /-- The options of one letter and one hyphen. -/
  letters : List (Char × UsageError)
  /-- What the operands do, in order. -/
  operands : List (String → σ → σ) := []
  commands : List String := []

/-- An option that has been seen and not applied. -/
structure Unsettled (σ : Type) where
  name : String
  set : String → σ → Except UsageError σ
  text : Option String := none

/-- How far a command line has been read. -/
structure Progress (σ : Type) where
  read : σ
  unsettled : Option (Unsettled σ) := none
  /-- What the operands to come do. -/
  operands : List (String → σ → σ)
  /-- Whether every word is an operand from here on. -/
  verbatim : Bool := false

variable {σ : Type}

/-- Whether an option waits for its value. -/
def Progress.isWaiting (p : Progress σ) : Bool := p.unsettled.any fun u => u.text.isNone

/-- Applies the option that has not been applied. -/
def Progress.settle (p : Progress σ) : Except UsageError (Progress σ) :=
  match p.unsettled with
  | none => .ok p
  | some u =>
    match u.text with
    | none => .error (.noOptionValue u.name)
    | some text => do return { p with read := ← u.set text p.read, unsettled := none }

/-! ## §3. Single words -/

namespace Vocabulary

/-- An option, perhaps with the value after its equals sign. -/
def option (v : Vocabulary σ) (p : Progress σ) (name : String) (text : Option String) :
    Except UsageError (Progress σ) :=
  match v.options.lookup name, text with
  | none, _ => .error (.unknownArgument ("--" ++ name))
  | some (.valued set), some text => do
    let p ← p.settle
    return { p with read := ← set text p.read }
  | some (.valued set), none => do
    return { ← p.settle with unsettled := some { name, set } }
  | some (.switch _), some _ | some (.stop _), some _ => .error (.switchValue name)
  | some (.switch set), none => do
    let p ← p.settle
    return { p with read := ← set p.read }
  | some (.stop answer), none => do
    let _ ← p.settle
    .error answer

/-- An option of one letter. -/
def letter (v : Vocabulary σ) (p : Progress σ) (c : Char) : Except UsageError (Progress σ) :=
  match v.letters.lookup c with
  | none => .error (.unknownArgument (String.ofList ['-', c]))
  | some answer => do
    let _ ← p.settle
    .error answer

/-- A word where an operand may stand. -/
def operand (v : Vocabulary σ) (p : Progress σ) (word : String) : Except UsageError (Progress σ) :=
  match p.operands with
  | set :: operands => do
    let p ← p.settle
    return { p with read := set word p.read, operands }
  | [] =>
    if v.commands.isEmpty || (p.verbatim && v.commands.contains word) then
      .error (.unknownArgument word)
    else .error (.unknownCommand word)

/-- A word that may be the value of the option before it. -/
def plain (v : Vocabulary σ) (p : Progress σ) (word : String) : Except UsageError (Progress σ) :=
  match p.unsettled with
  | some ⟨name, set, none⟩ => .ok { p with unsettled := some ⟨name, set, some word⟩ }
  | _ => v.operand p word

/-- One word. -/
def step (v : Vocabulary σ) (p : Progress σ) (word : String) : Except UsageError (Progress σ) :=
  if p.verbatim then v.operand p word
  else
    match word.toList with
    | ['-', '-'] => .ok { p with verbatim := true }
    | '-' :: '-' :: cs =>
      match Text.cutAt? '=' cs with
      | some (name, text) => v.option p (String.ofList name) (some (String.ofList text))
      | none => v.option p (String.ofList cs) none
    | '-' :: c :: _ => v.letter p c
    | _ => v.plain p word

/-! ## §4. Lines -/

/-- Whether a word is the name of a command where it stands. -/
def startsCommand (v : Vocabulary σ) (p : Progress σ) (word : String) : Bool :=
  !p.verbatim && !p.isWaiting && v.commands.contains word

/-- Reads words up to the name of a command, which is given with the words after it. -/
def readFrom (v : Vocabulary σ) :
    Progress σ → List String → Except UsageError (Progress σ × Option (String × List String))
  | p, [] => .ok (p, none)
  | p, word :: rest =>
    if v.startsCommand p word then .ok (p, some (word, rest))
    else do v.readFrom (← v.step p word) rest

/-- Reads words into what has been read so far. -/
def read (v : Vocabulary σ) (start : σ) (words : List String) :
    Except UsageError (Progress σ × Option (String × List String)) :=
  v.readFrom { read := start, operands := v.operands } words

end Vocabulary

end Pageflow.Command
