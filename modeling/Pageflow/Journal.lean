/-
  Pageflow.Journal — the log of what happens.

  An entry has a severity, a message and named fields.  Anything that keeps a log is an instance
  of `Journal`; a list of entries is the simplest one.  A computation that only notes things gives
  its value together with the entries.

  Main definitions: `Note`, `Journal` and `Noted`.
-/
import Pageflow.Text.Quoted

namespace Pageflow

/-! ## §1. Entries -/

/-- How severe an entry is. -/
inductive Severity where
  | error
  | warn
  | info
  | debug
deriving DecidableEq, Inhabited

/-- The name of a severity. -/
def Severity.label : Severity → String
  | .error => "ERROR"
  | .warn => "WARN"
  | .info => "INFO"
  | .debug => "DEBUG"

/-- Severities by rank, the most severe first. -/
def Severity.rank : Severity → Nat
  | .error => 0
  | .warn => 1
  | .info => 2
  | .debug => 3

/-- The value of a field. -/
inductive NoteField where
  | text (s : String)
  | count (n : Nat)
deriving DecidableEq, Inhabited

/-- One entry of a log. -/
structure Note where
  severity : Severity
  message : String
  fields : List (String × NoteField)
deriving DecidableEq, Inhabited

namespace Note

/-- An entry whose fields are all texts. -/
def ofTexts (severity : Severity) (message : String) (fields : List (String × String)) : Note :=
  ⟨severity, message, fields.map fun (name, s) => (name, .text s)⟩

def error := ofTexts .error

def warn := ofTexts .warn

def info := ofTexts .info

def debug := ofTexts .debug

/-- Whether the entry is at least as severe as `level`. -/
def atLeast (level : Severity) (n : Note) : Bool := n.severity.rank ≤ level.rank

end Note

/-! ## §2. Keeping a log -/

/-- States that keep a log.  A log may tell what was written before a wait from what was written
after it. -/
class Journal (σ : Type) where
  write : Note → σ → σ
  pause : σ → σ := id

instance : Journal (List Note) where
  write note notes := notes ++ [note]

/-- A log in parts: one up to the first wait, one up to the second, and so on; the part that is
being written is first. -/
abbrev PartedLog := List (List Note)

instance : Journal PartedLog where
  write note
    | [] => [[note]]
    | part :: parts => (part ++ [note]) :: parts
  pause parts := [] :: parts

/-- The logs of computations that go on side by side, each up to its next wait in turn: first
parts first.  `rounds` bounds the number of parts. -/
def sideBySide : Nat → List (List (List Note)) → List Note
  | 0, _ => []
  | rounds + 1, logs =>
    logs.flatMap (fun parts => parts.head?.getD [])
      ++ sideBySide rounds (logs.map fun parts => parts.drop 1)

/-! ## §3. Values with notes -/

/-- A value and what is noted on the way to it. -/
structure Noted (α : Type) where
  value : α
  notes : List Note := []
deriving Inhabited

namespace Noted

variable {α β : Type}

/-- A value without notes. -/
def pure (a : α) : Noted α := ⟨a, []⟩

/-- One value and, from it, another one. -/
def bind (x : Noted α) (next : α → Noted β) : Noted β :=
  ⟨(next x.value).value, x.notes ++ (next x.value).notes⟩

instance : Monad Noted where
  pure := Noted.pure
  bind := Noted.bind

/-- A note. -/
def note (n : Note) : Noted Unit := ⟨(), [n]⟩

@[simp] theorem value_pure (a : α) : (Pure.pure a : Noted α).value = a := rfl

@[simp] theorem notes_pure (a : α) : (Pure.pure a : Noted α).notes = [] := rfl

@[simp] theorem value_bind (x : Noted α) (next : α → Noted β) :
    (x >>= next).value = (next x.value).value := rfl

@[simp] theorem notes_bind (x : Noted α) (next : α → Noted β) :
    (x >>= next).notes = x.notes ++ (next x.value).notes := rfl

theorem ext {x y : Noted α} (value : x.value = y.value) (notes : x.notes = y.notes) : x = y := by
  cases x
  cases y
  exact congr (congrArg mk value) notes

instance : LawfulMonad Noted := LawfulMonad.mk' Noted
  (fun x => ext rfl (List.append_nil x.notes))
  (fun _ _ => rfl)
  (fun x f g => ext rfl (List.append_assoc ..))

end Noted

end Pageflow
