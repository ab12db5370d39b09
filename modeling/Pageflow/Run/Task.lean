/-
  Pageflow.Run.Task — runs that can be suspended.

  A run changes a state and, now and then, asks the outside world a question: to call a
  function, to send a request, to read a file or a page.  A task is a run seen from outside: it
  is done, or it waits for an answer.  While it waits others may change the state, and it goes on
  from whatever state it is resumed in.  A run that would nest without end is `endless`; no
  answer comes of it.

  Main definitions: `Task`, `Run` and `Task.finish`.
  Main statements: `bind_done`, `bind_assoc` and `finish_bind`: a run in two parts is its first
  part and then the second.
-/
import Pageflow.Function
import Pageflow.Http.Message

namespace Pageflow

/-! ## §1. Questions -/

/-- Why a file cannot be read. -/
inductive FileError where
  | notFound
  | notDirectory
  | isDirectory
  | notText
  | other (reason : String)
deriving DecidableEq, Inhabited

/-- The wording of a file error. -/
def FileError.message : FileError → String
  | .notFound => "No such file or directory (os error 2)"
  | .notDirectory => "Not a directory (os error 20)"
  | .isDirectory => "Is a directory (os error 21)"
  | .notText => "stream did not contain valid UTF-8"
  | .other reason => reason

/-- What a run may ask for. -/
inductive Query where
  /-- Call a function. -/
  | call (f : Function) (arguments : List Json)
  /-- Send a request. -/
  | send (request : Http.Request)
  /-- Read the bytes of a file. -/
  | fileBytes (path : String)
  /-- Measure a file. -/
  | fileSize (path : String)
  /-- Get the text of a document on the web. -/
  | fetch (url : String)

/-- What the answer to a question is. -/
def Query.Answer : Query → Type
  | .call _ _ => Except Fault Output
  | .send _ => Except Http.TransportError Http.Response
  | .fileBytes _ => Except FileError Bytes
  | .fileSize _ => Except FileError Nat
  | .fetch _ => Except String String

/-! ## §2. Tasks -/

/-- A run that is done or waits for an answer. -/
inductive Task (σ α : Type) where
  | done (value : α) (state : σ)
  | endless
  | ask (query : Query) (state : σ) (resume : query.Answer → σ → Task σ α)

namespace Task

variable {σ α β γ ω : Type}

/-- The task and then, from the state it ends in, another one. -/
def bind : Task σ α → (α → σ → Task σ β) → Task σ β
  | .done a s, next => next a s
  | .endless, _ => .endless
  | .ask q s resume, next => .ask q s fun answer s => (resume answer s).bind next

/-- Whoever answers questions; answering may change what later answers depend on. -/
abbrev Environment (ω : Type) := (q : Query) → ω → q.Answer × ω

/-- Runs a task to its end, nothing else happening while it waits. -/
def finish (environment : Environment ω) : Task σ α → ω → Option (α × σ) × ω
  | .done a s, world => (some (a, s), world)
  | .endless, world => (none, world)
  | .ask q s resume, world =>
    let (answer, world) := environment q world
    (resume answer s).finish environment world

/-- Runs a task until it waits for the answer to a question of the given kind. -/
def advance (environment : Environment ω) (blocks : Query → Bool) : Task σ α → ω → Task σ α × ω
  | .done a s, world => (.done a s, world)
  | .endless, world => (.endless, world)
  | .ask q s resume, world =>
    if blocks q then (.ask q s resume, world)
    else
      let (answer, world) := environment q world
      (resume answer s).advance environment blocks world

/-- A task that leaves its own state behind at the end and changes no other. -/
def isolate {τ : Type} : Task τ α → σ → Task σ (α × τ)
  | .done a t, s => .done (a, t) s
  | .endless, _ => .endless
  | .ask q t resume, s => .ask q s fun answer s => (resume answer t).isolate s

@[simp] theorem bind_done (a : α) (s : σ) (next : α → σ → Task σ β) :
    (Task.done a s).bind next = next a s := rfl

theorem bind_assoc (t : Task σ α) (f : α → σ → Task σ β) (g : β → σ → Task σ γ) :
    (t.bind f).bind g = t.bind fun a s => (f a s).bind g := by
  induction t with
  | done a s => rfl
  | endless => rfl
  | ask q s resume ih =>
    simp only [bind]
    congr 1
    funext answer s'
    exact ih answer s'

/-- Running a task in two parts is running the first and then the second. -/
theorem finish_bind (environment : Environment ω) (t : Task σ α) (next : α → σ → Task σ β)
    (world : ω) :
    (t.bind next).finish environment world =
      match t.finish environment world with
      | (some (a, s), world) => (next a s).finish environment world
      | (none, world) => (none, world) := by
  induction t generalizing world with
  | done a s => rfl
  | endless => rfl
  | ask q s resume ih => simp only [bind, finish, ih]

end Task

/-! ## §3. Runs -/

/-- A run from any state; it may fail. -/
def Run (σ ε α : Type) := σ → Task σ (Except ε α)

namespace Run

variable {σ ε δ α β : Type}

/-- A run that does nothing. -/
def pure (a : α) : Run σ ε α := fun s => .done (.ok a) s

/-- A run that fails. -/
def fail (e : ε) : Run σ ε α := fun s => .done (.error e) s

/-- A run that never answers. -/
def endless : Run σ ε α := fun _ => .endless

/-- A run and, unless it fails, another one. -/
def bind (r : Run σ ε α) (next : α → Run σ ε β) : Run σ ε β := fun s =>
  (r s).bind fun result s =>
    match result with
    | .ok a => next a s
    | .error e => .done (.error e) s

instance : Monad (Run σ ε) where
  pure := Run.pure
  bind := Run.bind

/-- A run whose failure is a result. -/
def attempt (r : Run σ ε α) : Run σ δ (Except ε α) := fun s =>
  (r s).bind fun result s => .done (.ok result) s

/-- A run with its failure put in other words. -/
def mapError (f : ε → δ) (r : Run σ ε α) : Run σ δ α := fun s =>
  (r s).bind fun result s => .done (result.mapError f) s

/-- A result as a run. -/
def ofExcept : Except ε α → Run σ ε α
  | .ok a => pure a
  | .error e => fail e

/-- The state. -/
def get : Run σ ε σ := fun s => .done (.ok s) s

/-- Changes the state. -/
def modify (f : σ → σ) : Run σ ε Unit := fun s => .done (.ok ()) (f s)

/-- A run with a state of its own, which is given back beside its result. -/
def isolated {τ : Type} (t : τ) (r : Run τ ε α) : Run σ δ (Except ε α × τ) := fun s =>
  ((r t).isolate s).bind fun result s => .done (.ok result) s

/-- A question. -/
def ask (q : Query) : Run σ ε q.Answer := fun s => .ask q s fun answer s => .done (.ok answer) s

/-- Writes to the log. -/
def note [Journal σ] (n : Note) : Run σ ε Unit := modify (Journal.write n)

/-- Writes several entries to the log. -/
def notes [Journal σ] (ns : List Note) : Run σ ε Unit :=
  modify fun s => ns.foldl (fun s n => Journal.write n s) s

/-- A value whose notes go to the log. -/
def noted [Journal σ] (x : Noted α) : Run σ ε α := do
  notes x.notes
  return x.value

end Run

end Pageflow
