/-
  Pageflow.Command.Line — command lines.

  A line names a page, what the page is given, how it is checked, and one command with its
  operands and options.  What is wrong inside the command is told first, then what is wrong
  before it.

  Main definitions: `Command`, `Line` and `Line.parse`.
-/
import Pageflow.Command.Words
import Pageflow.Load.Page
import Pageflow.Url.Query

namespace Pageflow

/-! ## §1. Lines -/

/-- What is done with a page. -/
inductive Command where
  /-- Run an activity. -/
  | run (service activity : String)
  /-- Run a sequence. -/
  | sequence (service name : String)
  /-- Call only the strategy of an activity. -/
  | call (service activity : String) (parameters : List (String × String)) (body : Option String)
      (bare : Bool)
  /-- Run what the page starts with. -/
  | autostart
  /-- List the activities that cannot run. -/
  | inactive
  /-- Read a stored value, of the process unless a service is named. -/
  | storage (key : String) (service : Option String)
deriving DecidableEq, Inhabited

namespace Command

/-- What stands before the command. -/
structure Settings where
  page : Option String := none
  query : List (String × String) := []
  queryString : Option String := none
  inputs : List Assignment := []
  files : List Assignment := []
  /-- Whether documents are taken as they are. -/
  unchecked : Bool := false
  /-- Whether every integrity problem is fatal. -/
  strict : Bool := false
deriving DecidableEq, Inhabited

/-- A command line. -/
structure Line where
  page : String
  settings : Settings
  command : Command
deriving DecidableEq, Inhabited

/-! ## §2. What options do -/

/-- A value that may be given once. -/
def once {α : Type} (name : String) (known : Option α) (a : α) : Except UsageError (Option α) :=
  match known with
  | some _ => .error (.repeated name)
  | none => .ok (some a)

/-- A switch that may be given once. -/
def switchOn (name : String) (known : Bool) : Except UsageError Bool :=
  if known then .error (.repeated name) else .ok true

/-- A value as an assignment, added to those before it. -/
def added {α : Type} (name : String) (parse : String → Except AssignmentError α) (known : List α)
    (text : String) : Except UsageError (List α) :=
  match parse text with
  | .ok a => .ok (known ++ [a])
  | .error cause => .error (.badValue name cause)

/-! ## §3. Before the command -/

/-- The names of commands. -/
def names : List String := ["run", "sequence", "call", "autostart", "inactive", "storage"]

/-- The name that asks for help. -/
def helpName : String := "help"

/-- What may stand before a command. -/
def beforeCommand : Vocabulary Settings where
  options :=
    [("page", .valued fun text s => do return { s with page := ← once "page" s.page text }),
      ("query", .valued fun text s => do
        return { s with query := ← added "query" pair s.query text }),
      ("query-string", .valued fun text s => do
        return { s with queryString := ← once "query-string" s.queryString text }),
      ("input", .valued fun text s => do
        return { s with inputs := ← added "input" Assignment.parse s.inputs text }),
      ("file", .valued fun text s => do
        return { s with files := ← added "file" Assignment.parse s.files text }),
      ("no-validate", .switch fun s => do
        return { s with unchecked := ← switchOn "no-validate" s.unchecked }),
      ("strict-integrity", .switch fun s => do
        return { s with strict := ← switchOn "strict-integrity" s.strict }),
      ("help", .stop .help), ("version", .stop .version)]
  letters := [('h', .help), ('V', .version)]
  commands := names ++ [helpName]

/-! ## §4. Inside the command -/

/-- What a command is told. -/
structure Details where
  operands : List String := []
  parameters : List (String × String) := []
  body : Option String := none
  bare : Bool := false
  service : Option String := none
deriving DecidableEq, Inhabited

/-- The options of a command besides that for help. -/
def optionsOf : String → List (String × Meaning Details)
  | "call" =>
    [("param", .valued fun text d => do
        return { d with parameters := ← added "param" pair d.parameters text }),
      ("body", .valued fun text d => do return { d with body := ← once "body" d.body text }),
      ("no-params", .switch fun d => do
        return { d with bare := ← switchOn "no-params" d.bare })]
  | "storage" =>
    [("service", .valued fun text d => do
        return { d with service := ← once "service" d.service text })]
  | _ => []

/-- The number of operands of a command. -/
def operandCount : String → Nat
  | "run" | "sequence" | "call" => 2
  | "storage" => 1
  | _ => 0

/-- What may stand after the name of a command. -/
def afterName (name : String) : Vocabulary Details where
  options := optionsOf name ++ [("help", .stop .help)]
  letters := [('h', .help)]
  operands := List.replicate (operandCount name) fun word d =>
    { d with operands := d.operands ++ [word] }

/-- The command of this name with all its operands. -/
def ofDetails? (name : String) (d : Details) : Option Command :=
  match name, d.operands with
  | "run", [service, activity] => some (.run service activity)
  | "sequence", [service, steps] => some (.sequence service steps)
  | "call", [service, activity] => some (.call service activity d.parameters d.body d.bare)
  | "autostart", [] => some .autostart
  | "inactive", [] => some .inactive
  | "storage", [key] => some (.storage key d.service)
  | _, _ => none

/-- The command of this name with the words after it. -/
def parse (name : String) (words : List String) : Except UsageError Command := do
  let (p, _) ← (afterName name).read {} words
  match ofDetails? name (← p.settle).read with
  | some command => return command
  | none => .error .incomplete

/-! ## §5. Whole lines -/

/-- What is answered to a question for help: the words name a command, if any, and no more. -/
def helpOn : List String → UsageError
  | [] => .help
  | [name] => if beforeCommand.commands.contains name then .help else .unknownCommand name
  | name :: other :: _ =>
    .unknownCommand (if beforeCommand.commands.contains name then other else name)

namespace Line

/-- The line with the settings before its command. -/
def ofSettings (s : Settings) (command : Command) : Except UsageError Line :=
  match s.page with
  | some page => .ok ⟨page, s, command⟩
  | none => .error .incomplete

/-- The line that the words of a command line make. -/
def parse (words : List String) : Except UsageError Line := do
  let (p, found) ← beforeCommand.read {} words
  match found with
  | none =>
    let p ← p.settle
    .error (if p.read = {} then .nothing else .noCommand)
  | some (name, rest) =>
    if name = helpName then .error (helpOn rest)
    else
      let command ← Command.parse name rest
      ofSettings (← p.settle).read command

/-- The query parameters; those given one by one go over the query string. -/
def query (l : Line) : Dict String :=
  ((l.settings.queryString.map Url.parseQuery).getD []).insertAll l.settings.query

/-- How the page is loaded. -/
def options (l : Line) : Load.Options where
  validate := !l.settings.unchecked
  integrity := if l.settings.strict then Load.Check.all else []

end Line

end Command

end Pageflow
