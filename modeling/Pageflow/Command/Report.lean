/-
  Pageflow.Command.Report — carrying a command line out.

  The page is loaded, the command is run from the state that the line describes, and a report is
  left: the result as indented JSON, or the failure with what caused it, after the alerts that
  came up meanwhile.

  Main definitions: `Line.flow`, `Command.perform` and `Line.report`.
-/
import Pageflow.Command.Line
import Pageflow.Document.Writing
import Pageflow.Http.Timeout
import Pageflow.Run.Host
import Pageflow.Standard

namespace Pageflow

/-! ## §1. Failures -/

namespace Run

/-- What caused a failure, the nearest cause first; most failures say it themselves. -/
def HostError.causes : HostError → List String
  | .input _ _ cause => [cause.message]
  | .externalCall _ _ cause => cause.message :: cause.causes
  | _ => []

end Run

namespace Command

/-- Why a command line comes to nothing. -/
inductive Failure where
  | timeout (e : Http.TimeoutError)
  | location (e : Load.LocationError)
  | load (page : String) (e : Load.LoadError)
  | body (e : Json.SyntaxError)
  | host (e : Run.HostError)

/-- What failed. -/
def Failure.message : Failure → String
  | .timeout e => e.message
  | .location e => e.message
  | .load page _ => "load page " ++ page
  | .body _ => "--body must be JSON"
  | .host e => e.message

/-- What caused it, the nearest cause first. -/
def Failure.causes : Failure → List String
  | .timeout _ => []
  | .location (.unresolved _ _ cause) => [cause.message]
  | .location _ => []
  | .load _ e => [e.message]
  | .body e => [e.message]
  | .host e => e.causes

/-! ## §2. Texts -/

/-- Lines of a text, the first after `head` and the others as far in as `head` is long. -/
def hung (head s : String) : String :=
  let margin := "\n" ++ String.ofList (head.toList.map fun _ => ' ')
  head ++ margin.intercalate ((Text.splitAt '\n' s.toList).map String.ofList)

/-- A number before a cause, in five places. -/
def causeNumber (n : Nat) : String :=
  let digits := toString n
  String.ofList (List.replicate (5 - digits.length) ' ') ++ digits ++ ": "

/-- Causes on lines of their own, with numbers if there are several. -/
def causeLines : List String → List String
  | [cause] => [hung "    " cause]
  | causes => causes.mapIdx fun n cause => hung (causeNumber n) cause

/-- The text of a failure. -/
def Failure.text (e : Failure) : String :=
  let causes := (causeLines e.causes).map fun line => "\n" ++ line
  let causes := if causes.isEmpty then "" else "\n\nCaused by:" ++ String.join causes
  "Error: " ++ e.message ++ causes ++ "\n"

/-- What a command leaves. -/
structure Report where
  /-- Zero if the command succeeded. -/
  status : Nat
  output : String
  messages : String
deriving DecidableEq, Inhabited

/-- The alerts that a state shows, a line each. -/
def alertLines (s : Run.State) : String :=
  String.join (s.displays.map fun
    | .alert message => "alert: " ++ message ++ "\n"
    | _ => "")

/-- The report of a result that came with these alerts. -/
def Report.ofResult (alerts : String) : Except Failure Json → Report
  | .ok v => ⟨0, v.pretty ++ "\n", alerts⟩
  | .error e => ⟨1, "", alerts ++ e.text⟩

/-- The exit status of a line that is not carried out. -/
def UsageError.status (e : UsageError) : Nat := if e.isAnswer then 0 else 2

end Command

/-! ## §3. Commands -/

open Command (Failure)

namespace Command

/-- The activities that have run. -/
def executedJson (s : Run.State) : Json := .array (s.executed.map (·.toJson))

/-- A result and the activities that have run. -/
def withExecuted (members : List (String × Json)) : Run Run.State Failure Json := do
  return .object (members ++ [("executedActivities", executedJson (← Run.get))])

/-- The body of a call, which has to be JSON. -/
def bodyOf (body : Option String) : Except Failure (Option Json) :=
  match body with
  | none => .ok none
  | some raw => ((Json.parse? raw).map some).mapError .body

/-- The activities of a flow that cannot run. -/
def inactiveJson (flow : Flow) : Json :=
  .array (flow.inactive.map fun a =>
    (⟨a.service, a.name, a.title⟩ : Document.Executed).toJson)

/-- Runs a command on a flow. -/
def perform (flow : Flow) : Command → Run Run.State Failure Json
  | .run service activity => do
    let result ← (Run.executeActivity flow service activity true).mapError .host
    withExecuted [("result", result)]
  | .sequence service name => do
    let results ← (Run.executeSequence flow service name).mapError .host
    withExecuted [("results", .array results)]
  | .call service activity parameters body bare => do
    let body ← Run.ofExcept (bodyOf body)
    let parameters := Dict.ofList (parameters.map fun (name, text) => (name, value text))
    (Run.externalCall flow
      { service, activity, parameters, body, ownValues := !bare }).mapError .host
  | .autostart => do
    (Run.autostart flow).mapError .host
    withExecuted []
  | .inactive => return inactiveJson flow
  | .storage key service => (Run.storedValue flow key service).mapError .host

/-! ## §4. Lines -/

namespace Line

/-- The state that a line describes, before anything has run. -/
def state (l : Line) (flow : Flow) : Run.State :=
  let s : Run.State := { Run.initial flow with query := l.query, listener := .listening }
  let s := l.settings.inputs.foldl (fun s a => s.setValue a.service a.input (value a.text)) s
  l.settings.files.foldl (fun s a => s.setFile a.service a.input a.text) s

/-- The flow of the page that a line names. -/
def flow (l : Line) (timeout : Option String) : Run (List Note) Failure Flow := do
  let _ ← Run.ofExcept ((Http.timeout timeout).mapError .timeout)
  let location ← Run.ofExcept ((Load.Location.parse l.page).mapError .location)
  (Load.loadPage Standard.registry l.options location).mapError (.load l.page)

/-- Carries a line out; `timeout` is the variable of the environment that sets the time for
requests. -/
def report {ε : Type} (l : Line) (timeout : Option String) : Run (List Note) ε Report := do
  match ← Run.attempt (l.flow timeout) with
  | .error e => return .ofResult "" (.error e)
  | .ok flow =>
    let (result, s) ← Run.isolated (l.state flow) (l.command.perform flow)
    return .ofResult (alertLines s) result

end Line

end Command

end Pageflow
