/-
  Pageflow.Run.Call — calling functions from a run.

  A plain output is the result.  An output in the manner of a response is opened first: a status
  above 299 is a failure, a JSON body is read, any other body is a list of bytes.
-/
import Pageflow.Http.Content
import Pageflow.Json.Writing
import Pageflow.Run.Failure
import Pageflow.Run.Task

namespace Pageflow

/-! ## §1. Outputs -/

/-- The greatest status that is no failure. -/
def FunctionResponse.statusLimit : Nat := 299

/-- The result that a response carries. -/
def FunctionResponse.result (r : FunctionResponse) : Except Run.ExecutionError Json :=
  if r.status > statusLimit then
    .error (.http r.status (if r.statusText.isEmpty then s!"status {r.status}" else r.statusText))
  else if r.contentType.any fun type => Text.occurs "application/json".toList type.toList then
    (Json.parseBytes? r.body).mapError fun e => .decode e.message
  else .ok (.ofBytes r.body)

/-- The result that an output carries. -/
def Output.result : Output → Except Run.ExecutionError Json
  | .value v => .ok v
  | .response r => r.result

/-! ## §2. Calls -/

namespace Run

variable {σ : Type}

/-- Calls a function with arguments by position. -/
def call (f : Function) (arguments : List Json) : Run σ Fault Output := fun s =>
  .ask (.call f arguments) s fun answer s => .done answer s

/-- Calls a function with arguments by name. -/
def callNamed (f : Function) (parameters : Dict Json) (body : Option Json) : Run σ Fault Output :=
  call f (f.arguments parameters body)

/-- The result of a function. -/
def callFunction (f : Function) (parameters : Dict Json) (body : Option Json) :
    Run σ ExecutionError Json := do
  let output ← (callNamed f parameters body).mapError fun e => .function e.message
  ofExcept output.result

/-- A value as the function for it changes it, if there is one. -/
def callPostProcess (f? : Option Function) (value : Json) : Run σ ExecutionError Json :=
  match f? with
  | none => pure value
  | some f => do
    let output ← (call f [value]).mapError fun e => .postProcess (f.name ++ ": " ++ e.message)
    ofExcept output.result

/-- The result of a capability; `null` is no response. -/
def callCapability [Journal σ] (c : ModuleCapability) (parameters : Dict Json)
    (body : Option Json) : Run σ ExecutionError Json := do
  note (.debug "calling module capability"
    [("capability", c.name), ("function", c.function.name)])
  let output ← (callNamed c.function parameters body).mapError fun e => .function e.message
  match output with
  | .value .null => fail (.response "No response")
  | output =>
    let value ← ofExcept output.result
    callPostProcess c.postProcess value

end Run

end Pageflow
