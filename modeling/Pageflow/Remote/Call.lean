/-
  Pageflow.Remote.Call — calling an operation.

  The request is noted without secrets before it is sent.  A response that is no success fails
  with its status, and with the message in its body if the bridge says where it stands.  A
  successful response without a body is `null`; a JSON body has to be JSON; any other body is
  JSON if it can be read as such, else text.
-/
import Pageflow.Http.Status
import Pageflow.Remote.Request
import Pageflow.Run.Call
import Pageflow.Text.Redaction

namespace Pageflow.Remote

open Run (ExecutionError)

/-! ## §1. What is noted -/

/-- A request on one line, with its query and its authorization. -/
def requestLine (r : Http.Request) : String :=
  r.method ++ " " ++ r.url
    ++ (if r.query.isEmpty then ""
      else "?" ++ "&".intercalate (r.query.map fun (name, value) => name ++ "=" ++ value))
    ++ (match r.header? "Authorization" with
      | some value => " authorization: " ++ value
      | none => "")

/-- A failure to send without the secrets that it may quote. -/
def redactFailure : Http.TransportError → Http.TransportError
  | .invalidRequest reason => .invalidRequest (Text.redact reason)
  | .network reason => .network (Text.redact reason)

namespace Operation

/-! ## §2. Responses -/

/-- The message of a response that is no success. -/
def failureMessage (o : Operation) (r : Http.Response) : String :=
  let status := "Error: " ++ Http.phrase r.status ++ s!" ({r.status})"
  match o.backend.errorMessagePath.bind fun path => Http.errorMessage? r.text path with
  | some message => message ++ " " ++ status
  | none => status

/-- The value that a response carries. -/
def interpret (o : Operation) (r : Http.Response) : Except ExecutionError Json :=
  if !r.isSuccess then .error (.http r.status (o.failureMessage r))
  else if r.body.isEmpty then .ok .null
  else if r.isJson then
    (Http.parseContent r.text (some r.status)).mapError fun e => .decode e.message
  else
    match Json.parse? r.text with
    | .ok value => .ok value
    | .error _ => .ok (.string r.text)

/-! ## §3. Calls -/

/-- Sends a request. -/
def send {σ : Type} (r : Http.Request) : Run σ ExecutionError Http.Response := do
  match ← Run.ask (.send r) with
  | .ok response => return response
  | .error e => Run.fail (.transport (redactFailure e))

/-- The result of a call. -/
def call {σ : Type} [Journal σ] (o : Operation) (endpoint : Endpoint) (parameters : Dict Json)
    (body : Option Json) : Run σ ExecutionError Json := do
  let request ← o.request endpoint parameters body
  Run.note (.debug "calling remote operation"
    [("service", o.backend.service), ("capability", o.capability),
      ("request", Text.redact (requestLine request))])
  let response ← send request
  let value ← Run.ofExcept (o.interpret response)
  Run.callPostProcess o.postProcess value

end Operation

end Pageflow.Remote
