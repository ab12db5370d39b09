/-
  Pageflow.Run.Writing — what a run does, as JSON.

  A failure is written with its kind, its wording and details of its own; what is shown, reported
  and noted is written in the order of its parts.
-/
import Pageflow.Flow.Writing
import Pageflow.Run.Host

namespace Pageflow

/-- An entry of a log: severity, message and fields. -/
def Note.toJson (n : Note) : Json :=
  .array [.string n.severity.label, .string n.message,
    .ofEntries (n.fields.map fun (name, v) => (name, match v with
      | .text s => .string s
      | .count k => .ofNat k))]

namespace Run

/-- A failure: its kind, its wording, and details. -/
def failureJson (kind message : String) (detail : Json) : Json :=
  .object [("error", .string kind), ("message", .string message), ("detail", detail)]

/-! ## §1. Failures -/

/-- The name of a kind of failure. -/
def FailureKind.label : FailureKind → String
  | .requirements => "RequiredActivitiesNotExecuted"
  | .parameters => "ParametersError"
  | .execution => "ExecutionFailed"

/-- The failure of an activity. -/
def ActivityFailure.toJson (f : ActivityFailure) : Json :=
  .object [("service", .string f.service), ("activity", .string f.activity),
    ("kind", .string f.kind.label), ("alertText", .string f.alertText)]

/-- The kind of an execution error. -/
def ExecutionError.label : ExecutionError → String
  | .function _ => "Function"
  | .http _ _ => "Http"
  | .transport _ => "Transport"
  | .postProcess _ => "PostProcess"
  | .reference _ => "Reference"
  | .response _ => "Response"
  | .decode _ => "Decode"
  | .configuration _ => "Configuration"
  | .input _ => "Input"

/-- An execution error; its detail is the status of a response. -/
def ExecutionError.toJson (e : ExecutionError) : Json :=
  failureJson e.label e.message (match e with
    | .http status _ => .ofNat status
    | _ => .null)

/-- The kind of a host error. -/
def HostError.label : HostError → String
  | .alreadyRunning _ => "AlreadyRunning"
  | .unknownService _ => "UnknownService"
  | .unknownActivity _ _ => "UnknownActivity"
  | .unknownSequence _ _ => "UnknownSequence"
  | .unknownInput _ _ => "UnknownInput"
  | .activity _ => "Activity"
  | .input _ _ _ => "Input"
  | .autostart _ => "Autostart"
  | .externalCall _ _ _ => "ExternalCall"

/-- What a host error is about: names, or the failure below it. -/
def HostError.detail : HostError → Json
  | .alreadyRunning service | .unknownService service => .string service
  | .unknownActivity service name | .unknownSequence service name
  | .unknownInput service name => .ofTexts [service, name]
  | .activity f => f.toJson
  | .input _ _ cause => cause.toJson
  | .autostart cause | .externalCall _ _ cause =>
    failureJson cause.label cause.message cause.detail

/-- A host error. -/
def HostError.toJson (e : HostError) : Json := failureJson e.label e.message e.detail

/-! ## §2. What is shown and reported -/

/-- Something that is shown. -/
def Display.toJson : Display → Json
  | .content service target value =>
    .array [.string "output", .string service, .string target, value]
  | .inputs service names => .array [.string "inputs", .string service, .ofTexts names]
  | .openInput service value position =>
    .array [.string "openInput", .string service, value, .string position.label]
  | .alert message => .ofTexts ["alert", message]

/-- The name of a kind of event. -/
def EventKind.label : EventKind → String
  | .completed => "activityCompleted"
  | .failed => "activityFailed"

/-- An event: its kind, and the service, name and title of the activity. -/
def Event.toJson (e : Event) : Json :=
  .ofTexts [e.kind.label, e.activity.serviceName, e.activity.activityName, e.activity.title]

/-- Whether a service runs, and for what. -/
def ServiceState.runningJson (s : ServiceState) : Json :=
  match s.running with
  | some name => .object [("running", .string name)]
  | none => .string "idle"

/-- A service as it is now. -/
def serviceJson (service : Flow.Service) (s : ServiceState) : Json :=
  service.toJson s.store.name s.inputs.values

/-- The services of a flow as they are now, and then the process. -/
def servicesJson (flow : Flow) (s : State) : Json :=
  .array (flow.services.filterMap (fun (name, service) =>
      (s.services.get? name).map (serviceJson service))
    ++ [serviceJson flow.common s.process])

end Run

end Pageflow
