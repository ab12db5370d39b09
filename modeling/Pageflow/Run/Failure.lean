/-
  Pageflow.Run.Failure — how runs fail.

  A strategy fails with an execution error, an activity with its kind of failure and the titles
  to show, an operation of the host with what it could not find or with one of these.
-/
import Pageflow.Http.Message

namespace Pageflow.Run

/-! ## §1. Activities and strategies -/

/-- At which stage an activity failed. -/
inductive FailureKind where
  | requirements
  | parameters
  | execution
deriving DecidableEq, Inhabited

/-- The failure of an activity, with titles as a user knows them. -/
structure ActivityFailure where
  service : String
  activity : String
  kind : FailureKind
  message : String
deriving DecidableEq, Inhabited

/-- The text of the alert. -/
def ActivityFailure.alertText (f : ActivityFailure) : String :=
  "Activity-error (service: " ++ f.service ++ "):" ++ f.activity ++ " : " ++ f.message

/-- The failure of a strategy or of one of its inputs. -/
inductive ExecutionError where
  | function (message : String)
  | http (status : Nat) (message : String)
  | transport (e : Http.TransportError)
  | postProcess (message : String)
  | reference (f : ActivityFailure)
  | response (message : String)
  | decode (message : String)
  | configuration (message : String)
  | input (message : String)
deriving DecidableEq, Inhabited

/-- The wording of an execution error. -/
def ExecutionError.message : ExecutionError → String
  | .function message | .http _ message | .response message | .decode message
  | .configuration message | .input message => message
  | .transport e => e.message
  | .postProcess message => "postProcess failed: " ++ message
  | .reference f => "Referenced activity failed: " ++ f.message

/-! ## §2. Operations of the host -/

/-- The failure of an operation. -/
inductive HostError where
  | alreadyRunning (service : String)
  | unknownService (service : String)
  | unknownActivity (service activity : String)
  | unknownSequence (service sequence : String)
  | unknownInput (service input : String)
  | activity (f : ActivityFailure)
  | input (service input : String) (cause : ExecutionError)
  | autostart (cause : HostError)
  | externalCall (service activity : String) (cause : HostError)
deriving DecidableEq, Inhabited

/-- The wording of a host error. -/
def HostError.message : HostError → String
  | .alreadyRunning _ => "Activity already running"
  | .unknownService service => "unknown service '" ++ service ++ "'"
  | .unknownActivity service name =>
    "Service-activity " ++ service ++ ":" ++ name ++ " not found"
  | .unknownSequence service sequence =>
    "unknown sequence '" ++ sequence ++ "' in service '" ++ service ++ "'"
  | .unknownInput service name => "Service-UIElement " ++ service ++ ":" ++ name ++ " not found"
  | .activity f => f.message
  | .input service name cause =>
    "Service-UIElement " ++ service ++ ":" ++ name ++ " failed: " ++ cause.message
  | .autostart cause => "autostart activity failed: " ++ cause.message
  | .externalCall service name cause =>
    "Service-activity " ++ service ++ ":" ++ name ++ " failed: " ++ cause.message

end Pageflow.Run
