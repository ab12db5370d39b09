/-
  Pageflow.Load.Failure — why a page cannot be loaded.
-/
import Pageflow.Document.Decode
import Pageflow.Document.Violation
import Pageflow.Load.Document
import Pageflow.Load.Integrity

namespace Pageflow.Load

/-- The kinds of documents. -/
inductive Kind where
  | page
  | process
  | bridge
  | openApi
deriving DecidableEq, Inhabited

/-- The name of a kind. -/
def Kind.label : Kind → String
  | .page => "page"
  | .process => "process"
  | .bridge => "bridge"
  | .openApi => "openapi"

/-- What a bridge lacks. -/
inductive BridgeGap where
  | source
  | backend
deriving DecidableEq, Inhabited

/-- The wording of what is lacking. -/
def BridgeGap.message : BridgeGap → String
  | .source => "bridge has neither uri nor instance"
  | .backend => "bridge declares no execution backend"

/-- The failure to load a page. -/
inductive LoadError where
  | fetch (location : String) (cause : FetchError)
  | parse (kind : Kind) (location : String) (cause : Document.DecodeError)
  | validation (kind : Kind) (violations : List Document.Violation)
  | integrity (problems : List Problem)
  | moduleNotFound (place : String)
  | bridge (service : String) (gap : BridgeGap)
  | missingProcess

/-- The wording of a failure. -/
def LoadError.message : LoadError → String
  | .fetch location cause => "failed to fetch " ++ location ++ ": " ++ cause.message
  | .parse kind location cause =>
    "invalid " ++ kind.label ++ " document " ++ location ++ ": " ++ cause.message
  | .validation kind violations => Document.Violation.report kind.label violations
  | .integrity problems =>
    "integrity check failed:\n" ++ "\n".intercalate (problems.map Problem.message)
  | .moduleNotFound place => "module '" ++ place ++ "' is not registered"
  | .bridge service gap =>
    "Loading bridge failed for service:'" ++ service ++ "': " ++ gap.message
  | .missingProcess => "page document defines no process"

end Pageflow.Load
