/-
  Pageflow.Load.Writing — failures to load as JSON.
-/
import Pageflow.Load.Bridge
import Pageflow.Document.Writing
import Pageflow.OpenApi.Writing

namespace Pageflow

/-- A violation: the place, what is wrong, and details. -/
def Document.Violation.toJson (v : Violation) : Json :=
  .object [("instancePath", .string v.pointer), ("message", .string v.rule.message),
    ("params", v.rule.params)]

namespace Load

/-- The kind of a failure. -/
def LoadError.label : LoadError → String
  | .fetch _ _ => "Fetch"
  | .parse _ _ _ => "Parse"
  | .validation _ _ => "Validation"
  | .integrity _ => "Integrity"
  | .moduleNotFound _ => "ModuleNotFound"
  | .bridge _ _ => "Bridge"
  | .missingProcess => "MissingProcess"

/-- What a failure is about. -/
def LoadError.detail : LoadError → Json
  | .fetch location _ => .string location
  | .parse kind location _ => .ofTexts [kind.label, location]
  | .validation kind violations =>
    .array [.string kind.label, .array (violations.map Document.Violation.toJson)]
  | .integrity problems => .ofTexts (problems.map Problem.message)
  | .moduleNotFound place => .string place
  | .bridge service _ => .string service
  | .missingProcess => .null

end Load

/-- A capability: what it does, with which parameters, and what changes its results. -/
def Capability.toJson : Capability → Json
  | .remote o =>
    .object [("kind", .string "remoteOperation"), ("parameterNames", .ofTexts o.parameterNames),
      ("target", .object [("operation", o.operation.toJson),
        ("server", .ofText? o.backend.defaultServer),
        ("errorMessagePath", .ofText? o.backend.errorMessagePath),
        ("schemes", .ofTexts o.backend.schemes.keys),
        ("binding", .array [.ofOption Document.ValueSource.toJson o.backend.server,
          .ofEntries (o.backend.authorization.mapValues Document.ValueSource.toJson)])]),
      ("postProcess", .ofText? (o.postProcess.map Function.name))]
  | .module c =>
    .object [("kind", .string "bridgeModule"),
      ("parameterNames", .ofTexts c.function.parameters), ("target", .string c.function.name),
      ("postProcess", .ofText? (c.postProcess.map Function.name))]

end Pageflow
