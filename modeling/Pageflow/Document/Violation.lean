/-
  Pageflow.Document.Violation — what is wrong with a document, and where.

  A violation is a rule and the place of the node that breaks it: the member names and item
  numbers from the root down.
-/
import Pageflow.Json.Value
import Pageflow.Text.Blank

namespace Pageflow.Document

/-- The rules a document can break. -/
inductive Rule where
  /-- A document is given by its place or spelled out. -/
  | originGiven
  /-- A bridge has a backend. -/
  | backendGiven
  /-- A capability names an operation or a function. -/
  | targetGiven
  /-- A selector names an identifier, or a path and a method. -/
  | selectorComplete
  /-- An activity does not name both a capability and a function. -/
  | oneExecution
  /-- An activity names a capability or a function. -/
  | executionGiven
  /-- A text is not blank, a list is not empty. -/
  | notEmpty
  /-- A generated value names exactly one of a capability and a function. -/
  | oneGenerator
  /-- An OpenAPI document has a version that starts with `3.`. -/
  | versionSupported (version : String)
  /-- The version is a text. -/
  | versionIsText
  /-- The document is of the older Swagger family. -/
  | notSwagger (version : String)
  /-- The document declares its version. -/
  | versionGiven
  /-- At least one operation is declared. -/
  | operationsGiven
  /-- The paths are an object. -/
  | pathsAreObject
  /-- The paths are there. -/
  | pathsGiven
  /-- The operation of a capability exists. -/
  | operationFound (capability reason : String)
deriving DecidableEq

/-- What the author is told. -/
def Rule.message : Rule → String
  | .originGiven => "must have either `uri` or `instance`"
  | .backendGiven => "must declare `openapiSchemaUri`, `openapiSchema`, or `apiClientModuleUri`"
  | .targetGiven => "must declare `operation` or `functionName`"
  | .selectorComplete => "must declare `operationId` or both `path` and `method`"
  | .oneExecution => "must not declare both `bridgeCapability` and `moduleFunction`"
  | .executionGiven => "must declare `bridgeCapability` or `moduleFunction`"
  | .notEmpty => "must not be empty"
  | .oneGenerator => "must declare exactly one of `bridgeCapability` or `moduleFunction`"
  | .versionSupported version => "unsupported OpenAPI version '" ++ version ++ "'; expected 3.x"
  | .versionIsText => "must be a string"
  | .notSwagger version =>
    "Swagger " ++ version ++ " document detected; OpenAPI 3.x is required"
  | .versionGiven => "must have required property 'openapi'"
  | .operationsGiven => "declares no HTTP operations"
  | .pathsAreObject => "must be object"
  | .pathsGiven => "must have required property 'paths'"
  | .operationFound _ reason => reason

/-- Details for programs. -/
def Rule.params : Rule → Json
  | .originGiven => missing "uri"
  | .backendGiven => missing "openapiSchemaUri"
  | .targetGiven => missing "operation"
  | .selectorComplete => missing "operationId"
  | .oneExecution | .oneGenerator =>
    .object [("oneOf", .array [.string "bridgeCapability", .string "moduleFunction"])]
  | .executionGiven => missing "bridgeCapability"
  | .notEmpty => .object [("limit", .integer 1)]
  | .versionSupported version | .notSwagger version => .object [("version", .string version)]
  | .versionIsText => .object [("type", .string "string")]
  | .versionGiven => missing "openapi"
  | .operationsGiven => .null
  | .pathsAreObject => .object [("type", .string "object")]
  | .pathsGiven => missing "paths"
  | .operationFound capability _ => .object [("capability", .string capability)]
where
  /-- A property that is not there. -/
  missing (name : String) : Json := .object [("missingProperty", .string name)]

/-- A broken rule and the place of the node. -/
structure Violation where
  place : List String
  rule : Rule
deriving DecidableEq

namespace Violation

/-- The place as a pointer: a slash before every name. -/
def pointer (v : Violation) : String := String.join (v.place.map fun name => "/" ++ name)

/-- The place and the message. -/
def line (v : Violation) : String := v.pointer ++ ": " ++ v.rule.message

/-- The violation as seen from further up. -/
def under (place : List String) (v : Violation) : Violation := { v with place := place ++ v.place }

/-- The report on a document, one violation a line. -/
def report (document : String) (vs : List Violation) : String :=
  document ++ " document failed validation:\n" ++ "\n".intercalate (vs.map fun v => "  " ++ v.line)

end Violation

end Pageflow.Document
