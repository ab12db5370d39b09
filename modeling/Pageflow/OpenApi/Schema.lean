/-
  Pageflow.OpenApi.Schema — what an OpenAPI document says as a whole: its server, its security
  schemes, and whether it can serve any request at all.
-/
import Pageflow.Document.Violation
import Pageflow.OpenApi.Operation

namespace Pageflow.OpenApi

/-! ## §1. Server and security -/

/-- The first server of a document. -/
def defaultServer? (root : Json) : Option String :=
  (((root.get? "servers").bind Json.items?).bind List.head?).bind fun server =>
    server.textAt? "url"

/-- How a security scheme carries its credential. -/
inductive Scheme where
  | apiKey (name : String) (location : Location)
  | bearer
  | basic
  | other (kind : String)
deriving DecidableEq

/-- A scheme from its node. -/
def schemeOf (name : String) (node : Json) : Scheme :=
  match (node.textAt? "type").getD "" with
  | "apiKey" =>
    .apiKey ((node.textAt? "name").getD name)
      (((node.textAt? "in").bind Location.ofLabel?).getD .header)
  | "http" =>
    match (node.textAt? "scheme").map Text.lowerAscii with
    | some "basic" => .basic
    | some "bearer" => .bearer
    | _ => .other "http"
  | kind => .other kind

/-- The security schemes of a document. -/
def securitySchemes (root : Json) : Dict Scheme :=
  ((root.get? "components").bind fun components =>
      (components.get? "securitySchemes").bind Json.members?).getD []
    |>.map fun (name, node) => (name, schemeOf name node)

/-! ## §2. Soundness of the whole -/

/-- What is wrong with the version. -/
def versionViolations (root : Json) : List Document.Violation :=
  match root.get? "openapi" with
  | some (.string version) =>
    if "3.".toList.isPrefixOf version.toList then []
    else [⟨["openapi"], .versionSupported version⟩]
  | some _ => [⟨["openapi"], .versionIsText⟩]
  | none =>
    match root.textAt? "swagger" with
    | some version => [⟨["swagger"], .notSwagger version⟩]
    | none => [⟨[], .versionGiven⟩]

/-- Whether a path has an operation. -/
def hasOperation (pathItem : Json) : Bool :=
  (pathItem.members?.getD []).any fun (key, _) => methods.contains key

/-- What is wrong with the paths. -/
def pathViolations (root : Json) : List Document.Violation :=
  match root.get? "paths" with
  | some (.object paths) =>
    if paths.any fun (_, item) => hasOperation item then [] else [⟨["paths"], .operationsGiven⟩]
  | some _ => [⟨["paths"], .pathsAreObject⟩]
  | none => [⟨[], .pathsGiven⟩]

/-- What is wrong with a document. -/
def violations (root : Json) : List Document.Violation :=
  versionViolations root ++ pathViolations root

/-- The capabilities whose operation does not exist. -/
def unresolved (root : Json) (capabilities : Dict Document.Capability) :
    List Document.Violation :=
  capabilities.filterMap fun (name, capability) =>
    capability.operation.bind fun selector =>
      match findOperation root selector with
      | .ok _ => none
      | .error e => some ⟨["capabilities", name, "operation"], .operationFound name e.message⟩

end Pageflow.OpenApi
