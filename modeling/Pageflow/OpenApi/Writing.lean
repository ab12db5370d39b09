/-
  Pageflow.OpenApi.Writing — operations and security schemes as JSON.
-/
import Pageflow.Json.Writing
import Pageflow.OpenApi.Schema

namespace Pageflow.OpenApi

/-- A parameter: its name, its location, and whether it is required. -/
def Parameter.toJson (p : Parameter) : Json :=
  .array [.string p.name, .string p.location.label, .bool p.required]

/-- The media type of a body. -/
def Content.toJson : Content → Json
  | .json => .string "json"
  | .multipart => .string "multipart"
  | .other mediaType => .object [("other", .string mediaType)]

/-- An operation. -/
def Operation.toJson (o : Operation) : Json :=
  .object [("path", .string o.path), ("method", .string o.method),
    ("operationId", .ofText? o.operationId),
    ("parameters", .array (o.parameters.map Parameter.toJson)),
    ("parameterNames", .ofTexts o.parameterNames), ("headers", .ofPairs o.headers),
    ("requestContent", .ofOption Content.toJson o.content)]

/-- A security scheme. -/
def Scheme.toJson : Scheme → Json
  | .apiKey name location =>
    .object [("apiKey", .string name), ("in", .string location.label)]
  | .bearer => .string "bearer"
  | .basic => .string "basic"
  | .other kind => .object [("other", .string kind)]

end Pageflow.OpenApi
