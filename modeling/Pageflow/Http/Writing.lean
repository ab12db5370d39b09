/-
  Pageflow.Http.Writing — requests as JSON.

  A request is written with everything that is sent, so that what a run has sent can be told from
  its requests alone.
-/
import Pageflow.Http.Message
import Pageflow.Json.Writing

namespace Pageflow.Http

/-- A part of a multipart body. -/
def Part.toJson : Part → Json
  | .text s => .object [("text", .string s)]
  | .bytes fileName data => .object [("fileName", .ofText? fileName), ("bytes", .ofBytes data)]

/-- A body; that of a JSON value has its text as well. -/
def Body.toJson : Body → Json
  | .empty => .object [("kind", .string "empty")]
  | .json value =>
    .object [("kind", .string "json"), ("value", value), ("text", .string value.print)]
  | .text s => .object [("kind", .string "text"), ("text", .string s)]
  | .multipart parts =>
    .object [("kind", .string "multipart"),
      ("parts", .array (parts.map fun (name, p) => .array [.string name, p.toJson]))]

/-- A request. -/
def Request.toJson (r : Request) : Json :=
  .object [("method", .string r.method), ("url", .string r.url),
    ("headers", .ofPairs r.headers), ("query", .ofPairs r.query), ("body", r.body.toJson)]

end Pageflow.Http
