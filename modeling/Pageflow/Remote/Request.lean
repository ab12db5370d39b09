/-
  Pageflow.Remote.Request — the request of one call.

  Parameters go where the operation declares them; one without a value, or with `null`, is left
  out.  Headers are written one after the other, a later one in place of an earlier one of the
  same name: parameters, then the headers of the operation, then credentials, then the cookies,
  then the media type of a JSON body.

  Main definitions: `Operation.outline`, the request without its body, and `Operation.request`.
-/
import Pageflow.Http.Server
import Pageflow.Remote.Operation
import Pageflow.Run.Input
import Pageflow.Url.Template

namespace Pageflow.Remote

open Http (Body Part)
open Run (ExecutionError)

/-! ## §1. Credentials -/

/-- A piece of a request that carries a credential. -/
inductive Carrier where
  | header (name value : String)
  | query (name value : String)
  | cookie (name value : String)
deriving DecidableEq

/-- How the credential of a scheme is carried; that of an unknown scheme goes as it is. -/
def carrier (schemes : Dict OpenApi.Scheme) (scheme credential : String) : Carrier :=
  match schemes.get? scheme with
  | some (.apiKey name .query) => .query name credential
  | some (.apiKey name .cookie) => .cookie name credential
  | some (.apiKey name .header) | some (.apiKey name .path) => .header name credential
  | some .bearer => .header "Authorization" ("Bearer " ++ credential)
  | some .basic => .header "Authorization" ("Basic " ++ credential)
  | some (.other _) | none => .header "Authorization" credential

/-- The header that a carrier is. -/
def Carrier.header? : Carrier → Option (String × String)
  | .header name value => some (name, value)
  | _ => none

/-- The query pair that a carrier is. -/
def Carrier.query? : Carrier → Option (String × String)
  | .query name value => some (name, value)
  | _ => none

/-- The cookie that a carrier is. -/
def Carrier.cookie? : Carrier → Option (String × String)
  | .cookie name value => some (name, value)
  | _ => none

/-! ## §2. The pieces of a request -/

/-- A parameter's value, unless it is missing or `null`. -/
def given? (parameters : Dict Json) (name : String) : Option Json :=
  match parameters.get? name with
  | none | some .null => none
  | some value => some value

namespace Operation

/-- The parameters at a location that have a value, in declared order. -/
def placed (o : Operation) (location : OpenApi.Location) (parameters : Dict Json) :
    List (String × Json) :=
  o.operation.parameters.filterMap fun p =>
    if p.location = location then (given? parameters p.name).map fun value => (p.name, value)
    else none

/-- The parameters at a location as texts. -/
def placedTexts (o : Operation) (location : OpenApi.Location) (parameters : Dict Json) :
    List (String × String) :=
  (o.placed location parameters).map fun (name, value) => (name, value.toText)

/-- The carriers of the credentials, in order. -/
def carriers (o : Operation) (credentials : Dict String) : List Carrier :=
  credentials.map fun (scheme, credential) => carrier o.backend.schemes scheme credential

/-- The cookies: parameters, then credentials. -/
def cookies (o : Operation) (credentials : Dict String) (parameters : Dict Json) :
    List (String × String) :=
  o.placedTexts .cookie parameters ++ (o.carriers credentials).filterMap Carrier.cookie?

/-- The text of the cookie header. -/
def cookieText (cookies : List (String × String)) : String :=
  "; ".intercalate (cookies.map fun (name, value) => name ++ "=" ++ value)

/-- The headers in the order in which they are written. -/
def headerWrites (o : Operation) (credentials : Dict String) (parameters : Dict Json) :
    List (String × String) :=
  let cookies := o.cookies credentials parameters
  o.placedTexts .header parameters ++ o.operation.headers
    ++ (o.carriers credentials).filterMap Carrier.header?
    ++ (if cookies.isEmpty then [] else [("Cookie", cookieText cookies)])
    ++ (if o.operation.content = some .json then [("content-type", "application/json")] else [])

/-- The path with its parameters filled in. -/
def path (o : Operation) (parameters : Dict Json) : String :=
  Url.expand o.operation.path (Dict.ofList (o.placed .path parameters))

/-- The request without its body. -/
def outline (o : Operation) (method server : String) (credentials : Dict String)
    (parameters : Dict Json) : Http.Request :=
  (o.headerWrites credentials parameters).foldl (fun r (name, value) => r.setHeader name value)
    { method
      url := Url.joinPath server (o.path parameters)
      query := o.placedTexts .query parameters
        ++ (o.carriers credentials).filterMap Carrier.query? }

end Operation

/-! ## §3. Bodies -/

/-- The bytes that a list of small numbers spells. -/
def bytes? : Json → Option Bytes
  | .array (item :: items) =>
    (item :: items).mapM fun item =>
      item.nat?.bind fun n => if n ≤ 255 then some n.toUInt8 else none
  | _ => none

/-- The part for one member of a multipart body.  A file that was kept as a file is read. -/
def part {σ : Type} (value : Json) : Run σ ExecutionError Part :=
  match Run.keptFile? value with
  | some (name, path) => do return .bytes (some name) (← Run.readFile path)
  | none =>
    match bytes? value with
    | some data => return .bytes none data
    | none => return .text value.toText

/-- The parts for the members of a multipart body. -/
def parts {σ : Type} : List (String × Json) → Run σ ExecutionError (List (String × Part))
  | [] => return []
  | (name, value) :: rest => do
    let p ← part value
    return (name, p) :: (← parts rest)

namespace Operation

/-- The JSON body for a value; a text is sent as it stands. -/
def jsonBody : Option Json → Body
  | none | some .null => .empty
  | some (.string s) => .text s
  | some value => .json value

/-- The body of a request. -/
def body {σ : Type} [Journal σ] (o : Operation) (value : Option Json) :
    Run σ ExecutionError Body :=
  match o.operation.content with
  | none => return .empty
  | some .json => return jsonBody value
  | some .multipart => do return .multipart (← parts ((value.bind Json.members?).getD []))
  | some (.other mediaType) => do
    Run.note (.error "Unsupported request body content type"
      [("service", o.backend.service), ("capability", o.capability),
        ("content_type", mediaType)])
    return .empty

/-! ## §4. Requests -/

/-- The server of a call. -/
def server (o : Operation) (endpoint : Endpoint) : Except ExecutionError String :=
  match endpoint.server.or o.backend.defaultServer with
  | some server => .ok server
  | none =>
    .error (.configuration ("no server configured for service '" ++ o.backend.service ++ "'"))

/-- Whether a character may stand in a method. -/
def isMethodChar (c : Char) : Bool := c.isAlphanum || "!#$%&'*+-.^_`|~".toList.contains c

/-- The method of a call. -/
def method (o : Operation) : Except ExecutionError String :=
  let name := o.operation.method
  if name.isEmpty || !name.toList.all isMethodChar then
    .error (.configuration ("invalid method '" ++ name ++ "': invalid HTTP method"))
  else .ok (Text.upperAscii name)

/-- The request of a call. -/
def request {σ : Type} [Journal σ] (o : Operation) (endpoint : Endpoint) (parameters : Dict Json)
    (value : Option Json) : Run σ ExecutionError Http.Request := do
  let server ← Run.ofExcept (o.server endpoint)
  let url ← Run.ofExcept ((Http.server server).mapError fun e => .configuration e.message)
  Run.notes (Http.serverNotes url)
  let method ← Run.ofExcept o.method
  let body ← o.body value
  return { o.outline method server endpoint.credentials parameters with body }

end Operation

end Pageflow.Remote
