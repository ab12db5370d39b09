/-
  Pageflow.OpenApi.Operation — finding operations in OpenAPI documents.

  A selector names an operation by path and method or by its identifier.  The operation found is
  flattened to what a request needs: its parameters, with those of the path first and replaced in
  place by entries of the operation with the same name and location; fixed headers; and the media
  type of its body.
-/
import Pageflow.Document.Bridge
import Pageflow.Json.Pointer

namespace Pageflow.OpenApi

/-! ## §1. Types -/

/-- The methods under a path, in the order in which identifiers are searched. -/
def methods : List String :=
  ["get", "put", "post", "delete", "options", "head", "patch", "trace"]

/-- Where a parameter goes in a request. -/
inductive Location where
  | path
  | query
  | header
  | cookie
deriving DecidableEq

/-- The name of a location. -/
def Location.label : Location → String
  | .path => "path"
  | .query => "query"
  | .header => "header"
  | .cookie => "cookie"

/-- The location of this name. -/
def Location.ofLabel? : String → Option Location
  | "path" => some .path
  | "query" => some .query
  | "header" => some .header
  | "cookie" => some .cookie
  | _ => none

/-- A parameter of an operation. -/
structure Parameter where
  name : String
  location : Location
  required : Bool
deriving DecidableEq

/-- The media type of a request body. -/
inductive Content where
  | json
  | multipart
  | other (mediaType : String)
deriving DecidableEq

/-- An operation, flattened. -/
structure Operation where
  path : String
  method : String
  operationId : Option String
  parameters : List Parameter
  headers : Dict String
  content : Option Content
deriving DecidableEq

/-- The names of the parameters, in order. -/
def Operation.parameterNames (o : Operation) : List String := o.parameters.map Parameter.name

/-- Why there is no operation. -/
inductive LookupError where
  | pathNotFound (path : String)
  | methodNotFound (path method : String)
  | operationIdNotFound (id : String)
  | incompleteSelector
deriving DecidableEq

/-- The wording of a failed lookup. -/
def LookupError.message : LookupError → String
  | .pathNotFound path => "OpenAPI path '" ++ path ++ "' not found"
  | .methodNotFound path method =>
    "OpenAPI method '" ++ method ++ "' not found for path '" ++ path ++ "'"
  | .operationIdNotFound id => "OpenAPI operationId '" ++ id ++ "' not found"
  | .incompleteSelector => "operation must name an operationId or a path and method"

/-! ## §2. Parameters of an operation -/

/-- The node that a local reference names; a leading `#` does not count. -/
def resolveReference? (root : Json) (reference : String) : Option Json :=
  match reference.toList with
  | '#' :: pointer => root.resolve? (String.ofList pointer)
  | _ => root.resolve? reference

/-- A node, or what it refers to if that exists. -/
def dereference (root node : Json) : Json :=
  match node.textAt? "$ref" with
  | some reference => (resolveReference? root reference).getD node
  | none => node

/-- What tells the entries of a parameter list apart. -/
abbrev EntryKey := String × String

/-- The name and location of an entry, if both are texts and not empty. -/
def entryKey? (entry : Json) : Option EntryKey :=
  let name := (entry.textAt? "name").getD ""
  let location := (entry.textAt? "in").getD ""
  if name.isEmpty || location.isEmpty then none else some (name, location)

/-- Writes an entry: in place of the one with its key, else at the end. -/
def putEntry (key : EntryKey) (entry : Json) : List (EntryKey × Json) → List (EntryKey × Json)
  | [] => [(key, entry)]
  | (k, e) :: rest => if k = key then (k, entry) :: rest else (k, e) :: putEntry key entry rest

/-- Adds the entries of one level. -/
def addLevel (root : Json) (merged : List (EntryKey × Json)) (level : Json) :
    List (EntryKey × Json) :=
  (((level.get? "parameters").bind Json.items?).getD []).foldl
    (fun merged entry =>
      let resolved := dereference root entry
      match entryKey? resolved with
      | some key => putEntry key resolved merged
      | none => merged)
    merged

/-- The parameter entries of a path and an operation of it. -/
def collectParameters (root pathItem operation : Json) : List Json :=
  (addLevel root (addLevel root [] pathItem) operation).map Prod.snd

/-- A parameter from its entry. -/
def parameter? (entry : Json) : Option Parameter := do
  let name ← entry.textAt? "name"
  let location ← Location.ofLabel? (← entry.textAt? "in")
  let required := ((entry.get? "required").bind Json.bool?).getD (location = .path)
  return { name, location, required }

/-! ## §3. Flattening -/

/-- The members of an object that are texts. -/
def textMembers (node : Json) (key : String) : Dict String :=
  (((node.get? key).bind Json.members?).getD []).filterMap fun (name, v) =>
    v.text?.map fun s => (name, s)

/-- The media type of the body: JSON if it is offered, else multipart, else the first one. -/
def content? (root operation : Json) : Option Content :=
  match ((operation.get? "requestBody").bind fun body =>
      (dereference root body).get? "content").bind Json.members? with
  | none => none
  | some offered =>
    if offered.contains "application/json" then some .json
    else if offered.contains "multipart/form-data" then some .multipart
    else offered.head?.map fun (name, _) => .other name

/-- An operation with the parameters of its path. -/
def flatten (root : Json) (path method : String) (pathItem operation : Json) : Operation where
  path
  method
  operationId := operation.textAt? "operationId"
  parameters := (collectParameters root pathItem operation).filterMap parameter?
  headers := textMembers operation "headers"
  content := content? root operation

/-! ## §4. Lookup -/

/-- The operation with this identifier under one path. -/
def findUnderPath? (root : Json) (id path : String) (pathItem : Json) : Option Operation :=
  methods.findSome? fun method =>
    match pathItem.get? method with
    | some operation =>
      if operation.textAt? "operationId" = some id then
        some (flatten root path method pathItem operation)
      else none
    | none => none

/-- The first operation with this identifier. -/
def findById? (root : Json) (id : String) : Option Operation :=
  (((root.get? "paths").bind Json.members?).getD []).findSome? fun (path, pathItem) =>
    findUnderPath? root id path pathItem

/-- The operation that a selector names; path and method count first. -/
def findOperation (root : Json) (selector : Document.Selector) :
    Except LookupError Operation :=
  match selector.path, selector.method with
  | some path, some method =>
    match (root.get? "paths").bind fun paths => paths.get? path with
    | none => .error (.pathNotFound path)
    | some pathItem =>
      let method := Text.lowerAscii method
      match pathItem.get? method with
      | none => .error (.methodNotFound path method)
      | some operation => .ok (flatten root path method pathItem operation)
  | _, _ =>
    match selector.operationId with
    | none => .error .incompleteSelector
    | some id =>
      match findById? root id with
      | some operation => .ok operation
      | none => .error (.operationIdNotFound id)

end Pageflow.OpenApi
