/-
  Pageflow.Document.Bridge — what stands behind a service.

  A bridge document names a backend (an OpenAPI document or a client module) and the capabilities
  it offers.  A binding connects a service to a bridge document, with a server and credentials
  that come from literal texts, query parameters or inputs.
-/
import Pageflow.Json.Value

namespace Pageflow.Document

/-- A document given by its place or spelled out. -/
structure Origin (α : Type) where
  uri : Option String := none
  inline : Option α := none
deriving Inhabited

/-- Whether neither is given. -/
def Origin.isEmpty {α : Type} (s : Origin α) : Bool := s.uri.isNone && s.inline.isNone

/-- The backend; an OpenAPI document wins over a client module. -/
structure Backend where
  openApiUri : Option String := none
  openApi : Option Json := none
  clientModuleUri : Option String := none
deriving DecidableEq, Inhabited

/-- Whether the backend is an OpenAPI document. -/
def Backend.isOpenApi (b : Backend) : Bool := b.openApi.isSome || b.openApiUri.isSome

/-- Names an operation by path and method, or by its identifier. -/
structure Selector where
  path : Option String := none
  method : Option String := none
  operationId : Option String := none
deriving DecidableEq, Inhabited

/-- One capability. -/
structure Capability where
  operation : Option Selector := none
  functionName : Option String := none
  postProcess : Option String := none
deriving DecidableEq, Inhabited

/-- A bridge document. -/
structure Bridge where
  execute : Backend := {}
  capabilities : Dict Capability := []
  supportModuleUri : Option String := none
  errorMessagePath : Option String := none
deriving DecidableEq, Inhabited

/-- Where the text of a server or credential comes from. -/
inductive ValueSource where
  | literal (s : String)
  | constant (s : String)
  | queryParam (name : String)
  | field (name : String)
deriving DecidableEq, Inhabited

/-- The bridge of a service. -/
structure Binding where
  server : Option ValueSource := none
  authorization : Dict ValueSource := []
  source : Origin Bridge := {}
deriving Inhabited

end Pageflow.Document
