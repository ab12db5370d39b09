/-
  Pageflow.Remote.Operation — operations of a remote service.

  A backend is what all operations of a bridge share.  Where requests go and which credentials
  they carry is found out anew before every call; that is the endpoint.
-/
import Pageflow.Function
import Pageflow.OpenApi.Schema

namespace Pageflow.Remote

/-- What the operations of one bridge share. -/
structure Backend where
  service : String
  /-- The server that the document names. -/
  defaultServer : Option String := none
  schemes : Dict OpenApi.Scheme := []
  /-- The server that the binding names. -/
  server : Option Document.ValueSource := none
  /-- The source of the credential of each scheme. -/
  authorization : Dict Document.ValueSource := []
  /-- Where the bodies of failures have their message. -/
  errorMessagePath : Option String := none
deriving DecidableEq

/-- Where one call goes, and with which credentials by scheme. -/
structure Endpoint where
  /-- The server of this call, if it is not that of the document. -/
  server : Option String := none
  credentials : Dict String := []
deriving DecidableEq

/-- A capability that is an operation of a backend. -/
structure Operation where
  capability : String
  operation : OpenApi.Operation
  postProcess : Option Function := none
  backend : Backend
deriving DecidableEq

/-- The names of the parameters, in order. -/
def Operation.parameterNames (o : Operation) : List String := o.operation.parameterNames

end Pageflow.Remote
