/-
  Pageflow.Http.Server — the addresses that requests go to.

  Requests are built against the address of a server that has a host and is reached by one of the
  two protocols of the web.
-/
import Pageflow.Http.Message
import Pageflow.Journal
import Pageflow.Url.Basic

namespace Pageflow.Http

/-- Why requests cannot be built against an address. -/
inductive ServerError where
  | invalid (text : String) (cause : Url.ParseError)
  | withoutHost (text : String)
  | foreignScheme (scheme : String)
deriving DecidableEq, Inhabited

/-- The wording of a refusal. -/
def ServerError.message : ServerError → String
  | .invalid text cause => "Invalid server URL '" ++ text ++ "': " ++ cause.message
  | .withoutHost text => "server URL '" ++ text ++ "' must include a host"
  | .foreignScheme scheme => "server URL must use http or https; got '" ++ scheme ++ "://'"

/-- The names of this machine. -/
def localHosts : List String := ["localhost", "127.0.0.1"]

/-- The address of a server. -/
def server (text : String) : Except ServerError Url :=
  match Url.parse text with
  | .error cause => .error (.invalid text cause)
  | .ok url =>
    match url.host? with
    | none => .error (.withoutHost text)
    | some _ =>
      if url.scheme = "https" || url.scheme = "http" then .ok url
      else .error (.foreignScheme url.scheme)

/-- What is noted about a server: that it is reached in the clear. -/
def serverNotes (url : Url) : List Note :=
  match url.host? with
  | some host =>
    if url.scheme = "http" && !localHosts.any fun name => Text.sameAscii host.text name then
      [.warn "server URL uses plain http" [("host", host.text)]]
    else []
  | none => []

/-- The refusal of a request whose address cannot be read. -/
def checkUrl (text : String) : Except TransportError Url :=
  (Url.parse text).mapError fun cause => .invalidRequest (text ++ ": " ++ cause.message)

end Pageflow.Http
