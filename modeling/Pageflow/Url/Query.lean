/-
  Pageflow.Url.Query — query strings.

  Pairs are separated by `&`, a name from its value by the first `=`; in both a plus sign is a
  space and escapes are decoded.  Of equal names the last value stands at the first place.
-/
import Pageflow.Dict
import Pageflow.Text.Blank
import Pageflow.Text.Percent

namespace Pageflow.Url

/-- A name or value of a query string. -/
def queryText (cs : List Char) : String :=
  let spaced := cs.map fun c => if c = '+' then ' ' else c
  Utf8.decodeLossy (Percent.decodeBytes (Utf8.encode (String.ofList spaced)))

/-- One pair. -/
def queryPair (piece : List Char) : String × String :=
  match Text.cutAt? '=' piece with
  | some (name, value) => (queryText name, queryText value)
  | none => (queryText piece, "")

/-- The variables of a query string, with or without its leading question mark. -/
def parseQuery (raw : String) : Dict String :=
  let cs := match raw.toList with
    | '?' :: cs => cs
    | cs => cs
  Dict.ofList (((Text.splitAt '&' cs).filter (!·.isEmpty)).map queryPair)

end Pageflow.Url
