/-
  Pageflow.Http.Message — requests, responses and what can go wrong between them.

  A request names each header once: writing a header drops every other spelling of its name and
  puts the new one last.  A response keeps its header names in lower case.

  Main statements: `header?_setHeader_self` and `header?_setHeader_of_ne`.
-/
import Pageflow.Json.Printer
import Pageflow.Text.Blank
import Pageflow.Text.Utf8

namespace Pageflow.Http

/-! ## §1. Requests -/

/-- One part of a multipart body. -/
inductive Part where
  | text (s : String)
  | bytes (fileName : Option String) (data : Bytes)
deriving DecidableEq

/-- The body of a request. -/
inductive Body where
  | empty
  | json (value : Json)
  | text (s : String)
  | multipart (parts : List (String × Part))
deriving DecidableEq

/-- A request without its query written into the URL. -/
structure Request where
  method : String
  url : String
  headers : List (String × String) := []
  query : List (String × String) := []
  body : Body := .empty
deriving DecidableEq

namespace Request

/-- Writes a header in place of every one whose name differs in letter case only. -/
def setHeader (r : Request) (name value : String) : Request :=
  { r with headers := r.headers.filter (fun h => !Text.sameAscii h.1 name) ++ [(name, value)] }

/-- The header of this name, in any letter case. -/
def header? (r : Request) (name : String) : Option String :=
  (r.headers.find? fun h => Text.sameAscii h.1 name).map Prod.snd

theorem header?_setHeader_self (r : Request) (name value : String) :
    (r.setHeader name value).header? name = some value := by
  have hnone : (r.headers.filter fun h => !Text.sameAscii h.1 name).find?
      (fun h => Text.sameAscii h.1 name) = none := by
    simp [List.find?_eq_none]
  simp only [setHeader, header?, List.find?_append, hnone, List.find?_cons]
  simp [Text.sameAscii]

theorem header?_setHeader_of_ne (r : Request) {name other : String} (value : String)
    (h : Text.sameAscii name other = false) :
    (r.setHeader name value).header? other = r.header? other := by
  have hne : Text.lowerAscii name ≠ Text.lowerAscii other := by
    simpa [Text.sameAscii] using h
  have hfilter : (r.headers.filter fun e => !Text.sameAscii e.1 name).find?
      (fun e => Text.sameAscii e.1 other) = r.headers.find? fun e => Text.sameAscii e.1 other := by
    induction r.headers with
    | nil => rfl
    | cons e rest ih =>
      by_cases ho : Text.sameAscii e.1 other = true
      · have hn : Text.sameAscii e.1 name = false := by
          simp only [Text.sameAscii, decide_eq_true_eq, decide_eq_false_iff_not] at ho ⊢
          exact fun he => hne (he.symm.trans ho)
        simp [hn, ho]
      · by_cases hn : Text.sameAscii e.1 name = true <;> simp [hn, ho, ih]
  simp only [setHeader, header?, List.find?_append, hfilter, List.find?_cons, h]
  simp

end Request

/-! ## §2. Responses -/

/-- A response; its header names are in lower case. -/
structure Response where
  status : Nat
  headers : Dict String := []
  body : Bytes := []
deriving DecidableEq

namespace Response

/-- A response that carries a JSON value. -/
def json (status : Nat) (value : Json) : Response :=
  ⟨status, [("content-type", "application/json")], Utf8.encode value.print⟩

/-- The response with one more header. -/
def withHeader (r : Response) (name value : String) : Response :=
  { r with headers := r.headers.insert (Text.lowerAscii name) value }

/-- A status from 200 to 299. -/
def isSuccess (r : Response) : Bool := 200 ≤ r.status && r.status < 300

/-- The media type it declares. -/
def contentType? (r : Response) : Option String := r.headers.get? "content-type"

/-- Whether it declares a JSON body. -/
def isJson (r : Response) : Bool :=
  match r.contentType? with
  | some type =>
    "application/json".toList.isPrefixOf type.toList || Text.occurs "+json".toList type.toList
  | none => false

/-- The body as text. -/
def text (r : Response) : String := Utf8.decodeLossy r.body

end Response

/-! ## §3. No response at all -/

/-- Why there is no response. -/
inductive TransportError where
  | invalidRequest (reason : String)
  | network (reason : String)
deriving DecidableEq

/-- The wording of a failure. -/
def TransportError.message : TransportError → String
  | .invalidRequest reason => "invalid request: " ++ reason
  | .network reason => "Network error: " ++ reason

end Pageflow.Http
