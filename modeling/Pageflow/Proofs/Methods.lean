/-
  Pageflow.Proofs.Methods — the methods of the requests that are sent.

  Under a path, a document has operations, and beside them members that are none: a summary,
  servers, extensions.  Looking for an identifier passes these over.  Looking for a path and a
  method does not: it takes whatever has the name of the method in lower case.  So what is found is
  an operation exactly if the method of the selector, if that counts, is one of those that
  operations have; and then a capability sends only requests that are made from an operation of the
  document.

  Main definitions: `NamesMethod`, `Operation.Makes` and `SendsOnly`.
  Main statements: `only_operations_are_sent`, and `summary_is_sent` on what is left out.
-/
import Pageflow.Proofs.Headers
import Pageflow.Proofs.Operations

namespace Pageflow

open Document (Selector)

/-! ## §1. The method of what is found. -/

namespace OpenApi

/-- If the path and the method of the selector count, then the method, in lower case, is one of
those that operations have. -/
def NamesMethod (selector : Selector) : Prop :=
  ∀ path method, selector.path = some path → selector.method = some method →
    Text.lowerAscii method ∈ methods

variable {root : Json} {selector : Selector} {path method : String} {found : Operation}

/-- By a path and a method, what has the name of the method under the path is found, whether it is
an operation or not. -/
theorem exists_member_of_findOperation (hpath : selector.path = some path)
    (hmethod : selector.method = some method) (h : findOperation root selector = .ok found) :
    ∃ d : Declared, d.method = Text.lowerAscii method ∧ (d.path, d.pathItem) ∈ paths root
      ∧ d.pathItem.get? d.method = some d.operation ∧ found = d.flattened root := by
  unfold findOperation at h
  rw [hpath, hmethod] at h
  dsimp only at h
  rw [← get?_paths] at h
  split at h
  next => contradiction
  next pathItem item =>
    split at h
    next => contradiction
    next operation member =>
      exact ⟨⟨path, Text.lowerAscii method, pathItem, operation⟩, rfl, Dict.mem_of_get? item,
        member, (Except.ok.inj h).symm⟩

/-- Else only an operation is found. -/
theorem exists_operation_of_findOperation
    (incomplete : selector.path = none ∨ selector.method = none)
    (h : findOperation root selector = .ok found) :
    ∃ d ∈ operations root, found = d.flattened root := by
  rw [findOperation_of_incomplete incomplete] at h
  split at h
  next => contradiction
  next id _ =>
    split at h
    next d first => exact ⟨d, List.mem_of_find?_eq_some first, (Except.ok.inj h).symm⟩
    next => contradiction

theorem method_of_mem_operations {d : Declared} (hd : d ∈ operations root) : d.method ∈ methods :=
  (mem_operations.mp hd).2.1

theorem namesMethod_of_incomplete (incomplete : selector.path = none ∨ selector.method = none) :
    NamesMethod selector := by
  intro path method hpath hmethod
  rw [hpath, hmethod] at incomplete
  rcases incomplete with incomplete | incomplete <;> contradiction

/-- A path and a method that count name a method that operations have exactly if the method is one
of these. -/
theorem namesMethod_of_complete (hpath : selector.path = some path)
    (hmethod : selector.method = some method) :
    NamesMethod selector ↔ Text.lowerAscii method ∈ methods := by
  constructor
  · exact fun names => names path method hpath hmethod
  · intro named _ other _ hother
    obtain rfl := Option.some.inj (hmethod.symm.trans hother)
    exact named

/-- **What is found is an operation exactly if the method that counts is one that operations
have.** -/
theorem namesMethod_iff (h : findOperation root selector = .ok found) :
    (NamesMethod selector ↔ found.method ∈ methods)
    ∧ (NamesMethod selector → ∃ d ∈ operations root, found = d.flattened root) := by
  by_cases incomplete : selector.path = none ∨ selector.method = none
  · obtain ⟨d, hd, rfl⟩ := exists_operation_of_findOperation incomplete h
    have names := namesMethod_of_incomplete incomplete
    exact ⟨⟨fun _ => method_of_mem_operations hd, fun _ => names⟩, fun _ => ⟨d, hd, rfl⟩⟩
  · obtain ⟨hpath, hmethod⟩ := not_or.mp incomplete
    obtain ⟨path, hpath⟩ := Option.ne_none_iff_exists'.mp hpath
    obtain ⟨method, hmethod⟩ := Option.ne_none_iff_exists'.mp hmethod
    obtain ⟨d, spelled, item, member, rfl⟩ := exists_member_of_findOperation hpath hmethod h
    have names : NamesMethod selector ↔ d.method ∈ methods := by
      rw [spelled]
      exact namesMethod_of_complete hpath hmethod
    exact ⟨names, fun h => ⟨d, mem_operations.mpr ⟨item, names.mp h, member⟩, rfl⟩⟩

end OpenApi

/-! ## §2. The operations of a bridge. -/

/-- A capability that is available has a definition. -/
theorem Bridge.exists_definition {service : String} {definitions : Dict Document.Capability}
    {resolve : String → Document.Capability → Noted (Except Unavailable Capability)}
    {name : String} {c : Capability}
    (h : (ofDefinitions service definitions resolve).value.capability name = .ok c) :
    ∃ definition, definitions.get? name = some definition
      ∧ (resolve name definition).value = .ok c := by
  cases hd : definitions.get? name with
  | none =>
    unfold capability at h
    rw [get?_ofDefinitions, hd] at h
    contradiction
  | some definition => exact ⟨definition, rfl, (capability_ofDefinitions_iff hd).mp h⟩

namespace Load

/-- **An operation of a loaded bridge is what its selector finds** in the document that serves the
bridge. -/
theorem exists_selector_of_stems {registry : Registry} {service : String}
    {binding : Document.Binding} {base : Location} {b : Bridge} {document : Document.Bridge}
    {server : Server} (stems : Stems registry service binding base b document server)
    {name : String} {o : Remote.Operation} (ho : b.capability name = .ok (.remote o)) :
    ∃ root definition selector, server = .openApi root
      ∧ document.capabilities.get? name = some definition
      ∧ definition.operation = some selector
      ∧ OpenApi.findOperation root selector = .ok o.operation := by
  obtain ⟨support, _, rfl⟩ := stems.made
  cases server with
  | client client =>
    obtain ⟨definition, _, resolved⟩ := Bridge.exists_definition ho
    exact absurd resolved not_remote_of_moduleCapability
  | openApi root =>
    obtain ⟨definition, hd, resolved⟩ := Bridge.exists_definition ho
    cases selects : definition.operation with
    | none =>
      have nothing : Bridge.selected definition root = .error .noSelector := by
        rw [Bridge.selected, selects]
      exact absurd resolved (Bridge.not_remote_of_not_selected nothing o)
    | some selector =>
      exact ⟨root, definition, selector, rfl, hd, selects,
        (Bridge.remoteCapability_eq_remote_iff selects _).mp ⟨o, rfl, resolved⟩⟩

end Load

/-! ## §3. What a call sends. -/

/-- The request is made from this operation. -/
def Remote.Operation.Makes (o : Operation) (endpoint : Endpoint) (parameters : Dict Json)
    (r : Http.Request) : Prop :=
  ∃ server body, o.server endpoint = .ok server
    ∧ r = { o.outline (Text.upperAscii o.operation.method) server endpoint.credentials parameters
            with body }

theorem Remote.Operation.Makes.method {o : Operation} {endpoint : Endpoint}
    {parameters : Dict Json} {r : Http.Request} (h : o.Makes endpoint parameters r) :
    r.method = Text.upperAscii o.operation.method := by
  obtain ⟨server, body, _, rfl⟩ := h
  obtain ⟨headers, outlined⟩ := outline_eq o _ server endpoint.credentials parameters
  exact congrArg Http.Request.method outlined

namespace Run

/-- Nothing is relied on, and only such requests are sent. -/
abbrev sendTerms (σ : Type) (P : Http.Request → Prop) : Terms σ where
  state _ := True
  answer _ _ := True
  question q := ∀ request, q = .send request → P request

/-- Whatever the answers are and whatever others do, the run sends only such requests. -/
def SendsOnly {σ ε α : Type} (P : Http.Request → Prop) (r : Run σ ε α) : Prop :=
  r.Keeps (sendTerms σ P) fun _ => True

variable {σ : Type} {P : Http.Request → Prop}

theorem call_sendsOnly (f : Function) (arguments : List Json) :
    (call f arguments : Run σ Fault Output).SendsOnly P :=
  fun _ _ => ⟨fun _ h => by contradiction, trivial, fun _ _ _ _ => ⟨trivial, fun _ _ => trivial⟩⟩

theorem callPostProcess_sendsOnly (f? : Option Function) (value : Json) :
    (callPostProcess f? value : Run σ ExecutionError Json).SendsOnly P := by
  cases f? with
  | none => exact keeps_pure trivial
  | some f =>
    refine keeps_bind (keeps_mapError (call_sendsOnly f _)) ?_
    intro output _
    exact keeps_ofExcept fun _ _ => trivial

theorem send_sendsOnly {r : Http.Request} (h : P r) :
    (Remote.Operation.send r : Run σ _ _).SendsOnly P := by
  have own : (sendTerms σ P).question (.send r) := by
    rintro _ ⟨⟩
    exact h
  refine keeps_bind (keeps_ask own) ?_
  intro answer _
  split
  · exact keeps_pure trivial
  · exact keeps_fail _

variable [Journal σ]

/-- A request is made from the operation, and nothing is sent meanwhile. -/
theorem request_makes (o : Remote.Operation) (endpoint : Remote.Endpoint)
    (parameters : Dict Json) (value : Option Json) :
    (o.request endpoint parameters value : Run σ _ _).Keeps (fileTerms σ)
      (o.Makes endpoint parameters) := by
  refine keeps_bind (keeps_ofExcept fun _ own => own) fun server own => ?_
  refine keeps_bind (asksFiles_ofExcept _) fun url _ => ?_
  refine keeps_bind (keeps_notes (fun _ _ => id) _) fun _ _ => ?_
  refine keeps_bind (keeps_ofExcept fun _ own => own) fun method spelled => ?_
  refine keeps_bind (body_asksFiles o value) fun body _ => keeps_pure ?_
  unfold Remote.Operation.method at spelled
  dsimp only at spelled
  split at spelled
  · contradiction
  · obtain rfl := Except.ok.inj spelled
    exact ⟨server, body, own, rfl⟩

/-- **A call sends only requests that are made from the operation.** -/
theorem operationCall_sendsOnly (o : Remote.Operation) (endpoint : Remote.Endpoint)
    (parameters : Dict Json) (value : Option Json) :
    (o.call endpoint parameters value : Run σ _ _).SendsOnly (o.Makes endpoint parameters) := by
  -- to make the request only files are asked for, so the one that is sent is the one that was made
  have files : ∀ q, (fileTerms σ).question q →
      (sendTerms σ (o.Makes endpoint parameters)).question q := by
    rintro _ about request rfl
    contradiction
  refine keeps_bind ((request_makes o endpoint parameters value).mono files fun _ made => made)
    fun request made => ?_
  refine keeps_bind (keeps_note (fun _ _ => id) _) fun _ _ => ?_
  refine keeps_bind (send_sendsOnly made) fun response _ => ?_
  refine keeps_bind (keeps_ofExcept fun _ _ => trivial) fun value _ => ?_
  exact callPostProcess_sendsOnly _ _

end Run

/-- The request that a task waits for the response to. -/
def Task.request? {σ α : Type} : Task σ α → Option Http.Request
  | .ask (.send r) _ _ => some r
  | _ => none

/-! ## §4. Only operations are sent. -/

namespace Load

open OpenApi (NamesMethod Operation findOperation methods operations)
open Run (SendsOnly)

/-- **Only operations are sent, if methods are named.**  What a selector finds in a document is an
operation, with one of the methods that operations have, exactly if the method of the selector, if
it counts, is one of these.  And whenever a capability of a loaded bridge is an operation, then it
is what its selector finds in the document that serves the bridge; so if that selector names such a
method, then a call of the capability, whatever it is called with, sends only requests that are made
from an operation of the document, with its method. -/
theorem only_operations_are_sent (registry : Registry) (validate : Bool) (service : String)
    (binding : Document.Binding) (base : Location) :
    (∀ (root : Json) (selector : Selector) (found : Operation),
      findOperation root selector = .ok found →
        (NamesMethod selector ↔ found.method ∈ methods)
        ∧ (NamesMethod selector → ∃ d ∈ operations root, found = d.flattened root))
    ∧ ∀ (s t : PartedLog) (b : Bridge),
      (bridge registry validate service binding base s).Ends (.ok b) t →
      ∀ (name : String) (o : Remote.Operation), b.capability name = .ok (.remote o) →
        ∃ document root definition selector,
          Stems registry service binding base b document (.openApi root)
          ∧ document.capabilities.get? name = some definition
          ∧ definition.operation = some selector
          ∧ findOperation root selector = .ok o.operation
          ∧ (NamesMethod selector →
              ∃ d ∈ operations root, o.operation = d.flattened root ∧ d.method ∈ methods
                ∧ ∀ (σ : Type) [Journal σ] (endpoint : Remote.Endpoint) (parameters : Dict Json)
                    (value : Option Json),
                  (o.call endpoint parameters value : Run σ _ _).SendsOnly fun r =>
                    o.Makes endpoint parameters r ∧ r.method = Text.upperAscii d.method) := by
  constructor
  · intro root selector found h
    exact OpenApi.namesMethod_iff h
  · intro s t b loaded name o ho
    obtain ⟨document, server, stems, _⟩ := ends_bridge_ok loaded
    obtain ⟨root, definition, selector, rfl, hd, selects, found⟩ :=
      exists_selector_of_stems stems ho
    refine ⟨document, root, definition, selector, stems, hd, selects, found, fun names => ?_⟩
    obtain ⟨d, member, flat⟩ := (OpenApi.namesMethod_iff found).2 names
    refine ⟨d, member, flat, OpenApi.method_of_mem_operations member, ?_⟩
    intro σ _ endpoint parameters value
    have method : o.operation.method = d.method := congrArg Operation.method flat
    refine (Run.operationCall_sendsOnly o endpoint parameters value).mono ?_ fun _ h => h
    intro q sent request hq
    have made := sent request hq
    exact ⟨made, made.method.trans (congrArg Text.upperAscii method)⟩

/-! ## §5. Staff and its summary. -/

/-- Staff can be listed, and what is under its path has a summary. -/
def staffApi : Json := .object
  [("openapi", .string "3.0.3"),
    ("servers", .array [.object [("url", .string "https://api.example.com")]]),
    ("paths", .object [("/staff", .object
      [("summary", .string "Staff"), ("get", OpenApi.named "staff")])])]

/-- The path of the staff with this method. -/
def staffBy (method : String) : Selector := { path := some "/staff", method := some method }

def staffDocument (method : String) : Document.Bridge where
  execute := { openApi := some staffApi }
  capabilities := [("staff", { operation := some (staffBy method) })]

def staffBinding (method : String) : Document.Binding where
  source := { inline := some (staffDocument method) }

/-- The bridge is loaded, with validation. -/
def staffBridge (method : String) : Run PartedLog LoadError Bridge :=
  bridge [] true "staff" (staffBinding method) (.file "page.json")

/-- The operation that the capability is, and the request that a call of it waits for the response
to. -/
def staffCall? (method : String) : Option (Operation × Http.Request) :=
  (staffBridge method []).value?.bind fun b =>
    match b.capability "staff" with
    | .ok (.remote o) =>
      (o.call {} [] none ({} : Run.State)).request?.map fun r => (o.operation, r)
    | _ => none

theorem exists_of_staffCall? {method : String} {found : Operation} {name : String}
    (h : (staffCall? method).map (fun (found, r) => (found, r.method)) = some (found, name)) :
    ∃ b t o, (staffBridge method []).Ends (.ok b) t ∧ b.capability "staff" = .ok (.remote o)
      ∧ o.operation = found
      ∧ ∃ r, (o.call {} [] none ({} : Run.State)).request? = some r ∧ r.method = name := by
  obtain ⟨⟨own, r⟩, called, same⟩ := Option.map_eq_some_iff.mp h
  obtain ⟨rfl, rfl⟩ := Prod.mk.inj same
  obtain ⟨b, value, called⟩ := Option.bind_eq_some_iff.mp called
  obtain ⟨t, ends⟩ := Task.exists_ends_of_value? value
  split at called
  next o available =>
    obtain ⟨r, requested, same⟩ := Option.map_eq_some_iff.mp called
    obtain ⟨rfl, rfl⟩ := Prod.mk.inj same
    exact ⟨b, t, o, ends, available, rfl, r, requested, rfl⟩
  next => contradiction

/-- What the path and the method lead to in the list of the staff. -/
def staffMember (method : String) (id : Option String) : Operation :=
  ⟨"/staff", method, id, [], [], none⟩

/-- The method is found in any letter case, and a call has no other method. -/
theorem only_operations_are_sent_staff : ∃ b t o, (staffBridge "Get" []).Ends (.ok b) t
    ∧ b.capability "staff" = .ok (.remote o) ∧ o.operation.method ∈ methods
    ∧ (o.call {} [] none : Run Run.State _ _).SendsOnly fun r => r.method = "GET" := by
  have called : (staffCall? "Get").map (fun (found, r) => (found, r.method))
      = some (staffMember "get" (some "staff"), "GET") := by
    decide +kernel
  obtain ⟨b, t, o, ends, available, operation, -⟩ := exists_of_staffCall? called
  obtain ⟨found, bound⟩ := only_operations_are_sent [] true "staff" (staffBinding "Get")
    (.file "page.json")
  obtain ⟨document, root, definition, selector, stems, hd, selects, finds, sends⟩ :=
    bound _ _ _ ends _ _ available
  -- what the bridge comes of is what it was given
  obtain ⟨_, _, _, _, _, ⟨given, _⟩, served⟩ := stems.found
  obtain rfl := (Prod.mk.inj (Except.ok.inj given)).1
  obtain rfl := Server.openApi.inj (Except.ok.inj served.1)
  obtain rfl := Option.some.inj hd
  obtain rfl := Option.some.inj selects
  have names : OpenApi.NamesMethod (staffBy "Get") := by
    rintro _ _ - ⟨⟩
    decide +kernel
  obtain ⟨d, _, flat, _, only⟩ := sends names
  have method : d.method = "get" := congrArg Operation.method (flat.symm.trans operation)
  refine ⟨b, t, o, ends, available, (found _ _ _ finds).1.mp names, ?_⟩
  refine (only Run.State {} [] none).mono ?_ fun _ h => h
  intro q sent request hq
  rw [(sent request hq).2, method]
  decide +kernel

/-- The summary of what is under the path is taken for an operation, though nothing is wrong with
the bridge and its document, and a call of the capability sends a request with a method that no
operation has. -/
theorem summary_is_sent :
    findOperation staffApi (staffBy "summary") = .ok (staffMember "summary" none)
    ∧ (staffMember "summary" none).method ∉ methods
    ∧ ∃ b t o, (staffBridge "summary" []).Ends (.ok b) t
      ∧ b.capability "staff" = .ok (.remote o) ∧ o.operation = staffMember "summary" none
      ∧ ∃ r, (o.call {} [] none ({} : Run.State)).request? = some r ∧ r.method = "SUMMARY"
        ∧ r.method ∉ methods.map Text.upperAscii := by
  have called : (staffCall? "summary").map (fun (found, r) => (found, r.method))
      = some (staffMember "summary" none, "SUMMARY") := by
    decide +kernel
  obtain ⟨b, t, o, ends, available, operation, r, requested, method⟩ :=
    exists_of_staffCall? called
  refine ⟨by decide +kernel, by decide +kernel, b, t, o, ends, available, operation, r, requested,
    method, ?_⟩
  rw [method]
  decide +kernel

end Load

end Pageflow
