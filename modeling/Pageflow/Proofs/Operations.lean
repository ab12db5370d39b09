/-
  Pageflow.Proofs.Operations — which operation of a document is found.

  The operations of a document are listed path by path, in the order of the document, and under a
  path in the order of the methods.  To look for an identifier is to take the first operation of
  this list that has it; and the path and the method of what is found lead back to the same
  operation.  So a capability that names an identifier is bound to an operation exactly if it is
  not reported beforehand that there is none.

  Main definitions: `Declared`, `operations`, `SelectsId` and `SelectsAt`.
  Main statements: `findById?_eq`, `findOperation_of_selectsAt` and `identifiers_are_found`.
-/
import Pageflow.Proofs.Hooks
import Pageflow.Proofs.Tokens

namespace Pageflow

open Document (Selector)

namespace OpenApi

/-! ## §1. The operations of a document. -/

/-- An operation as it stands in a document. -/
structure Declared where
  path : String
  method : String
  pathItem : Json
  operation : Json

/-- The operation, flattened. -/
def Declared.flattened (root : Json) (d : Declared) : Operation :=
  flatten root d.path d.method d.pathItem d.operation

/-- Whether the operation has this identifier. -/
def Declared.hasId (id : String) (d : Declared) : Bool :=
  d.operation.textAt? "operationId" = some id

/-- The paths of a document. -/
def paths (root : Json) : Dict Json := ((root.get? "paths").bind Json.members?).getD []

/-- The operations under a path, in the order of these methods. -/
def operationsUnder (path : String) (pathItem : Json) (methods : List String) : List Declared :=
  methods.filterMap fun method =>
    (pathItem.get? method).map fun operation => ⟨path, method, pathItem, operation⟩

/-- The operations of a document: path by path, and under a path in the order of the methods. -/
def operations (root : Json) : List Declared :=
  (paths root).flatMap fun (path, pathItem) => operationsUnder path pathItem methods

variable {root : Json} {id : String} {d : Declared}

theorem mem_operations : d ∈ operations root
    ↔ (d.path, d.pathItem) ∈ paths root ∧ d.method ∈ methods
      ∧ d.pathItem.get? d.method = some d.operation := by
  unfold operations operationsUnder
  rw [List.mem_flatMap]
  constructor
  · rintro ⟨⟨path, pathItem⟩, hpath, hd⟩
    obtain ⟨method, hmethod, hd⟩ := List.mem_filterMap.mp hd
    obtain ⟨operation, hoperation, rfl⟩ := Option.map_eq_some_iff.mp hd
    exact ⟨hpath, hmethod, hoperation⟩
  · rintro ⟨hpath, hmethod, hoperation⟩
    refine ⟨(d.path, d.pathItem), hpath, List.mem_filterMap.mpr ⟨d.method, hmethod, ?_⟩⟩
    rw [hoperation, Option.map_some]

/-! ## §2. Identifiers. -/

theorem findUnderPath?_eq (path : String) (pathItem : Json) :
    findUnderPath? root id path pathItem
      = ((operationsUnder path pathItem methods).find? (Declared.hasId id)).map
          (Declared.flattened root) := by
  unfold findUnderPath?
  induction methods with
  | nil => rfl
  | cons method rest ih =>
    unfold operationsUnder at ih ⊢
    cases hop : pathItem.get? method with
    | none => simpa [hop] using ih
    | some operation =>
      by_cases hid : operation.textAt? "operationId" = some id
      · simp [hop, hid, Declared.hasId, Declared.flattened]
      · simpa [hop, hid, Declared.hasId] using ih

/-- **The first operation with an identifier is found.** -/
theorem findById?_eq (root : Json) (id : String) : findById? root id
    = ((operations root).find? (Declared.hasId id)).map (Declared.flattened root) := by
  rw [operations, List.find?_flatMap, List.map_findSome?]
  unfold findById?
  congr 1
  funext ⟨path, pathItem⟩
  exact findUnderPath?_eq path pathItem

/-- The selector names an operation by this identifier, and not by path and method. -/
def SelectsId (selector : Selector) (id : String) : Prop :=
  (selector.path = none ∨ selector.method = none) ∧ selector.operationId = some id

/-- Without a path and a method, the identifier counts. -/
theorem findOperation_of_incomplete {selector : Selector}
    (incomplete : selector.path = none ∨ selector.method = none) :
    findOperation root selector
      = match selector.operationId with
        | none => .error .incompleteSelector
        | some id =>
          match (operations root).find? (Declared.hasId id) with
          | some d => .ok (d.flattened root)
          | none => .error (.operationIdNotFound id) := by
  unfold findOperation
  split
  next path method hpath hmethod =>
    rw [hpath, hmethod] at incomplete
    rcases incomplete with incomplete | incomplete <;> contradiction
  next =>
    cases selector.operationId with
    | none => rfl
    | some id =>
      dsimp only
      rw [findById?_eq]
      cases (operations root).find? (Declared.hasId id) <;> rfl

theorem findOperation_of_selectsId {selector : Selector} (h : SelectsId selector id) :
    findOperation root selector
      = match (operations root).find? (Declared.hasId id) with
        | some d => .ok (d.flattened root)
        | none => .error (.operationIdNotFound id) := by
  rw [findOperation_of_incomplete h.1, h.2]

/-! ## §3. Paths and methods. -/

/-- The selector names an operation by this path, and by this method in any letter case. -/
def SelectsAt (selector : Selector) (path method : String) : Prop :=
  selector.path = some path
    ∧ ∃ spelled, selector.method = some spelled ∧ Text.sameAscii spelled method = true

/-- No path of a document stands twice in it. -/
theorem keyed_paths (proper : root.isProper = true) : (paths root).Keyed := by
  unfold paths
  cases root with
  | object members =>
    cases found : (Json.object members).get? "paths" with
    | none => exact Dict.keyed_nil
    | some value =>
      have part := (Json.isProper_object.mp proper).2 _ (Dict.mem_of_get? found)
      cases value with
      | object paths => exact (Json.isProper_object.mp part).1
      | null | bool | number | string | array => exact Dict.keyed_nil
  | null | bool | number | string | array => exact Dict.keyed_nil

/-- What a document has under a path. -/
theorem get?_paths (root : Json) (path : String) : (paths root).get? path
    = (root.get? "paths").bind fun paths => paths.get? path := by
  unfold paths
  cases root.get? "paths" with
  | none => rfl
  | some value => cases value <;> rfl

/-- The methods are written in lower case. -/
theorem lowerAscii_of_mem_methods {method : String} (h : method ∈ methods) :
    Text.lowerAscii method = method := by
  have lower : ∀ method ∈ methods, Text.lowerAscii method = method := by decide +kernel
  exact lower method h

/-- **An operation is found by its path and its method**, in any letter case. -/
theorem findOperation_of_selectsAt (proper : root.isProper = true) (hd : d ∈ operations root)
    {selector : Selector} (h : SelectsAt selector d.path d.method) :
    findOperation root selector = .ok (d.flattened root) := by
  obtain ⟨hpath, spelled, hmethod, same⟩ := h
  obtain ⟨hp, hm, hop⟩ := mem_operations.mp hd
  have written : Text.lowerAscii spelled = d.method :=
    (of_decide_eq_true same).trans (lowerAscii_of_mem_methods hm)
  have item : ((root.get? "paths").bind fun paths => paths.get? d.path) = some d.pathItem := by
    rw [← get?_paths]
    exact (keyed_paths proper).get?_of_mem hp
  unfold findOperation
  rw [hpath, hmethod]
  dsimp only
  rw [item]
  dsimp only
  rw [written, hop]
  rfl

end OpenApi

/-! ## §4. Capabilities. -/

namespace Bridge

variable {name : String} {definition : Document.Capability} {support : Option Module}
  {document : Json} {backend : Remote.Backend} {selector : Selector}

theorem remoteCapability_of_selected {operation : OpenApi.Operation}
    (h : selected definition document = .ok operation) :
    (remoteCapability document backend support name definition).value
      = .ok (.remote
        { capability := name, operation, backend
          postProcess := (postProcess name definition support).value }) := by
  unfold remoteCapability
  rw [h]
  rfl

/-- What stands in for an operation that is not found is a function. -/
theorem not_remote_of_not_selected {reason : Unavailable}
    (h : selected definition document = .error reason) (o : Remote.Operation) :
    (remoteCapability document backend support name definition).value ≠ .ok (.remote o) := by
  unfold remoteCapability
  rw [h]
  intro ho
  dsimp only at ho
  split at ho
  next => exact absurd (Except.ok.inj ho) (by intro h; contradiction)
  next => contradiction

/-- **A capability is an operation exactly if its selector finds one**, and then it is that one. -/
theorem remoteCapability_eq_remote_iff (selects : definition.operation = some selector)
    (operation : OpenApi.Operation) :
    (∃ o : Remote.Operation, o.operation = operation
        ∧ (remoteCapability document backend support name definition).value = .ok (.remote o))
      ↔ OpenApi.findOperation document selector = .ok operation := by
  have named : selected definition document
      = (OpenApi.findOperation document selector).mapError .lookup := by
    rw [selected, selects]
  cases found : OpenApi.findOperation document selector with
  | ok f =>
    rw [found] at named
    rw [remoteCapability_of_selected named]
    constructor
    · rintro ⟨o, rfl, ho⟩
      obtain rfl := Capability.remote.inj (Except.ok.inj ho)
      rfl
    · intro h
      exact ⟨_, Except.ok.inj h, rfl⟩
  | error e =>
    rw [found] at named
    constructor
    · rintro ⟨o, _, ho⟩
      exact absurd ho (not_remote_of_not_selected named o)
    · intro h
      contradiction

end Bridge

/-- **An operation is not reported as missing exactly if it is found.** -/
theorem OpenApi.unreported_iff {root : Json} {capabilities : Dict Document.Capability}
    (keyed : capabilities.Keyed) {name : String} {definition : Document.Capability}
    (hd : capabilities.get? name = some definition) {selector : Selector}
    (selects : definition.operation = some selector) :
    (∀ v ∈ unresolved root capabilities, v.place ≠ ["capabilities", name, "operation"])
      ↔ ∃ operation, findOperation root selector = .ok operation := by
  constructor
  · intro unreported
    cases found : findOperation root selector with
    | ok operation => exact ⟨operation, rfl⟩
    | error e =>
      have reported : (⟨["capabilities", name, "operation"], .operationFound name e.message⟩ :
          Document.Violation) ∈ unresolved root capabilities := by
        refine List.mem_filterMap.mpr ⟨(name, definition), Dict.mem_of_get? hd, ?_⟩
        simp [selects, found]
      exact absurd rfl (unreported _ reported)
  · rintro ⟨operation, found⟩ v hv place
    obtain ⟨⟨key, other⟩, hmem, hv⟩ := List.mem_filterMap.mp hv
    obtain ⟨selector', hselector, hv⟩ := Option.bind_eq_some_iff.mp hv
    split at hv
    next => contradiction
    next e missing =>
      obtain rfl := Option.some.inj hv
      -- no other capability has this name
      obtain rfl : key = name := by simpa using place
      obtain rfl := Option.some.inj (hd.symm.trans (keyed.get?_of_mem hmem))
      obtain rfl := Option.some.inj (selects.symm.trans hselector)
      rw [found] at missing
      contradiction

/-- A capability that is available is what its definition is resolved to. -/
theorem Bridge.capability_ofDefinitions_iff {service : String}
    {definitions : Dict Document.Capability}
    {resolve : String → Document.Capability → Noted (Except Unavailable Capability)}
    {name : String} {definition : Document.Capability}
    (hd : definitions.get? name = some definition) {c : Capability} :
    (ofDefinitions service definitions resolve).value.capability name = .ok c
      ↔ (resolve name definition).value = .ok c := by
  unfold capability
  rw [get?_ofDefinitions, hd, Option.map_some]
  cases (resolve name definition).value <;> simp

namespace Load

/-- **A capability of a loaded bridge is an operation exactly if its selector finds one**, and then
it is that one. -/
theorem remote_iff_of_stems {registry : Registry} {service : String} {binding : Document.Binding}
    {base : Location} {b : Bridge} {document : Document.Bridge} {root : Json}
    (stems : Stems registry service binding base b document (.openApi root)) {name : String}
    {definition : Document.Capability} (hd : document.capabilities.get? name = some definition)
    {selector : Selector} (selects : definition.operation = some selector)
    (operation : OpenApi.Operation) :
    (∃ o : Remote.Operation, o.operation = operation ∧ b.capability name = .ok (.remote o))
      ↔ OpenApi.findOperation root selector = .ok operation := by
  obtain ⟨support, _, rfl⟩ := stems.made
  unfold bridgeOf
  simp only [Bridge.capability_ofDefinitions_iff hd]
  exact Bridge.remoteCapability_eq_remote_iff selects operation

end Load

/-! ## §5. What an identifier finds. -/

namespace OpenApi

/-- **Looking for an identifier finds the first operation that has it.**  Exactly if no path of the
document has an operation with the identifier under one of the methods, none is found.  Else what is
found is the first one, path by path in the order of the document, and under a path in the order of
the methods; and its path and its method, in any letter case, find the same.  So a capability that
names the identifier is bound to an operation, to that one, exactly if it is not reported that there
is none. -/
theorem identifiers_are_found (root : Json) (id : String) :
    (∀ selector, SelectsId selector id →
      (findOperation root selector = .error (.operationIdNotFound id)
        ↔ ∀ path pathItem, (path, pathItem) ∈ paths root → ∀ method ∈ methods, ∀ operation,
            pathItem.get? method = some operation → operation.textAt? "operationId" ≠ some id)
      ∧ (findOperation root selector ≠ .error (.operationIdNotFound id) →
          ∃ before d after, operations root = before ++ d :: after
            ∧ (∀ earlier ∈ before, earlier.hasId id = false) ∧ d.hasId id = true
            ∧ findOperation root selector = .ok (d.flattened root)
            ∧ (root.isProper = true → ∀ other, SelectsAt other d.path d.method →
                findOperation root other = .ok (d.flattened root))))
    ∧ ∀ registry service binding base b document,
        Load.Stems registry service binding base b document (.openApi root) →
        document.capabilities.Keyed → ∀ name definition selector,
          document.capabilities.get? name = some definition →
          definition.operation = some selector → SelectsId selector id →
          ((∃ o, b.capability name = .ok (.remote o))
            ↔ ∀ v ∈ unresolved root document.capabilities,
                v.place ≠ ["capabilities", name, "operation"])
          ∧ ∀ o, b.capability name = .ok (.remote o) →
              findOperation root selector = .ok o.operation := by
  constructor
  · intro selector selects
    rw [findOperation_of_selectsId selects]
    cases found : (operations root).find? (Declared.hasId id) with
    | none =>
      refine ⟨⟨?_, fun _ => rfl⟩, fun h => absurd rfl h⟩
      intro _ path pathItem hpath method hmethod operation hoperation
      have none := List.find?_eq_none.mp found ⟨path, method, pathItem, operation⟩
        (mem_operations.mpr ⟨hpath, hmethod, hoperation⟩)
      exact fun hid => none (decide_eq_true hid)
    | some d =>
      obtain ⟨hid, before, after, split, earlier⟩ := List.find?_eq_some_iff_append.mp found
      have hd := List.mem_of_find?_eq_some found
      refine ⟨⟨fun h => by contradiction, ?_⟩, fun _ => ⟨before, d, after, split, ?_, hid, rfl,
        fun proper other at_ => findOperation_of_selectsAt proper hd at_⟩⟩
      · intro none
        obtain ⟨hpath, hmethod, hoperation⟩ := mem_operations.mp hd
        exact absurd (of_decide_eq_true hid) (none _ _ hpath _ hmethod _ hoperation)
      · intro e he
        simpa using earlier e he
  · intro registry service binding base b document stems keyed name definition selector hd selects _
    have bound := Load.remote_iff_of_stems stems hd selects
    rw [unreported_iff keyed hd selects]
    constructor
    · constructor
      · rintro ⟨o, ho⟩
        exact ⟨o.operation, (bound o.operation).mp ⟨o, rfl, ho⟩⟩
      · rintro ⟨operation, found⟩
        obtain ⟨o, _, ho⟩ := (bound operation).mpr found
        exact ⟨o, ho⟩
    · intro o ho
      exact (bound o.operation).mp ⟨o, rfl, ho⟩

/-! ## §6. Two operations of one identifier. -/

/-- An operation with nothing but an identifier. -/
def named (id : String) : Json := .object [("operationId", .string id)]

/-- Users and teams are changed under one identifier. -/
def membersApi : Json := .object [("paths", .object
  [("/users", .object [("get", named "users"), ("put", named "change")]),
    ("/teams", .object [("post", named "change")])])]

def membersDocument : Document.Bridge where
  execute := { openApi := some membersApi }
  capabilities := [("change", { operation := some { operationId := some "change" } })]

def membersBinding : Document.Binding where
  source := { inline := some membersDocument }

def membersBridge : Bridge :=
  (Load.bridgeOf "members" membersBinding membersDocument none (.openApi membersApi)).value

theorem membersBridge_stems : Load.Stems [] "members" membersBinding (.file "page.json")
    membersBridge membersDocument (.openApi membersApi) where
  found := ⟨.file "page.json", [], [], [], [], ⟨rfl, rfl⟩, ⟨rfl, rfl⟩⟩
  made := ⟨none, rfl, rfl⟩

/-- The change of users comes first.  It is found by the identifier and by its path and method in
upper case, and it is what the capability is bound to. -/
theorem identifiers_are_found_members :
    ∃ found, findOperation membersApi { operationId := some "change" } = .ok found
      ∧ found.path = "/users" ∧ found.method = "put"
      ∧ findOperation membersApi { path := some "/users", method := some "PUT" } = .ok found
      ∧ ∃ o, membersBridge.capability "change" = .ok (.remote o) ∧ o.operation = found := by
  obtain ⟨lookup, bound⟩ := identifiers_are_found membersApi "change"
  have selects : SelectsId { operationId := some "change" } "change" := ⟨.inl rfl, rfl⟩
  have finds : (findOperation membersApi { operationId := some "change" }).toOption.map
      (fun found => (found.path, found.method)) = some ("/users", "put") := by
    decide +kernel
  obtain ⟨_, first⟩ := lookup _ selects
  obtain ⟨before, d, after, -, -, -, found, spelled⟩ := first (by
    intro missing
    rw [missing] at finds
    contradiction)
  rw [found] at finds
  obtain ⟨path, method⟩ := Prod.mk.inj (Option.some.inj finds)
  have keyed : membersDocument.capabilities.Keyed := by
    rw [Dict.Keyed]
    decide
  obtain ⟨remote, same⟩ := bound [] "members" membersBinding (.file "page.json") membersBridge
    membersDocument membersBridge_stems keyed "change" _ _ rfl rfl selects
  have reported : unresolved membersApi membersDocument.capabilities = [] := by decide +kernel
  obtain ⟨o, ho⟩ := remote.mpr (by
    rw [reported]
    exact fun v hv => absurd hv List.not_mem_nil)
  refine ⟨d.flattened membersApi, found, path, method, ?_, o, ho, ?_⟩
  · exact spelled (by decide +kernel) _ ⟨congrArg some path.symm, "PUT", rfl, by
      rw [show d.method = "put" from method]
      decide +kernel⟩
  · exact Except.ok.inj ((same o ho).symm.trans found)

end OpenApi

end Pageflow
