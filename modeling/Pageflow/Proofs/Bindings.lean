/-
  Pageflow.Proofs.Bindings — bindings from two documents.

  A page and its process may both declare a bridge for a service.  One of them supplies the
  source: the process if it has one, else the page.  Of the two servers that of the page counts.
  So it is with credentials, except that those of a process without a source are lost if the page
  declares none itself.

  Main definitions: `declaredServer`, `declaredCredentials`, `pageOver` and `Merged`.
  Main statements: `sourceBinding?_eq_some` and `effectiveBinding_merges`.
-/
import Pageflow.Load.Page

namespace Pageflow.Load

open Document (Binding ValueSource)

/-! ## §1. What the documents declare. -/

/-- The bridge that a process declares for a service. -/
def processBridge (process : Document.Process) (service : String) : Option Binding :=
  (process.services.get? service).bind Document.Service.bridge

/-- The bridge that a page declares for a service. -/
def pageBridge (page : Document.Page) (service : String) : Option Binding :=
  (page.services.get? service).bind Document.PageService.bridge

/-- The server that is declared, if one is. -/
def declaredServer (b : Option Binding) : Option ValueSource := b.bind Binding.server

/-- The credentials that are declared. -/
def declaredCredentials (b : Option Binding) : Dict ValueSource :=
  (b.map Binding.authorization).getD []

/-- The credentials of the page, or those of the process if the page has none. -/
def pageOver (fromPage fromProcess : Dict ValueSource) : Dict ValueSource :=
  if fromPage.isEmpty then fromProcess else fromPage

variable {fromProcess fromPage : Option Binding} {processBase pageBase base : Location}
  {b : Binding}

/-! ## §2. The source. -/

theorem sourced?_eq_some {d : Option Binding} :
    sourced? d = some b ↔ d = some b ∧ b.source.isEmpty = false := by
  rw [sourced?, Option.filter_eq_some_iff, Bool.not_eq_true']

theorem sourced?_eq_none {d : Option Binding} :
    sourced? d = none ↔ ∀ b, d = some b → b.source.isEmpty = true := by
  simp only [sourced?, Option.filter_eq_none_iff, Bool.not_eq_true', Bool.not_eq_false]

/-- One of the documents supplies the binding, and it supplies the place too. -/
theorem sourceBinding?_eq_some
    (h : sourceBinding? fromProcess fromPage processBase pageBase = some (b, base)) :
    sourced? fromProcess = some b ∧ base = processBase ∨
      sourced? fromProcess = none ∧ sourced? fromPage = some b ∧ base = pageBase := by
  unfold sourceBinding? at h
  cases hp : sourced? fromProcess with
  | some own =>
    simp only [hp, Option.some.injEq, Prod.mk.injEq] at h
    obtain ⟨rfl, rfl⟩ := h
    exact .inl ⟨rfl, rfl⟩
  | none =>
    cases hq : sourced? fromPage with
    | some own =>
      simp only [hp, hq, Option.some.injEq, Prod.mk.injEq] at h
      obtain ⟨rfl, rfl⟩ := h
      exact .inr ⟨rfl, rfl, rfl⟩
    | none => simp only [hp, hq, reduceCtorEq] at h

/-- A service has a binding if and only if one of the documents has a source for it. -/
theorem isSome_effectiveBinding (page : Document.Page) (process : Document.Process)
    (pageBase processBase : Location) (service : String) :
    (effectiveBinding page process pageBase processBase service).isSome = true ↔
      (sourced? (processBridge process service)).isSome = true
        ∨ (sourced? (pageBridge page service)).isSome = true := by
  show (Option.map _ (sourceBinding? (processBridge process service) (pageBridge page service)
    processBase pageBase)).isSome = true ↔ _
  rw [Option.isSome_map, sourceBinding?]
  cases sourced? (processBridge process service) with
  | some own => simp only [Option.isSome_some, true_or]
  | none => cases sourced? (pageBridge page service) <;> simp

/-! ## §3. The server and the credentials. -/

/-- **The server of the page counts, else that of the process**, whichever of them supplies the
source. -/
theorem boundServer_of_source
    (h : sourced? fromProcess = some b ∨ sourced? fromPage = some b) :
    boundServer b fromProcess fromPage
      = (declaredServer fromPage).or (declaredServer fromProcess) := by
  rcases h with h | h
  -- the binding with the source is one of the two, so its server is looked up twice
  · obtain ⟨rfl, _⟩ := sourced?_eq_some.mp h
    show (declaredServer fromPage).or (b.server.or b.server) = _
    rw [Option.or_self]
    rfl
  · obtain ⟨rfl, _⟩ := sourced?_eq_some.mp h
    show b.server.or (b.server.or (declaredServer fromProcess)) = _
    rw [← Option.or_assoc, Option.or_self]
    rfl

theorem boundAuthorization_eq (b : Binding) (fromPage : Option Binding) :
    boundAuthorization b fromPage = pageOver (declaredCredentials fromPage) b.authorization :=
  rfl

theorem pageOver_eq_self_iff (fromPage fromProcess : Dict ValueSource) :
    fromPage = pageOver fromPage fromProcess ↔ fromPage ≠ [] ∨ fromProcess = [] := by
  cases fromPage with
  | nil => simp [pageOver, eq_comm]
  | cons entry rest => simp [pageOver]

/-! ## §4. Both documents together. -/

/-- The source, its place and the server come from where they should. -/
structure Merged (fromProcess fromPage : Option Binding) (processBase pageBase : Location)
    (bound : Bound) : Prop where
  ofProcess : ∀ own, fromProcess = some own → own.source.isEmpty = false →
    bound.binding.source = own.source ∧ bound.base = processBase
  ofPage : (∀ own, fromProcess = some own → own.source.isEmpty = true) →
    ∃ own, fromPage = some own ∧ own.source.isEmpty = false
      ∧ bound.binding.source = own.source ∧ bound.base = pageBase
  server : bound.binding.server = (declaredServer fromPage).or (declaredServer fromProcess)

theorem merged_of_sourceBinding? {bound : Bound}
    (h : sourceBinding? fromProcess fromPage processBase pageBase = some (b, bound.base))
    (source : bound.binding.source = b.source)
    (server : bound.binding.server = boundServer b fromProcess fromPage) :
    Merged fromProcess fromPage processBase pageBase bound := by
  rcases sourceBinding?_eq_some h with ⟨own, base⟩ | ⟨none, own, base⟩
  · obtain ⟨declared, full⟩ := sourced?_eq_some.mp own
    refine ⟨?_, ?_, server.trans (boundServer_of_source (.inl own))⟩
    · intro other hother _
      obtain rfl := Option.some.inj (declared.symm.trans hother)
      exact ⟨source, base⟩
    · intro empty
      have := empty b declared
      rw [full] at this
      contradiction
  · obtain ⟨declared, full⟩ := sourced?_eq_some.mp own
    refine ⟨?_, ?_, server.trans (boundServer_of_source (.inr own))⟩
    · intro other hother hfull
      rw [sourced?_eq_none.mp none other hother] at hfull
      contradiction
    · exact fun _ => ⟨b, declared, full, source, base⟩

/-- **The credentials of the page count, else those of the process**, unless the page supplies
the source and only the process has credentials. -/
theorem boundAuthorization_iff
    (h : sourceBinding? fromProcess fromPage processBase pageBase = some (b, base)) :
    boundAuthorization b fromPage
        = pageOver (declaredCredentials fromPage) (declaredCredentials fromProcess) ↔
      (sourced? fromProcess).isSome = true ∨ declaredCredentials fromPage ≠ []
        ∨ declaredCredentials fromProcess = [] := by
  rw [boundAuthorization_eq]
  rcases sourceBinding?_eq_some h with ⟨own, _⟩ | ⟨none, own, _⟩
  · -- the credentials of the source are those of the process
    have declared : declaredCredentials fromProcess = b.authorization := by
      rw [(sourced?_eq_some.mp own).1]
      rfl
    rw [declared, own]
    simp only [Option.isSome_some, true_or]
  · -- the credentials of the source are those of the page
    have declared : declaredCredentials fromPage = b.authorization := by
      rw [(sourced?_eq_some.mp own).1]
      rfl
    have same : pageOver b.authorization b.authorization = b.authorization := by
      unfold pageOver
      split <;> rfl
    rw [declared, same, pageOver_eq_self_iff, none]
    simp only [Option.isSome_none, Bool.false_eq_true, false_or]

/-- **The settings of both documents come together**: the source and its place are those of the
process if it has a source, else those of the page, and the server is that of the page, else that
of the process.  The credentials are those of the page, else those of the process, if and only if
the process has a source, or the page has credentials, or the process has none. -/
theorem effectiveBinding_merges {page : Document.Page} {process : Document.Process}
    {service : String} {bound : Bound}
    (h : effectiveBinding page process pageBase processBase service = some bound) :
    bound.service = service ∧
      Merged (processBridge process service) (pageBridge page service) processBase pageBase
        bound ∧
      (bound.binding.authorization
          = pageOver (declaredCredentials (pageBridge page service))
              (declaredCredentials (processBridge process service)) ↔
        (sourced? (processBridge process service)).isSome = true
          ∨ declaredCredentials (pageBridge page service) ≠ []
          ∨ declaredCredentials (processBridge process service) = []) := by
  obtain ⟨⟨b, base⟩, supplied, rfl⟩ := Option.map_eq_some_iff.mp h
  exact ⟨rfl, merged_of_sourceBinding? supplied rfl rfl, boundAuthorization_iff supplied⟩

/-- The binding of a service whose bridge the process and the page declare so. -/
def usersBinding (fromProcess fromPage : Binding) : Option Bound :=
  effectiveBinding { services := [("users", { bridge := some fromPage })] }
    { services := [("users", { bridge := some fromProcess })] }
    (.file "page.json") (.file "process/process.json") "users"

/-- A binding with a server and a credential, and perhaps a source. -/
def usersServer (uri : Option String) : Binding where
  server := some (.literal "https://users.example.com")
  authorization := [("token", .constant "abc")]
  source := { uri }

/-- The page only sets another server for the bridge of the process, whose credentials stay. -/
theorem effectiveBinding_merges_users :
    ∃ bound, usersBinding (usersServer (some "users.bridge.json"))
        { server := some (.literal "https://page.example.com") } = some bound ∧
      bound.base = .file "process/process.json" ∧
      bound.binding.source.uri = some "users.bridge.json" ∧
      bound.binding.server = some (.literal "https://page.example.com") ∧
      bound.binding.authorization = [("token", .constant "abc")] := by
  obtain ⟨bound, found⟩ : ∃ bound, usersBinding (usersServer (some "users.bridge.json"))
      { server := some (.literal "https://page.example.com") } = some bound := ⟨_, rfl⟩
  obtain ⟨_, merged, credentials⟩ := effectiveBinding_merges found
  obtain ⟨source, base⟩ := merged.ofProcess _ rfl rfl
  exact ⟨bound, found, base, by rw [source]; rfl, merged.server, credentials.mpr (.inl rfl)⟩

/-- The page only supplies the source.  The server of the process counts, but its credentials,
which the page does not replace, are lost. -/
theorem credentials_of_the_process_are_lost :
    ∃ bound, usersBinding (usersServer none) { source := { uri := some "page.bridge.json" } }
        = some bound ∧
      bound.binding.server = some (.literal "https://users.example.com") ∧
      bound.binding.authorization
        ≠ pageOver [] (declaredCredentials (some (usersServer none))) ∧
      bound.binding.authorization = [] :=
  ⟨_, rfl, rfl, by decide, rfl⟩

end Pageflow.Load
