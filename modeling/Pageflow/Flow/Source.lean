/-
  Pageflow.Flow.Source — where the value of a parameter comes from.

  The definition of a parameter may name several sources; one is chosen when the parameters of an
  activity are mapped.  A generated value is named by the activity that makes it.  A dynamic
  parameter keeps its definition and chooses anew on every run.

  Main statement: `ofParameter?_isSome` says when there is a source.
-/
import Pageflow.Document.Activity
import Pageflow.Json.Printer

namespace Pageflow.Flow

open Document (StoreScope)

/-! ## §1. Sources -/

/-- A source of values. -/
inductive Source where
  | input (name : String)
  | parentResult
  | previousResult
  | constant (value : Json)
  | store (scope : StoreScope) (key : String) (path : Option String)
  | queryParam (name : String)
  | generate (activity : Nat)
  | fileInput (name : String)
deriving DecidableEq, Inhabited

namespace Source

/-- The source of a parameter, given the activity that makes its generated value.  The first one
counts, in the order of the alternatives; a generated value that nothing makes is none. -/
def ofParameter? (p : Document.Parameter) (generator : Option Nat) : Option Source :=
  if let some name := p.field then some (.input name)
  else if p.parent then some .parentResult
  else if p.previous then some .previousResult
  else if let some value := p.constant then some (.constant value)
  else if let some target := p.store then
    some (.store target.scope target.splitKey.1 target.splitKey.2)
  else if let some name := p.queryParam then some (.queryParam name)
  else if p.generate.isSome then generator.map .generate
  else p.fileInput.map .fileInput

/-- Whether a source before the generated value is given. -/
def precedesGenerate (p : Document.Parameter) : Bool :=
  p.field.isSome || p.parent || p.previous || p.constant.isSome || p.store.isSome
    || p.queryParam.isSome

/-- The generated value that the source of a parameter needs. -/
def generator? (p : Document.Parameter) : Option Document.Generate :=
  if precedesGenerate p then none else p.generate

/-- There is a source unless none is given, or nothing makes the generated value. -/
theorem ofParameter?_isSome (p : Document.Parameter) (generator : Option Nat) :
    (ofParameter? p generator).isSome
      = (precedesGenerate p || if p.generate.isSome then generator.isSome
          else p.fileInput.isSome) := by
  obtain ⟨_, field, parent, previous, constant, store, queryParam, generate, fileInput, _⟩ := p
  cases field <;> cases parent <;> cases previous <;> cases constant <;> cases store <;>
    cases queryParam <;> cases generate <;> cases generator <;> cases fileInput <;> rfl

/-- A source as it is shown. -/
def label : Source → String
  | input name => "input: " ++ name
  | parentResult => "parentResult"
  | previousResult => "previousActivityResult"
  | constant value => "constant: " ++ value.print
  | store scope key none => "store: " ++ scope.label ++ "-" ++ key
  | store scope key (some path) => "store: " ++ scope.label ++ "-" ++ key ++ "." ++ path
  | queryParam name => "queryParam: " ++ name
  | generate activity => s!"generate: activity #{activity}"
  | fileInput name => "fileInput: " ++ name

end Source

/-! ## §2. Dynamic parameters -/

/-- A parameter whose source is chosen on every run. -/
structure DynamicParameter where
  definition : Document.Parameter
  /-- The activity that makes its generated value. -/
  generator : Option Nat
deriving Inhabited

/-- The source of this run. -/
def DynamicParameter.source? (p : DynamicParameter) : Option Source :=
  Source.ofParameter? p.definition p.generator

end Pageflow.Flow
