/-
  Pageflow.Proofs.Closed — properties that runs have if their parts have them.

  Runs are put together: one comes after another, its failure becomes a result or is put in other
  words.  A property of runs is closed if the whole has it whenever the parts have it.  To read an
  input or a store, to find out a server and its credentials, to call a function or to send a
  request takes no other parts than questions, notes, and looks at what the host lends or at a
  store.  So these have every closed property that such parts have, and so have the arguments of
  an activity and the call of its strategy, if the runs of other activities in them have it.

  Main definitions: `Closed`, `Logging` and `Reading`.
  Main statements: `argumentsOf_closed`, `preProcessed_closed` and `callStrategy_closed`.
-/
import Pageflow.Proofs.Places
import Pageflow.Run.Activity

namespace Pageflow.Flow

open Document (StoreScope)

/-! ## §1. The stores that an activity reads. -/

/-- Which stores are seen: those of a scope, from a service. -/
abbrev Sight := StoreScope → String → Prop

/-- The scope of the store that a source reads. -/
def Source.scope? : Source → Option StoreScope
  | store scope _ _ => some scope
  | _ => none

namespace Activity

/-- The sources of the request body: that of the whole of it, or those of its parts. -/
def bodySources (a : Activity) : List Source :=
  match a.requestBody.get? Run.wholeBody with
  | some source => [source]
  | none => a.requestBody.values

/-- The sources that the values of an activity come from. -/
def sources (a : Activity) : List Source :=
  a.parameters.values ++ a.dynamicParameters.values.filterMap DynamicParameter.source?
    ++ a.bodySources

/-- The activity reads something from a store of this scope. -/
def LooksInto (a : Activity) (scope : StoreScope) : Prop :=
  ∃ source ∈ a.sources, source.scope? = some scope

instance (a : Activity) (scope : StoreScope) : Decidable (a.LooksInto scope) :=
  inferInstanceAs (Decidable (∃ source ∈ a.sources, source.scope? = some scope))

/-- What the activity reads can be seen from its service. -/
def Sees (seen : Sight) (a : Activity) : Prop :=
  ∀ scope, a.LooksInto scope → seen scope a.service

variable {a : Activity} {source : Source}

theorem mem_sources_of_parameter (h : source ∈ a.parameters.values) : source ∈ a.sources :=
  List.mem_append_left _ (List.mem_append_left _ h)

theorem mem_sources_of_dynamic {p : DynamicParameter} (h : p ∈ a.dynamicParameters.values)
    (hs : p.source? = some source) : source ∈ a.sources :=
  List.mem_append_left _ (List.mem_append_right _ (List.mem_filterMap.mpr ⟨p, h, hs⟩))

theorem mem_sources_of_whole (h : a.requestBody.get? Run.wholeBody = some source) :
    source ∈ a.sources := by
  refine List.mem_append_right _ ?_
  rw [bodySources, h]
  exact List.mem_singleton_self source

theorem mem_sources_of_part (hd : a.requestBody.get? Run.wholeBody = none)
    (h : source ∈ a.requestBody.values) : source ∈ a.sources := by
  refine List.mem_append_right _ ?_
  rw [bodySources, hd]
  exact h

/-- The maker of a source is one of the activity. -/
theorem mem_makers_of_source {k : Nat} (h : source ∈ a.sources) (hk : source.maker? = some k) :
    k ∈ a.makers := by
  obtain rfl := Source.eq_generate_of_maker? hk
  rcases List.mem_append.mp h with h | h
  · rcases List.mem_append.mp h with h | h
    · obtain ⟨⟨name, _⟩, hm, rfl⟩ := List.mem_map.mp h
      exact mem_makers_of_parameter hm
    · obtain ⟨p, hp, hs⟩ := List.mem_filterMap.mp h
      obtain ⟨⟨name, _⟩, hm, rfl⟩ := List.mem_map.mp hp
      exact mem_makers_of_dynamic hm (Source.maker?_of_ofParameter? hs hk)
  · unfold bodySources at h
    split at h
    next source' hw =>
      obtain rfl := List.mem_singleton.mp h
      exact mem_makers_of_body (Dict.mem_of_get? hw)
    next =>
      obtain ⟨⟨name, _⟩, hm, rfl⟩ := List.mem_map.mp h
      exact mem_makers_of_body hm

theorem Sees.of_mem {seen : Sight} (ha : a.Sees seen)
    (h : source ∈ a.sources) {scope : StoreScope} (hs : source.scope? = some scope) :
    seen scope a.service :=
  ha scope ⟨source, h, hs⟩

end Activity

end Pageflow.Flow

namespace Pageflow.Run

open Pageflow.Flow (Activity Sight Source Strategy)

/-! ## §2. Closed properties. -/

/-- A property of runs, whatever they give or fail with. -/
abbrev Property (σ : Type) := ∀ {ε α : Type}, Run σ ε α → Prop

/-- A property that the whole has if the parts have it, and that questions have. -/
structure Closed {σ : Type} (P : Property σ) : Prop where
  pure : ∀ {ε α : Type} (a : α), P (Pure.pure a : Run σ ε α)
  fail : ∀ {ε α : Type} (e : ε), P (fail e : Run σ ε α)
  ask : ∀ {ε : Type} (q : Query), P (ask q : Run σ ε q.Answer)
  bind : ∀ {ε α β : Type} {r : Run σ ε α} {next : α → Run σ ε β},
    P r → (∀ a, P (next a)) → P (r >>= next)
  attempt : ∀ {ε δ α : Type} {r : Run σ ε α}, P r → P (attempt r : Run σ δ (Except ε α))
  mapError : ∀ {ε δ α : Type} {f : ε → δ} {r : Run σ ε α}, P r → P (r.mapError f)

/-- A closed property that notes have too. -/
structure Logging {σ : Type} [Journal σ] (P : Property σ) : Prop extends Closed P where
  note : ∀ {ε : Type} (n : Note), P (note n : Run σ ε Unit)

/-- The states look the same: the host lends the same, the inputs are the same, and so are the
stores of the scopes that are seen from some services. -/
structure SameLook (seen : Sight) (s t : State) : Prop where
  query : t.query = s.query
  value : t.value? = s.value?
  file : t.file? = s.file?
  input : t.input? = s.input?
  store : ∀ scope service, seen scope service → t.storeFor scope service = s.storeFor scope service

/-- A closed property that looks at the state have too, if what follows is the same for states
that look the same. -/
structure Reading (seen : Sight) (P : Property State) : Prop extends Logging P where
  get : ∀ {ε α : Type} {next : State → Run State ε α}, (∀ s, P (next s)) →
    (∀ s t, SameLook seen s t → next s = next t) → P (get >>= next)

section Plain

variable {σ ε α β : Type} {P : Property σ}

theorem ofExcept_closed (hP : Closed P) (x : Except ε α) : P (ofExcept x : Run σ ε α) := by
  cases x with
  | ok a => exact hP.pure a
  | error e => exact hP.fail e

theorem ofExcept_bind_closed (hP : Closed P) {x : Except ε α} {next : α → Run σ ε β}
    (hn : ∀ a, x = .ok a → P (next a)) : P (ofExcept x >>= next) := by
  cases x with
  | ok a => exact hn a rfl
  | error e => exact hP.fail e

/-! ## §3. Functions. -/

theorem call_closed (hP : Closed P) (f : Function) (arguments : List Json) :
    P (call f arguments : Run σ Fault Output) := by
  -- a call asks, and gives or fails with the answer
  have parts : (call f arguments : Run σ Fault Output)
      = ask (.call f arguments) >>= fun answer => ofExcept answer := by
    funext s
    refine congrArg (Task.ask (.call f arguments) s) ?_
    funext answer t
    cases answer <;> rfl
  rw [parts]
  exact hP.bind (hP.ask _) fun answer => ofExcept_closed hP answer

theorem callFunction_closed (hP : Closed P) (f : Function) (parameters : Dict Json)
    (body : Option Json) : P (callFunction f parameters body : Run σ _ _) := by
  refine hP.bind (hP.mapError (call_closed hP f _)) ?_
  intro output
  exact ofExcept_closed hP _

theorem callPostProcess_closed (hP : Closed P) (f? : Option Function) (value : Json) :
    P (callPostProcess f? value : Run σ _ _) := by
  cases f? with
  | none => exact hP.pure value
  | some f =>
    refine hP.bind (hP.mapError (call_closed hP f _)) ?_
    intro output
    exact ofExcept_closed hP _

variable [Journal σ]

theorem notes_closed (hP : Logging P) : ∀ ns, P (notes ns : Run σ ε Unit)
  | [] => hP.pure ()
  | n :: rest => by
      have parts : (notes (n :: rest) : Run σ ε Unit) = (note n >>= fun _ => notes rest) := rfl
      rw [parts]
      exact hP.bind (hP.note n) fun _ => notes_closed hP rest

theorem callCapability_closed (hP : Logging P) (c : ModuleCapability) (parameters : Dict Json)
    (body : Option Json) : P (callCapability c parameters body : Run σ _ _) := by
  refine hP.bind (hP.note _) fun _ => ?_
  refine hP.bind (hP.mapError (call_closed hP.toClosed _ _)) fun output => ?_
  split
  · exact hP.fail _
  · refine hP.bind (ofExcept_closed hP.toClosed _) ?_
    intro value
    exact callPostProcess_closed hP.toClosed _ _

end Plain

/-! ## §4. Files and inputs. -/

section Files

variable {σ : Type} {P : Property σ}

theorem readFile_closed (hP : Closed P) (path : String) : P (readFile path : Run σ _ _) := by
  refine hP.bind (hP.ask _) ?_
  intro answer
  split
  · exact hP.pure _
  · exact hP.fail _

theorem measureFile_closed (hP : Closed P) (path : String) :
    P (measureFile path : Run σ _ _) := by
  refine hP.bind (hP.ask _) ?_
  intro answer
  split
  · exact hP.pure _
  · exact hP.fail _

theorem readFileInput_closed (hP : Closed P) (f : Document.FileInput) (path : String) :
    P (readFileInput f path : Run σ _ _) := by
  unfold readFileInput
  split
  · refine hP.bind (measureFile_closed hP path) ?_
    intro size
    exact hP.pure _
  · refine hP.bind (readFile_closed hP path) ?_
    intro bytes
    split
    · exact hP.pure _
    split
    · exact hP.pure _
    · exact hP.fail _

end Files

variable {seen : Sight} {P : Property State} {ε : Type}

theorem plainValue_congr {s t : State} (h : SameLook seen s t) (i : Flow.Input)
    (kind : Flow.InputKind) : plainValue s i kind = plainValue t i kind := by
  cases kind <;> simp only [plainValue, h.query, h.value]

theorem inputValue_closed (hP : Reading seen P) (i : Flow.Input) : P (inputValue i) := by
  refine hP.get ?_ ?_
  · intro s
    split
    · split
      · exact readFileInput_closed hP.toClosed _ _
      · exact hP.pure _
    · exact hP.pure _
  · intro s t h
    simp only [h.file, plainValue_congr h]

/-! ## §5. Servers and credentials. -/

theorem fieldText_closed (hP : Reading seen P) (service name : String) :
    P (fieldText service name : Run State ε _) := by
  refine hP.get ?_ ?_
  · intro s
    split
    · exact hP.pure _
    · refine hP.bind (hP.attempt (inputValue_closed hP _)) ?_
      intro outcome
      split
      · exact hP.pure _
      · exact hP.pure _
      · refine hP.bind (hP.note _) ?_
        intro _
        exact hP.pure _
  · intro s t h
    simp only [h.input]

theorem textOf_closed (hP : Reading seen P) (service : String) (source : Document.ValueSource) :
    P (textOf service source : Run State ε _) := by
  cases source with
  | literal text => exact hP.pure _
  | constant text => exact hP.pure _
  | queryParam name =>
    refine hP.get (fun s => hP.pure _) ?_
    intro s t h
    simp only [h.query]
  | field name => exact fieldText_closed hP service name

theorem credentials_closed (hP : Reading seen P) (service : String) :
    ∀ sources, P (credentials service sources : Run State ε _)
  | [] => hP.pure _
  | (scheme, source) :: rest => by
      refine hP.bind (textOf_closed hP service source) ?_
      intro text
      split
      · refine hP.bind (credentials_closed hP service rest) ?_
        intro others
        exact hP.pure _
      · refine hP.bind (hP.note _) ?_
        intro _
        exact credentials_closed hP service rest

theorem endpoint_closed (hP : Reading seen P) (backend : Remote.Backend) :
    P (endpoint backend : Run State ε _) := by
  have rest : ∀ server : Option String,
      P (credentials backend.service backend.authorization >>= fun credentials =>
        pure { server, credentials } : Run State ε Remote.Endpoint) := by
    intro server
    refine hP.bind (credentials_closed hP _ _) ?_
    intro credentials
    exact hP.pure _
  unfold endpoint
  split
  · exact hP.bind (textOf_closed hP _ _) rest
  · exact rest none

/-! ## §6. Requests. -/

section Requests

variable {σ : Type} {P : Property σ}

theorem part_closed (hP : Closed P) (value : Json) : P (Remote.part value : Run σ _ _) := by
  unfold Remote.part
  split
  · refine hP.bind (readFile_closed hP _) ?_
    intro bytes
    exact hP.pure _
  split
  · exact hP.pure _
  · exact hP.pure _

theorem parts_closed (hP : Closed P) : ∀ members, P (Remote.parts members : Run σ _ _)
  | [] => hP.pure _
  | (_, value) :: rest => by
      refine hP.bind (part_closed hP value) fun p => ?_
      refine hP.bind (parts_closed hP rest) fun others => ?_
      exact hP.pure _

theorem send_closed (hP : Closed P) (r : Http.Request) :
    P (Remote.Operation.send r : Run σ _ _) := by
  refine hP.bind (hP.ask _) ?_
  intro answer
  split
  · exact hP.pure _
  · exact hP.fail _

variable [Journal σ]

theorem body_closed (hP : Logging P) (o : Remote.Operation) (value : Option Json) :
    P (o.body value : Run σ _ _) := by
  unfold Remote.Operation.body
  split
  · exact hP.pure _
  · exact hP.pure _
  · refine hP.bind (parts_closed hP.toClosed _) ?_
    intro parts
    exact hP.pure _
  · refine hP.bind (hP.note _) ?_
    intro _
    exact hP.pure _

theorem request_closed (hP : Logging P) (o : Remote.Operation) (endpoint : Remote.Endpoint)
    (parameters : Dict Json) (value : Option Json) :
    P (o.request endpoint parameters value : Run σ _ _) := by
  have closed := hP.toClosed
  refine hP.bind (ofExcept_closed closed _) fun server => ?_
  refine hP.bind (ofExcept_closed closed _) fun url => ?_
  refine hP.bind (notes_closed hP _) fun _ => ?_
  refine hP.bind (ofExcept_closed closed _) fun method => ?_
  refine hP.bind (body_closed hP o value) fun body => ?_
  exact hP.pure _

theorem operationCall_closed (hP : Logging P) (o : Remote.Operation) (endpoint : Remote.Endpoint)
    (parameters : Dict Json) (value : Option Json) :
    P (o.call endpoint parameters value : Run σ _ _) := by
  have closed := hP.toClosed
  refine hP.bind (request_closed hP o endpoint parameters value) fun request => ?_
  refine hP.bind (hP.note _) fun _ => ?_
  refine hP.bind (send_closed closed request) fun response => ?_
  refine hP.bind (ofExcept_closed closed _) fun value => ?_
  exact callPostProcess_closed closed _ value

end Requests

/-! ## §7. The values of sources. -/

theorem readKey_closed (hP : Logging P) (store : Store) (key : String) :
    P (readKey store key : Run State ε _) := by
  refine hP.bind (notes_closed hP _) ?_
  intro _
  exact hP.pure _

theorem readStore_closed (hP : Logging P) (store : Store) (key : String) (path : Option String) :
    P (readStore store key path : Run State ε _) := by
  refine hP.bind (readKey_closed hP store key) ?_
  intro value
  cases path <;> exact hP.pure _

theorem boundInput_closed (hP : Reading seen P) (service name : String) :
    P (boundInput service name) := by
  refine hP.get ?_ ?_
  · intro s
    split
    · exact inputValue_closed hP _
    · refine hP.bind (hP.note _) ?_
      intro _
      exact hP.pure _
  · intro s t h
    simp only [h.input]

variable {make : Maker} {a : Activity} {before : Inherited}

theorem madeValue_closed (hP : Logging P) (activity : String) {k : Nat} (h : P (make k)) :
    P (madeValue make activity k) := by
  refine hP.bind (hP.attempt h) ?_
  intro outcome
  split
  · exact hP.pure _
  · refine hP.bind (hP.note _) ?_
    intro _
    exact hP.pure _

theorem sourceValue_closed (hP : Reading seen P) {source : Source}
    (ha : ∀ scope, source.scope? = some scope → seen scope a.service)
    (h : ∀ k, source.maker? = some k → P (make k)) : P (sourceValue make a before source) := by
  have logging := hP.toLogging
  cases source with
  | input name => exact boundInput_closed hP a.service name
  | fileInput name => exact boundInput_closed hP a.service name
  | parentResult => exact hP.pure _
  | previousResult => exact hP.pure _
  | constant value => exact hP.pure _
  | store scope key path =>
    refine hP.get (fun s => readStore_closed logging _ key path) ?_
    intro s t same
    simp only [same.store scope a.service (ha scope rfl)]
  | queryParam name =>
    refine hP.get (fun s => hP.pure _) ?_
    intro s t same
    simp only [same.query]
  | generate k => exact madeValue_closed logging a.name (h k rfl)

/-! ## §8. The arguments of an activity. -/

theorem sourceValues_closed (hP : Reading seen P) :
    ∀ (sources : Dict Source) (values : Dict Json),
      (∀ source ∈ sources.values, ∀ scope, source.scope? = some scope → seen scope a.service) →
      (∀ name k, (name, Source.generate k) ∈ sources → P (make k)) →
      P (sourceValues make a before sources values)
  | [], values, _, _ => hP.pure values
  | (name, source) :: rest, values, ha, h => by
      have first : P (sourceValue make a before source) := by
        apply sourceValue_closed hP (ha source List.mem_cons_self)
        intro k hk
        obtain rfl := Source.eq_generate_of_maker? hk
        exact h name k List.mem_cons_self
      refine hP.bind first ?_
      intro value
      exact sourceValues_closed hP rest _ (fun source hs => ha source (List.mem_cons_of_mem _ hs))
        fun name k hk => h name k (List.mem_cons_of_mem _ hk)

theorem dynamicValue_closed (hP : Reading seen P) (name : String) {p : Flow.DynamicParameter}
    (ha : ∀ source scope, p.source? = some source → source.scope? = some scope →
      seen scope a.service)
    (h : ∀ k, p.generator = some k → P (make k)) :
    P (dynamicValue make a before name p) := by
  unfold dynamicValue
  split
  · refine hP.bind (hP.note _) ?_
    intro _
    exact hP.pure _
  next source hs =>
    have value : P (sourceValue make a before source) :=
      sourceValue_closed hP (fun scope => ha source scope hs) fun k hk =>
        h k (Source.maker?_of_ofParameter? hs hk)
    refine hP.bind (hP.attempt value) ?_
    intro outcome
    split
    · exact hP.pure _
    · refine hP.bind (hP.note _) ?_
      intro _
      exact hP.pure _

theorem dynamicValues_closed (hP : Reading seen P) :
    ∀ (ps : Dict Flow.DynamicParameter) (values : Dict Json),
      (∀ p ∈ ps.values, ∀ source scope, p.source? = some source → source.scope? = some scope →
        seen scope a.service) →
      (∀ name p k, (name, p) ∈ ps → p.generator = some k → P (make k)) →
      P (dynamicValues make a before ps values)
  | [], values, _, _ => hP.pure values
  | (name, p) :: rest, values, ha, h => by
      have others := fun values => dynamicValues_closed hP rest values
        (fun p hp => ha p (List.mem_cons_of_mem _ hp))
        fun name p k hm hk => h name p k (List.mem_cons_of_mem _ hm) hk
      have first : P (dynamicValue make a before name p) :=
        dynamicValue_closed hP name (ha p List.mem_cons_self)
          fun k hk => h name p k List.mem_cons_self hk
      refine hP.bind first ?_
      intro value
      cases value with
      | none => exact others values
      | some value => exact others _

theorem requestBody_closed (hP : Reading seen P) (ha : a.Sees seen)
    (h : ∀ name k, (name, Source.generate k) ∈ a.requestBody → P (make k)) :
    P (requestBody make a before) := by
  unfold requestBody
  split
  · exact hP.pure _
  split
  next source hs =>
    have value : P (sourceValue make a before source) := by
      apply sourceValue_closed hP fun scope => ha.of_mem (Activity.mem_sources_of_whole hs)
      intro k hk
      obtain rfl := Source.eq_generate_of_maker? hk
      exact h _ k (Dict.mem_of_get? hs)
    have result : P (sourceValue make a before source >>= fun value => pure (some value) :
        Run State ExecutionError (Option Json)) := by
      refine hP.bind value ?_
      intro _
      exact hP.pure _
    split
    · exact hP.bind (hP.note _) fun _ => result
    · exact result
  next hs =>
    have members : P (sourceValues make a before a.requestBody []) :=
      sourceValues_closed hP _ _
        (fun _ hm _ => ha.of_mem (Activity.mem_sources_of_part hs hm)) h
    refine hP.bind members ?_
    intro members
    exact hP.pure _

theorem parameterValues_closed (hP : Reading seen P) (ha : a.Sees seen)
    (h : ∀ k ∈ a.makers, P (make k)) : P (parameterValues make a before) := by
  have sources : P (sourceValues make a before a.parameters []) :=
    sourceValues_closed hP _ _
      (fun _ hs _ => ha.of_mem (Activity.mem_sources_of_parameter hs))
      fun _ k hk => h k (Activity.mem_makers_of_parameter hk)
  refine hP.bind sources ?_
  intro values
  exact dynamicValues_closed hP _ _
    (fun _ hp _ _ hs => ha.of_mem (Activity.mem_sources_of_dynamic hp hs))
    fun _ _ k hm hk => h k (Activity.mem_makers_of_dynamic hm hk)

variable {run : Executor}

/-- **The arguments have the property if those who make them have it.** -/
theorem argumentsOf_closed (hP : Reading seen P) (ha : a.Sees seen)
    (h : ∀ k ∈ a.makers, P (run k {} false)) : P (argumentsOf run a before) := by
  have body : P (requestBody (maker run) a before) :=
    requestBody_closed hP ha fun _ k hk => h k (Activity.mem_makers_of_body hk)
  refine hP.bind (parameterValues_closed hP ha h) fun parameters => ?_
  refine hP.bind body fun body => ?_
  exact hP.pure _

theorem preProcessed_closed (hP : Logging P) (flow : Flow) (arguments : Arguments) :
    P (preProcessed flow a arguments) := by
  unfold preProcessed
  split
  · exact hP.pure _
  · refine hP.bind (hP.attempt (call_closed hP.toClosed _ _)) ?_
    intro outcome
    split
    · exact hP.pure _
    · exact hP.pure _
    · refine hP.bind (hP.note _) ?_
      intro _
      exact hP.pure _
    · exact hP.fail _

/-- **The call of a strategy has the property if the run of the target has it.** -/
theorem callStrategy_closed (hP : Reading seen P) {strategy : Strategy} (arguments : Arguments)
    (h : ∀ k before, strategy.target? = some k → P (run k before false)) :
    P (callStrategy run strategy arguments) := by
  cases strategy with
  | function f => exact callFunction_closed hP.toClosed f _ _
  | remote o =>
    refine hP.bind (endpoint_closed hP _) ?_
    intro endpoint
    exact operationCall_closed hP.toLogging o endpoint _ _
  | capability c => exact callCapability_closed hP.toLogging c _ _
  | reference target => exact hP.mapError (h target _ rfl)

end Pageflow.Run
