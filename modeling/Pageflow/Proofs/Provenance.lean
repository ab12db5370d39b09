/-
  Pageflow.Proofs.Provenance — which files the values of an activity describe.

  From outside come the answers to questions.  If these describe no file but those of a set, then
  neither does a result, and what an activity is called with describes no file but those and the
  files that are selected for an input of its service.  So to find out the values of an activity,
  and to put them into a request, no other file is asked for, as long as the states in between are
  honest.

  Main definitions: `Answered`, `terms`, `Known` and `Activity.Plain`.
  Main statements: `sourceValue_keeps`, `argumentsOf_keeps`, `operationCall_keeps` and
  `callStrategy_keeps`.
-/
import Pageflow.Proofs.Backing
import Pageflow.Proofs.Closed
import Pageflow.Proofs.Honest
import Pageflow.Proofs.Keeping

namespace Pageflow

/-- The file that a question is about. -/
def Query.file? : Query → Option String
  | .fileBytes path | .fileSize path => some path
  | _ => none

namespace Run

open Pageflow.Flow (Activity Input Source Strategy)

/-! ## §1. Terms. -/

/-- An answer from outside describes no file but those of a set.  The content of a file may be
anything: it never becomes a description. -/
def Answered (V : String → Prop) : (q : Query) → q.Answer → Prop
  | .call _ _, (answer : Except Fault Output) =>
    ∀ output, answer = .ok output → ∀ v, output.result = .ok v → Vouched V v
  | .send _, (answer : Except Http.TransportError Http.Response) =>
    ∀ response, answer = .ok response → ∀ v, Json.parse? response.text = .ok v → Vouched V v
  | _, _ => True

/-- States are honest, and answers are vouched for; then only files of a set are asked for. -/
def terms (V : String → Prop) (Sel : Selection) (P : String → Prop) : Terms State where
  state := Honest V Sel
  answer := Answered V
  question q := ∀ path, q.file? = some path → P path

/-- The files that the values of an activity of the service may describe. -/
def Known (V : String → Prop) (Sel : Selection) (service path : String) : Prop :=
  V path ∨ Sel.Has service path

variable {V P : String → Prop} {Sel : Selection} {ε : Type}

theorem Vouched.known {v : Json} (h : Vouched V v) (service : String) :
    Vouched (Known V Sel service) v := h.mono fun _ => .inl

/-- The log may be written. -/
theorem terms_log (n : Note) (s : State) (h : (terms V Sel P).state s) :
    (terms V Sel P).state (Journal.write n s) := Honest.write n h

theorem note_keeps (n : Note) :
    (note n : Run State ε Unit).Keeps (terms V Sel P) fun _ => True :=
  keeps_note terms_log n

theorem notes_keeps (ns : List Note) :
    (notes ns : Run State ε Unit).Keeps (terms V Sel P) fun _ => True :=
  keeps_notes terms_log ns

/-! ## §2. Functions. -/

section Functions

/-- **Whatever a function gives is vouched for.** -/
theorem call_keeps (f : Function) (arguments : List Json) :
    (call f arguments : Run State Fault Output).Keeps (terms V Sel P)
      fun output => ∀ v, output.result = .ok v → Vouched V v := by
  intro s hs
  refine ⟨by intro path h; contradiction, hs, ?_⟩
  intro answer t ha ht
  exact ⟨ht, ha⟩

theorem callFunction_keeps (f : Function) (parameters : Dict Json) (body : Option Json) :
    (callFunction f parameters body : Run State ExecutionError Json).Keeps (terms V Sel P)
      (Vouched V) := by
  refine keeps_bind (keeps_mapError (call_keeps f _)) ?_
  intro output fine
  exact keeps_ofExcept fine

theorem callPostProcess_keeps (f? : Option Function) {value : Json} (h : Vouched V value) :
    (callPostProcess f? value : Run State ExecutionError Json).Keeps (terms V Sel P)
      (Vouched V) := by
  cases f? with
  | none => exact keeps_pure h
  | some f =>
    refine keeps_bind (keeps_mapError (call_keeps f _)) ?_
    intro output fine
    exact keeps_ofExcept fine

theorem callCapability_keeps (c : ModuleCapability) (parameters : Dict Json)
    (body : Option Json) :
    (callCapability c parameters body : Run State ExecutionError Json).Keeps (terms V Sel P)
      (Vouched V) := by
  refine keeps_bind (note_keeps _) fun _ _ => ?_
  refine keeps_bind (keeps_mapError (call_keeps c.function _)) fun output fine => ?_
  split
  · exact keeps_fail _
  · refine keeps_bind (keeps_ofExcept fine) ?_
    intro value vouched
    exact callPostProcess_keeps _ vouched

end Functions

/-! ## §3. Files and inputs. -/

section Inputs

variable {service : String}

theorem readFile_keeps {path : String} (h : P path) :
    (readFile path : Run State ExecutionError Bytes).Keeps (terms V Sel P) fun _ => True := by
  have own : (terms V Sel P).question (.fileBytes path) := by
    rintro _ ⟨⟩
    exact h
  refine keeps_bind (keeps_ask own) ?_
  intro answer _
  split
  · exact keeps_pure trivial
  · exact keeps_fail _

theorem measureFile_keeps {path : String} (h : P path) :
    (measureFile path : Run State ExecutionError Nat).Keeps (terms V Sel P) fun _ => True := by
  have own : (terms V Sel P).question (.fileSize path) := by
    rintro _ ⟨⟩
    exact h
  refine keeps_bind (keeps_ask own) ?_
  intro answer _
  split
  · exact keeps_pure trivial
  · exact keeps_fail _

/-- The value of a file input describes at most the file that it is read from. -/
theorem readFileInput_keeps (f : Document.FileInput) {path : String} {W : String → Prop}
    (own : W path) (h : P path) :
    (readFileInput f path).Keeps (terms V Sel P) (Vouched W) := by
  unfold readFileInput
  split
  · -- only here the value describes a file; else it is the content, as bytes or as text
    refine keeps_bind (measureFile_keeps h) ?_
    intro size _
    exact keeps_pure (vouched_keptFile own size)
  · refine keeps_bind (readFile_keeps h) ?_
    intro bytes _
    split
    · exact keeps_pure (vouched_ofBytes bytes)
    split
    · exact keeps_pure (vouched_string _)
    · exact keeps_fail _

/-- The value of an input that is no file is what the host has set, or text. -/
theorem vouched_plainValue {s : State} (hs : Honest V Sel s) (i : Input) (kind : Flow.InputKind) :
    Vouched V (plainValue s i kind) := by
  have set : ∀ {v : Json}, Vouched V v →
      Vouched V ((s.value? i.service i.name).getD v) := by
    intro v hv
    cases h : s.value? i.service i.name with
    | some w => exact hs.value i.service i.name w h
    | none => exact hv
  unfold plainValue
  split
  · split
    · exact vouched_string _
    · exact set (vouched_ofText? _)
  · exact set (vouched_ofText? _)
  · exact set (vouched_of_flat rfl rfl)
  · exact vouched_null

/-- **To find out the value of an input only a file that is selected for it is asked for.** -/
theorem inputValue_keeps {i : Input} (h : ∀ path, Sel.Has i.service path → P path) :
    (inputValue i).Keeps (terms V Sel P) (Vouched (Known V Sel i.service)) := by
  refine keeps_get_bind ?_
  intro s hs
  split
  next f _ =>
    split
    next path hp =>
      have selected : Sel.Has i.service path := ⟨i.name, hs.file _ _ _ hp⟩
      exact readFileInput_keeps f (.inr selected) (h path selected)
    next => exact keeps_pure vouched_null
  next kind _ => exact keeps_pure ((vouched_plainValue hs i _).known i.service)

variable (h : ∀ path, Sel.Has service path → P path)

include h

theorem boundInput_keeps (name : String) :
    (boundInput service name).Keeps (terms V Sel P) (Vouched (Known V Sel service)) := by
  refine keeps_get_bind ?_
  intro s hs
  split
  next i hi =>
    obtain rfl := Honest.service_of_input? hs hi
    exact inputValue_keeps h
  next =>
    refine keeps_bind (note_keeps _) ?_
    intro _ _
    exact keeps_pure vouched_null

/-! ## §4. Servers and credentials. -/

theorem fieldText_keeps (name : String) :
    (fieldText service name : Run State ε _).Keeps (terms V Sel P) fun _ => True := by
  refine keeps_get_bind ?_
  intro s hs
  split
  next => exact keeps_pure trivial
  next i hi =>
    obtain rfl := Honest.service_of_input? hs hi
    refine keeps_bind (keeps_attempt (inputValue_keeps h)) ?_
    intro outcome _
    split
    · exact keeps_pure trivial
    · exact keeps_pure trivial
    · refine keeps_bind (note_keeps _) ?_
      intro _ _
      exact keeps_pure trivial

theorem textOf_keeps (source : Document.ValueSource) :
    (textOf service source : Run State ε _).Keeps (terms V Sel P) fun _ => True := by
  cases source with
  | literal text => exact keeps_pure trivial
  | constant text => exact keeps_pure trivial
  | queryParam name => exact keeps_get_bind fun _ _ => keeps_pure trivial
  | field name => exact fieldText_keeps h name

theorem credentials_keeps : ∀ sources : List (String × Document.ValueSource),
    (credentials service sources : Run State ε _).Keeps (terms V Sel P) fun _ => True
  | [] => keeps_pure trivial
  | (scheme, source) :: rest => by
      refine keeps_bind (textOf_keeps h source) ?_
      intro text _
      split
      · refine keeps_bind (credentials_keeps rest) ?_
        intro others _
        exact keeps_pure trivial
      · refine keeps_bind (note_keeps _) ?_
        intro _ _
        exact credentials_keeps rest

end Inputs

/-- **The server and the credentials are found out from inputs of the backend's service.** -/
theorem endpoint_keeps {backend : Remote.Backend}
    (h : ∀ path, Sel.Has backend.service path → P path) :
    (endpoint backend : Run State ε _).Keeps (terms V Sel P) fun _ => True := by
  have rest : ∀ server : Option String,
      (credentials backend.service backend.authorization >>= fun credentials =>
        pure { server, credentials } : Run State ε Remote.Endpoint).Keeps (terms V Sel P)
          fun _ => True := by
    intro server
    refine keeps_bind (credentials_keeps h _) ?_
    intro credentials _
    exact keeps_pure trivial
  unfold endpoint
  split
  · exact keeps_bind (textOf_keeps h _) fun server _ => rest server
  · exact rest none

/-! ## §5. Requests. -/

/-- No member of a body describes a file but those of a set.  The body itself may look like
anything, for only its members become parts. -/
def FineBody (W : String → Prop) (body : Option Json) : Prop :=
  ∀ v, body = some v → Fine W (v.members?.getD [])

section Requests

variable {W : String → Prop} (known : ∀ path, W path → P path)

include known

/-- **A part asks only for a file that its value describes.** -/
theorem part_keeps {value : Json} (h : Vouched W value) :
    (Remote.part value : Run State _ _).Keeps (terms V Sel P) fun _ => True := by
  unfold Remote.part
  split
  -- it looks like the description of a file, so the file is read
  next name path hk =>
    have described : P path := known path (h value .self name path hk)
    refine keeps_bind (readFile_keeps described) ?_
    intro bytes _
    exact keeps_pure trivial
  next =>
    split
    · exact keeps_pure trivial
    · exact keeps_pure trivial

theorem parts_keeps : ∀ {members : Dict Json}, Fine W members →
    (Remote.parts members : Run State _ _).Keeps (terms V Sel P) fun _ => True
  | [], _ => keeps_pure trivial
  | (_, _) :: _, h => by
      refine keeps_bind (part_keeps known (h _ List.mem_cons_self)) fun p _ => ?_
      refine keeps_bind (parts_keeps fun e he => h e (List.mem_cons_of_mem _ he)) fun others _ => ?_
      exact keeps_pure trivial

theorem body_keeps (o : Remote.Operation) {value : Option Json} (h : FineBody W value) :
    (o.body value : Run State _ _).Keeps (terms V Sel P) fun _ => True := by
  unfold Remote.Operation.body
  split
  · exact keeps_pure trivial
  · exact keeps_pure trivial
  · have members : Fine W ((value.bind Json.members?).getD []) := by
      cases value with
      | none => exact fine_nil
      | some v => exact h v rfl
    refine keeps_bind (parts_keeps known members) ?_
    intro parts _
    exact keeps_pure trivial
  · refine keeps_bind (note_keeps _) ?_
    intro _ _
    exact keeps_pure trivial

theorem request_keeps (o : Remote.Operation) (endpoint : Remote.Endpoint)
    (parameters : Dict Json) {value : Option Json} (h : FineBody W value) :
    (o.request endpoint parameters value : Run State _ _).Keeps (terms V Sel P)
      fun _ => True := by
  refine keeps_bind (keeps_ofExcept fun _ _ => trivial) fun server _ => ?_
  refine keeps_bind (keeps_ofExcept fun _ _ => trivial) fun url _ => ?_
  refine keeps_bind (notes_keeps _) fun _ _ => ?_
  refine keeps_bind (keeps_ofExcept fun _ _ => trivial) fun method _ => ?_
  refine keeps_bind (body_keeps known o h) fun body _ => ?_
  exact keeps_pure trivial

end Requests

/-- A response carries JSON, or a text. -/
theorem vouched_interpret {o : Remote.Operation} {r : Http.Response}
    (h : ∀ v, Json.parse? r.text = .ok v → Vouched V v) {v : Json}
    (hv : o.interpret r = .ok v) : Vouched V v := by
  unfold Remote.Operation.interpret at hv
  split at hv
  · contradiction
  split at hv
  · obtain rfl := Except.ok.inj hv
    exact vouched_null
  split at hv
  · unfold Http.parseContent at hv
    split at hv
    next value hp =>
      obtain rfl := Except.ok.inj hv
      exact h _ hp
    next => contradiction
  · split at hv
    next value hp =>
      obtain rfl := Except.ok.inj hv
      exact h _ hp
    next =>
      obtain rfl := Except.ok.inj hv
      exact vouched_string _

theorem send_keeps (r : Http.Request) :
    (Remote.Operation.send r : Run State _ _).Keeps (terms V Sel P)
      fun response => ∀ v, Json.parse? response.text = .ok v → Vouched V v := by
  have own : (terms V Sel P).question (.send r) := by
    intro path h
    contradiction
  refine keeps_bind (keeps_ask own) ?_
  intro answer answered
  split
  next response => exact keeps_pure (answered response rfl)
  next => exact keeps_fail _

/-- **A call asks only for files that its body describes**, and its result is vouched for. -/
theorem operationCall_keeps {W : String → Prop} (known : ∀ path, W path → P path)
    (o : Remote.Operation) (endpoint : Remote.Endpoint) (parameters : Dict Json)
    {value : Option Json} (h : FineBody W value) :
    (o.call endpoint parameters value : Run State _ _).Keeps (terms V Sel P) (Vouched V) := by
  refine keeps_bind (request_keeps known o endpoint parameters h) fun request _ => ?_
  refine keeps_bind (note_keeps _) fun _ _ => ?_
  refine keeps_bind (send_keeps request) fun response answered => ?_
  refine keeps_bind (keeps_ofExcept fun v hv => vouched_interpret answered hv) fun value fine => ?_
  exact callPostProcess_keeps _ fine

/-! ## §6. The values of sources. -/

theorem readKey_keeps {store : Store} (h : Fine V store.values) (key : String) :
    (readKey store key : Run State ε _).Keeps (terms V Sel P) (Vouched V) := by
  refine keeps_bind (notes_keeps _) fun _ _ => keeps_pure ?_
  unfold Store.read Store.get?
  cases hk : store.values.get? key with
  | some v => exact h.get? hk
  | none => exact vouched_null

theorem readStore_keeps {store : Store} (h : Fine V store.values) (key : String)
    (path : Option String) :
    (readStore store key path : Run State ε _).Keeps (terms V Sel P) (Vouched V) := by
  refine keeps_bind (readKey_keeps h key) ?_
  intro value fine
  cases path with
  | none => exact keeps_pure fine
  | some path => exact keeps_pure (fine.select path)

/-- What comes before an activity is vouched for. -/
structure Inherited.Fine (V : String → Prop) (before : Inherited) : Prop where
  parent : ∀ v, before.parent = some v → Vouched V v
  previous : ∀ v, before.previous = some v → Vouched V v

theorem Inherited.fine_empty : Inherited.Fine V {} where
  parent := by
    intro v h
    contradiction
  previous := by
    intro v h
    contradiction

theorem vouched_getD {v? : Option Json} (h : ∀ v, v? = some v → Vouched V v) :
    Vouched V (v?.getD .null) := by
  cases v? with
  | some v => exact h v rfl
  | none => exact vouched_null

theorem madeValue_keeps {make : Maker} (activity : String) {k : Nat}
    (h : (make k).Keeps (terms V Sel P) (Vouched V)) :
    (madeValue make activity k).Keeps (terms V Sel P) (Vouched V) := by
  refine keeps_bind (keeps_attempt h) ?_
  intro outcome fine
  split
  · exact keeps_pure (fine _ rfl)
  · refine keeps_bind (note_keeps _) ?_
    intro _ _
    exact keeps_pure vouched_null

section Sources

variable {make : Maker} {a : Activity} {before : Inherited}
  (selected : ∀ path, Sel.Has a.service path → P path) (fine : before.Fine V)

include selected fine

/-- **The value of a source describes no file but those that may be described, and those selected
for an input of the service.** -/
theorem sourceValue_keeps {source : Source} (plain : ∀ v, source = .constant v → Vouched V v)
    (h : ∀ k, source.maker? = some k → (make k).Keeps (terms V Sel P) (Vouched V)) :
    (sourceValue make a before source).Keeps (terms V Sel P)
      (Vouched (Known V Sel a.service)) := by
  cases source with
  | input name => exact boundInput_keeps selected name
  | fileInput name => exact boundInput_keeps selected name
  | parentResult => exact keeps_pure ((vouched_getD fine.parent).known a.service)
  | previousResult => exact keeps_pure ((vouched_getD fine.previous).known a.service)
  | constant value => exact keeps_pure ((plain value rfl).known a.service)
  | store scope key path =>
    refine keeps_get_bind ?_
    intro s hs
    have stored : Fine V (s.storeFor scope a.service).values := Honest.storeFor hs scope a.service
    exact (readStore_keeps stored key path).imp fun _ hv => hv.known a.service
  | queryParam name => exact keeps_get_bind fun _ _ => keeps_pure (vouched_ofText? _)
  | generate k => exact (madeValue_keeps a.name (h k rfl)).imp fun _ hv => hv.known a.service

theorem sourceValues_keeps :
    ∀ (sources : Dict Source) {values : Dict Json},
      (∀ source ∈ sources.values, ∀ v, source = .constant v → Vouched V v) →
      (∀ name k, (name, Source.generate k) ∈ sources →
        (make k).Keeps (terms V Sel P) (Vouched V)) →
      Fine (Known V Sel a.service) values →
      (sourceValues make a before sources values).Keeps (terms V Sel P)
        (Fine (Known V Sel a.service))
  | [], _, _, _, hv => keeps_pure hv
  | (name, source) :: rest, values, plain, h, hv => by
      have first : (sourceValue make a before source).Keeps (terms V Sel P)
          (Vouched (Known V Sel a.service)) := by
        refine sourceValue_keeps selected fine (plain source List.mem_cons_self) ?_
        intro k hk
        obtain rfl := Source.eq_generate_of_maker? hk
        exact h name k List.mem_cons_self
      refine keeps_bind first ?_
      intro value vouched
      exact sourceValues_keeps rest (fun source hs => plain source (List.mem_cons_of_mem _ hs))
        (fun name k hk => h name k (List.mem_cons_of_mem _ hk)) (hv.insert vouched)

theorem dynamicValue_keeps (name : String) {p : Flow.DynamicParameter}
    (plain : ∀ source, p.source? = some source → ∀ v, source = .constant v → Vouched V v)
    (h : ∀ k, p.generator = some k → (make k).Keeps (terms V Sel P) (Vouched V)) :
    (dynamicValue make a before name p).Keeps (terms V Sel P)
      fun value? => ∀ v, value? = some v → Vouched (Known V Sel a.service) v := by
  unfold dynamicValue
  split
  · refine keeps_bind (note_keeps _) ?_
    intro _ _
    exact keeps_pure (by intro v hv; contradiction)
  next source hs =>
    have value := sourceValue_keeps selected fine (plain source hs)
      fun k hk => h k (Source.maker?_of_ofParameter? hs hk)
    refine keeps_bind (keeps_attempt value) ?_
    intro outcome vouched
    split
    · refine keeps_pure ?_
      rintro _ ⟨⟩
      exact vouched _ rfl
    · refine keeps_bind (note_keeps _) ?_
      intro _ _
      exact keeps_pure (by intro v hv; contradiction)

theorem dynamicValues_keeps :
    ∀ (ps : Dict Flow.DynamicParameter) {values : Dict Json},
      (∀ p ∈ ps.values, ∀ source, p.source? = some source → ∀ v, source = .constant v →
        Vouched V v) →
      (∀ name p k, (name, p) ∈ ps → p.generator = some k →
        (make k).Keeps (terms V Sel P) (Vouched V)) →
      Fine (Known V Sel a.service) values →
      (dynamicValues make a before ps values).Keeps (terms V Sel P)
        (Fine (Known V Sel a.service))
  | [], _, _, _, hv => keeps_pure hv
  | (name, p) :: rest, values, plain, h, hv => by
      have others : ∀ {values : Dict Json}, Fine (Known V Sel a.service) values →
          (dynamicValues make a before rest values).Keeps (terms V Sel P)
            (Fine (Known V Sel a.service)) :=
        dynamicValues_keeps rest (fun p hp => plain p (List.mem_cons_of_mem _ hp))
          fun name p k hm hk => h name p k (List.mem_cons_of_mem _ hm) hk
      have first := dynamicValue_keeps selected fine name (plain p List.mem_cons_self)
        fun k hk => h name p k List.mem_cons_self hk
      refine keeps_bind first ?_
      intro value? vouched
      cases value? with
      | none => exact others hv
      | some value => exact others (hv.insert (vouched value rfl))

end Sources

/-! ## §7. The arguments of an activity. -/

/-- The constants among the sources of an activity are vouched for, and so is the result that
stands in for its call. -/
structure Plain (V : String → Prop) (a : Activity) : Prop where
  constant : ∀ v, Source.constant v ∈ a.sources → Vouched V v
  skipped : Vouched V (skippedResult a)

/-- What a call takes describes no file but those of a set. -/
structure Arguments.Fine (W : String → Prop) (arguments : Arguments) : Prop where
  parameters : Run.Fine W arguments.parameters
  body : FineBody W arguments.body

section Arguments

variable {make : Maker} {a : Activity} {before : Inherited} (plain : Plain V a)
  (selected : ∀ path, Sel.Has a.service path → P path) (fine : before.Fine V)

include plain selected fine

theorem parameterValues_keeps
    (h : ∀ k ∈ a.makers, (make k).Keeps (terms V Sel P) (Vouched V)) :
    (parameterValues make a before).Keeps (terms V Sel P) (Fine (Known V Sel a.service)) := by
  have constant : ∀ {source}, source ∈ a.sources → ∀ v, source = .constant v → Vouched V v := by
    rintro _ hs v rfl
    exact plain.constant v hs
  have sources : (sourceValues make a before a.parameters []).Keeps (terms V Sel P)
      (Fine (Known V Sel a.service)) :=
    sourceValues_keeps selected fine a.parameters
      (fun _ hs => constant (Activity.mem_sources_of_parameter hs))
      (fun _ k hk => h k (Activity.mem_makers_of_parameter hk)) fine_nil
  refine keeps_bind sources ?_
  intro values hv
  exact dynamicValues_keeps selected fine a.dynamicParameters
    (fun _ hp _ hs => constant (Activity.mem_sources_of_dynamic hp hs))
    (fun _ _ k hm hk => h k (Activity.mem_makers_of_dynamic hm hk)) hv

theorem requestBody_keeps
    (h : ∀ k ∈ a.makers, (make k).Keeps (terms V Sel P) (Vouched V)) :
    (requestBody make a before).Keeps (terms V Sel P) (FineBody (Known V Sel a.service)) := by
  unfold requestBody
  split
  · exact keeps_pure (by intro v hv; contradiction)
  split
  next source hs =>
    have value : (sourceValue make a before source).Keeps (terms V Sel P)
        (Vouched (Known V Sel a.service)) := by
      refine sourceValue_keeps selected fine ?_ ?_
      · rintro v rfl
        exact plain.constant v (Activity.mem_sources_of_whole hs)
      · intro k hk
        obtain rfl := Source.eq_generate_of_maker? hk
        exact h k (Activity.mem_makers_of_body (Dict.mem_of_get? hs))
    have result : (sourceValue make a before source >>= fun value => pure (some value) :
        Run State ExecutionError (Option Json)).Keeps (terms V Sel P)
          (FineBody (Known V Sel a.service)) := by
      refine keeps_bind value ?_
      intro value vouched
      refine keeps_pure ?_
      rintro _ ⟨⟩
      exact vouched.members
    split
    · exact keeps_bind (note_keeps _) fun _ _ => result
    · exact result
  -- the parts are made one by one, and put together under their names
  next hs =>
    have members : (sourceValues make a before a.requestBody []).Keeps (terms V Sel P)
        (Fine (Known V Sel a.service)) := by
      refine sourceValues_keeps selected fine _ ?_
        (fun _ k hk => h k (Activity.mem_makers_of_body hk)) fine_nil
      rintro _ hm v rfl
      exact plain.constant v (Activity.mem_sources_of_part hs hm)
    refine keeps_bind members ?_
    intro members hm
    refine keeps_pure ?_
    rintro _ ⟨⟩
    exact hm

/-- **What an activity is called with describes no file but those that may be described, and those
selected for an input of its service.** -/
theorem argumentsOf_keeps {run : Executor}
    (h : ∀ k ∈ a.makers, (run k {} false).Keeps (terms V Sel P) (Vouched V)) :
    (argumentsOf run a before).Keeps (terms V Sel P)
      (Arguments.Fine (Known V Sel a.service)) := by
  refine keeps_bind (parameterValues_keeps plain selected fine h) fun parameters hp => ?_
  refine keeps_bind (requestBody_keeps plain selected fine h) fun body hb => ?_
  exact keeps_pure ⟨hp, hb⟩

end Arguments

/-- A function that looks at the parameters adds no description of another file. -/
theorem preProcessed_keeps (flow : Flow) (a : Activity) {arguments : Arguments} {service : String}
    (h : arguments.Fine (Known V Sel service)) :
    (preProcessed flow a arguments).Keeps (terms V Sel P)
      (Arguments.Fine (Known V Sel service)) := by
  unfold preProcessed
  split
  · exact keeps_pure h
  · refine keeps_bind (keeps_attempt (call_keeps _ _)) ?_
    intro outcome fine
    split
    -- an object that it gives is written over the parameters
    next overrides =>
      have members : Fine V overrides := (fine _ rfl _ rfl).members
      exact keeps_pure ⟨h.parameters.insertAll (members.mono fun _ => .inl), h.body⟩
    next => exact keeps_pure h
    next =>
      refine keeps_bind (note_keeps _) ?_
      intro _ _
      exact keeps_pure h
    next => exact keeps_fail _

/-! ## §8. Calls. -/

/-- The run of an activity keeps to the terms, whatever comes before it. -/
def Serves (V : String → Prop) (Sel : Selection) (P : String → Prop) (run : Executor)
    (place : Nat) : Prop :=
  ∀ before shows, before.Fine V → (run place before shows).Keeps (terms V Sel P) (Vouched V)

/-- **The result of a call is vouched for**, and the call asks only for files that its arguments
describe or that are selected for its server and its credentials.  A reference passes its
parameters on as one value. -/
theorem callStrategy_keeps {run : Executor} {strategy : Strategy} {arguments : Arguments}
    {W : String → Prop} (known : ∀ path, W path → P path) (fine : arguments.Fine W)
    (remote : ∀ o, strategy = .remote o → ∀ path, Sel.Has o.backend.service path → P path)
    (target : ∀ k, strategy = .reference k →
      Vouched V (.object arguments.parameters) ∧ Serves V Sel P run k) :
    (callStrategy run strategy arguments).Keeps (terms V Sel P) (Vouched V) := by
  cases strategy with
  | function f => exact callFunction_keeps f _ _
  | remote o =>
    refine keeps_bind (endpoint_keeps (remote o rfl)) ?_
    intro endpoint _
    exact operationCall_keeps known o endpoint _ fine.body
  | capability c => exact callCapability_keeps c _ _
  | reference k =>
    obtain ⟨whole, serves⟩ := target k rfl
    refine keeps_mapError (serves _ _ ⟨?_, ?_⟩)
    · rintro _ ⟨⟩
      exact whole
    · intro v hv
      contradiction

end Run

end Pageflow
