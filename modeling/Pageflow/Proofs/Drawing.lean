/-
  Pageflow.Proofs.Drawing — the values that twins are called with.

  If questions have one answer each and selected files can be read, the value of a source is found
  wherever it is looked for, and nothing that lasts changes.  So it does not matter in which order
  the values of an activity are drawn, nor which of them are dynamic: twins come to the same value
  under every name, except that what one of them holds as `null` the other may not hold at all.
  No strategy tells these two apart.

  Main definitions: `CanRead`, `FilesReadable` and `SameValues`.
  Main statements: `amountsTo_parameterValues`, `SameValues.callStrategy`,
  `corresponds_parameterValues`, `corresponds_requestBody` and `corresponds_argumentsOf`.
-/
import Pageflow.Proofs.Answers
import Pageflow.Proofs.Entitled
import Pageflow.Proofs.Twins

namespace Pageflow

namespace Run

open Pageflow.Flow (Activity DynamicParameter IsBuilt Materials Orderly Source Strategy)

/-! ## §1. Files that can be read. -/

/-- The file can be read as the input wants it: measured, or read as bytes or as a text. -/
def CanRead (answers : Answers) (f : Document.FileInput) (path : String) : Prop :=
  if f.keepAsFile then ∃ size, (answers (.fileSize path) : Except FileError Nat) = .ok size
  else ∃ bytes, (answers (.fileBytes path) : Except FileError Bytes) = .ok bytes
    ∧ (f.binary = true ∨ (Utf8.decode? bytes).isSome = true)

/-- Some result of the service may declare its inputs anew. -/
def MayRedeclare (flow : Flow) (service : String) : Prop :=
  ∃ a ∈ flow.arena, a.service = service ∧ a.presentation.resultAsDynamicUi = true

/-- No selected file is unreadable: each can be read as the input wants it that it is selected with.
A result that declares an input anew may want its file in another way than before, so where that
can happen a selected file can be read in whatever way. -/
structure FilesReadable (answers : Answers) (flow : Flow) (s : State) : Prop where
  now : ∀ service name i f path, s.input? service name = some i → i.kind = .file f →
    s.file? i.service i.name = some path → CanRead answers f path
  later : ∀ service, MayRedeclare flow service →
    ∀ name path, s.file? service name = some path → ∀ f, CanRead answers f path

variable {answers : Answers} {flow flow' : Flow} {s t c : State} {run run' : Executor}
  {a b : Activity} {before : Inherited}

/-- Only inputs and selected files count. -/
theorem FilesReadable.of_eq (h : FilesReadable answers flow s) (input : t.input? = s.input?)
    (file : t.file? = s.file?) : FilesReadable answers flow t where
  now := by
    rw [input, file]
    exact h.now
  later := by
    rw [file]
    exact h.later

/-- As long as files can be read the runs come to the same. -/
abbrev Matching (answers : Answers) (flow : Flow) {ε α : Type} (r r' : Run State ε α) : Prop :=
  Interchangeable answers (FilesReadable answers flow) r r'

theorem amountsTo_measureFile {path : String} {size : Nat}
    (h : (answers (.fileSize path) : Except FileError Nat) = .ok size) :
    AmountsTo answers c (measureFile path) (.ok size) := by
  refine (amountsTo_ask _).bind ?_
  rw [h]
  exact amountsTo_pure size

theorem amountsTo_readFile {path : String} {bytes : Bytes}
    (h : (answers (.fileBytes path) : Except FileError Bytes) = .ok bytes) :
    AmountsTo answers c (readFile path) (.ok bytes) := by
  refine (amountsTo_ask _).bind ?_
  rw [h]
  exact amountsTo_pure bytes

theorem amountsTo_readFileInput {f : Document.FileInput} {path : String}
    (h : CanRead answers f path) :
    ∃ v, AmountsTo answers c (readFileInput f path) (.ok v) := by
  unfold CanRead at h
  unfold readFileInput
  split at h
  next kept =>
    obtain ⟨size, hsize⟩ := h
    rw [if_pos kept]
    exact ⟨_, (amountsTo_measureFile hsize).bind (amountsTo_pure _)⟩
  next read =>
    obtain ⟨bytes, hbytes, htext⟩ := h
    rw [if_neg read]
    rcases htext with binary | text
    · exact ⟨_, (amountsTo_readFile hbytes).bind (by rw [if_pos binary]; exact amountsTo_pure _)⟩
    · obtain ⟨text, ht⟩ := Option.isSome_iff_exists.mp text
      by_cases binary : f.binary = true
      · exact ⟨_, (amountsTo_readFile hbytes).bind (by rw [if_pos binary]; exact amountsTo_pure _)⟩
      · exact ⟨_, (amountsTo_readFile hbytes).bind
          (by rw [if_neg binary, ht]; exact amountsTo_pure _)⟩

/-! ## §2. The value of a source. -/

theorem amountsTo_inputValue {service name : String} {i : Flow.Input}
    (h : FilesReadable answers flow c) (hi : c.input? service name = some i) :
    ∃ v, AmountsTo answers c (inputValue i) (.ok v) := by
  have look (s : State) (hs : s.lasting = c.lasting) := sameLook_of_lasting (fun _ _ => True) hs
  cases hk : i.kind with
  | file f =>
    cases hf : c.file? i.service i.name with
    | none =>
      refine ⟨.null, amountsTo_get ?_ ?_⟩
      · intro s hs
        simp only [hk, (look s hs).file]
      · simp only [hk, hf]
        exact amountsTo_pure _
    | some path =>
      obtain ⟨v, hv⟩ := amountsTo_readFileInput (c := c) (h.now service name i f path hi hk hf)
      refine ⟨v, amountsTo_get ?_ ?_⟩
      · intro s hs
        simp only [hk, (look s hs).file]
      · simp only [hk, hf]
        exact hv
  | _ =>
    refine ⟨plainValue c i i.kind, amountsTo_get ?_ ?_⟩
    · intro s hs
      simp only [hk, plainValue_congr (look s hs)]
    · simp only [hk]
      exact amountsTo_pure _

/-- **An input has a value if no selected file is unreadable.** -/
theorem amountsTo_boundInput (h : FilesReadable answers flow c) (service name : String) :
    ∃ v, AmountsTo answers c (boundInput service name) (.ok v) := by
  have look (s : State) (hs : s.lasting = c.lasting) :=
    (sameLook_of_lasting (fun _ _ => True) hs).input
  cases hi : c.input? service name with
  | none =>
    refine ⟨.null, amountsTo_get (fun s hs => by rw [look s hs]) ?_⟩
    rw [hi]
    exact (amountsTo_note _).bind (amountsTo_pure _)
  | some i =>
    obtain ⟨v, hv⟩ := amountsTo_inputValue h hi
    refine ⟨v, amountsTo_get (fun s hs => by rw [look s hs]) ?_⟩
    rw [hi]
    exact hv

theorem amountsTo_readStore {ε : Type} (store : Store) (key : String) (path : Option String) :
    ∃ v, AmountsTo answers c (readStore store key path : Run State ε Json) (.ok v) := by
  have value : AmountsTo answers c (readKey store key : Run State ε Json) (.ok (store.read key)) :=
    (amountsTo_notes _).bind (amountsTo_pure _)
  cases path with
  | none => exact ⟨_, value.bind (amountsTo_pure _)⟩
  | some path => exact ⟨_, value.bind (amountsTo_pure _)⟩

/-- The value that a maker has made; after a failure it is `null`. -/
def valueMade : Except ActivityFailure Json → Json
  | .ok value => value
  | .error _ => .null

theorem amountsTo_madeValue (make : Maker) {k : Nat} {x : Except ActivityFailure Json}
    (h : AmountsTo answers c (make k) x) (activity : String) :
    AmountsTo answers c (madeValue make activity k) (.ok (valueMade x)) := by
  refine h.attempt.bind ?_
  cases x with
  | ok value => exact amountsTo_pure value
  | error e => exact (amountsTo_note _).bind (amountsTo_pure _)

/-- **The value of a source that nobody makes is found**, unless a file is unreadable. -/
theorem exists_amountsTo_sourceValue (h : FilesReadable answers flow c) (make : Maker)
    (a : Activity) (before : Inherited) {source : Source} (unmade : source.maker? = none) :
    ∃ v, AmountsTo answers c (sourceValue make a before source) (.ok v) := by
  cases source with
  | input name => exact amountsTo_boundInput h a.service name
  | fileInput name => exact amountsTo_boundInput h a.service name
  | generate k => contradiction
  | store scope key path =>
    obtain ⟨v, hv⟩ := amountsTo_readStore (c.storeFor scope a.service) key path
    refine ⟨v, amountsTo_get (fun s hs => ?_) hv⟩
    rw [(sameLook_of_lasting (fun _ _ => True) hs).store scope a.service trivial]
  | queryParam name =>
    refine ⟨.ofText? (c.query.get? name), amountsTo_get (fun s hs => ?_) (amountsTo_pure _)⟩
    rw [(sameLook_of_lasting (fun _ _ => True) hs).query]
  | parentResult => exact ⟨_, amountsTo_pure _⟩
  | previousResult => exact ⟨_, amountsTo_pure _⟩
  | constant value => exact ⟨_, amountsTo_pure _⟩

/-- The makers of the activity and makers that are their twins come to the same where there lasts
what lasts in `c`, and change nothing of it. -/
def MakersAgree (answers : Answers) (c : State) (flow flow' : Flow) (run run' : Executor)
    (a : Activity) : Prop :=
  ∀ k ∈ a.makers, ∀ k' d d', flow.arena[k]? = some d → flow'.arena[k']? = some d' → d.Twin d' →
    ∃ x, AmountsTo answers c (run k {} false) x ∧ AmountsTo answers c (run' k' {} false) x

/-- **Sources that are twins have the same value.** -/
theorem exists_amountsTo_of_twin (before : Inherited) (h : FilesReadable answers flow c)
    (makers : MakersAgree answers c flow flow' run run' a) (twin : a.Twin b)
    {source source' : Source} (hs : source.Twin flow flow' source')
    (own : ∀ k, source.maker? = some k → k ∈ a.makers) :
    ∃ v, AmountsTo answers c (sourceValue (maker run) a before source) (.ok v)
      ∧ AmountsTo answers c (sourceValue (maker run') b before source') (.ok v) := by
  cases hs with
  | same unmade =>
    obtain ⟨v, hv⟩ := exists_amountsTo_sourceValue h (maker run) a before unmade
    have same : sourceValue (maker run') b before source
        = sourceValue (maker run) a before source := by
      cases source with
      | generate k => contradiction
      | _ => simp only [sourceValue, twin.service]
    exact ⟨v, hv, same ▸ hv⟩
  | made hd hd' twinMakers =>
    obtain ⟨x, hx, hx'⟩ := makers _ (own _ rfl) _ _ _ hd hd' twinMakers
    refine ⟨valueMade x, amountsTo_madeValue (maker run) hx a.name, ?_⟩
    exact amountsTo_madeValue (maker run') hx' b.name

/-! ## §3. The values of parameters. -/

section Parameters

variable {make : Maker} {v : String → Json}

/-- Sources of values that are known by name give these values. -/
theorem amountsTo_sourceValues :
    ∀ (sources : Dict Source) (values : Dict Json),
      (∀ name source, (name, source) ∈ sources →
        AmountsTo answers c (sourceValue make a before source) (.ok (v name))) →
      AmountsTo answers c (sourceValues make a before sources values)
        (.ok (values.insertAll (sources.map fun e => (e.1, v e.1))))
  | [], values, _ => amountsTo_pure values
  | (name, source) :: rest, values, h => by
    refine (h name source List.mem_cons_self).bind ?_
    exact amountsTo_sourceValues rest (values.insert name (v name)) fun name source hm =>
      h name source (List.mem_cons_of_mem _ hm)

/-- The dynamic parameters that have a source. -/
def sourced (ps : Dict DynamicParameter) : Dict DynamicParameter :=
  ps.filter fun e => e.2.source?.isSome

/-- **Dynamic parameters give the values of their sources**; one without a source is left out. -/
theorem amountsTo_dynamicValues :
    ∀ (ps : Dict DynamicParameter) (values : Dict Json),
      (∀ name p source, (name, p) ∈ ps → p.source? = some source →
        AmountsTo answers c (sourceValue make a before source) (.ok (v name))) →
      AmountsTo answers c (dynamicValues make a before ps values)
        (.ok (values.insertAll ((sourced ps).map fun e => (e.1, v e.1))))
  | [], values, _ => amountsTo_pure values
  | (name, p) :: rest, values, h => by
    have others (values : Dict Json) := amountsTo_dynamicValues rest values
      fun name p source hm => h name p source (List.mem_cons_of_mem _ hm)
    cases hs : p.source? with
    | none =>
      have left : AmountsTo answers c (dynamicValue make a before name p) (.ok none) := by
        unfold dynamicValue
        rw [hs]
        exact (amountsTo_note _).bind (amountsTo_pure _)
      rw [sourced, List.filter_cons_of_neg (by simp [hs])]
      exact left.bind (others values)
    | some source =>
      have value :
          AmountsTo answers c (dynamicValue make a before name p) (.ok (some (v name))) := by
        unfold dynamicValue
        rw [hs]
        exact (h name p source List.mem_cons_self hs).attempt.bind (amountsTo_pure _)
      rw [sourced, List.filter_cons_of_pos (by simp [hs])]
      exact value.bind (others (values.insert name (v name)))

/-- **The value under a name is that of the source which it is drawn from**; what has none is
`null`, or left out. -/
theorem amountsTo_parameterValues (distinct : a.Distinct)
    (h : ∀ name, AmountsTo answers c (sourceValue make a before (a.draws name)) (.ok (v name))) :
    ∃ values, AmountsTo answers c (parameterValues make a before) (.ok values)
      ∧ ∀ name, (values.get? name).getD .null = v name := by
  have fixed := amountsTo_sourceValues (v := v) a.parameters [] fun name source hm =>
    Activity.draws_of_parameter distinct hm ▸ h name
  refine ⟨_, fixed.bind (amountsTo_dynamicValues (v := v) a.dynamicParameters _ ?_), ?_⟩
  · exact fun name p source hm hs => Activity.draws_of_dynamic distinct hm hs ▸ h name
  intro name
  -- a value that was written is the one that belongs to its name
  have written {α : Type} {d : Dict α} {value : Json}
      (hm : (name, value) ∈ d.map fun e => (e.1, v e.1)) : value = v name := by
    obtain ⟨e, _, he⟩ := List.mem_map.mp hm
    obtain ⟨rfl, rfl⟩ := Prod.mk.inj he
    rfl
  by_cases hd : name ∈ Dict.keys ((sourced a.dynamicParameters).map fun e => (e.1, v e.1))
  · obtain ⟨value, hm, hget⟩ := Dict.exists_get?_insertAll hd
    rw [hget, written hm]
    rfl
  rw [Dict.get?_insertAll_of_not_mem hd]
  by_cases hp : name ∈ Dict.keys (a.parameters.map fun e => (e.1, v e.1))
  · obtain ⟨value, hm, hget⟩ := Dict.exists_get?_insertAll hp
    rw [hget, written hm]
    rfl
  rw [Dict.get?_insertAll_of_not_mem hp]
  have nothing : a.draws name = .constant .null := by
    refine Activity.draws_of_unknown ?_ ?_
    · rwa [Dict.keys_map (fun key _ => v key)] at hp
    · intro p hget
      rw [← Option.not_isSome_iff_eq_none]
      intro known
      rw [Dict.keys_map (fun key _ => v key)] at hd
      exact hd (List.mem_map_of_mem (List.mem_filter.mpr ⟨Dict.mem_of_get? hget, known⟩))
  have value := h name
  rw [nothing] at value
  exact Except.ok.inj (AmountsTo.unique (amountsTo_pure Json.null) value)

end Parameters

/-! ## §4. Values that nobody tells apart. -/

/-- Under each name there is the same value, missing ones being `null`. -/
def SameValues (d e : Dict Json) : Prop :=
  ∀ name, (d.get? name).getD .null = (e.get? name).getD .null

namespace SameValues

variable {d e : Dict Json}

theorem insert (h : SameValues d e) (key : String) (value : Json) :
    SameValues (d.insert key value) (e.insert key value) := by
  intro name
  by_cases hn : name = key
  · rw [hn, Dict.get?_insert_self, Dict.get?_insert_self]
  · rw [Dict.get?_insert_of_ne _ _ hn, Dict.get?_insert_of_ne _ _ hn]
    exact h name

theorem insertAll (h : SameValues d e) (more : Dict Json) :
    SameValues (d.insertAll more) (e.insertAll more) := by
  induction more generalizing d e with
  | nil => exact h
  | cons first rest ih => exact ih (h.insert first.1 first.2)

/-- A function is called with the same arguments. -/
theorem arguments (h : SameValues d e) (f : Function) (body : Option Json) :
    f.arguments d body = f.arguments e body := by
  unfold Function.arguments
  simp only [h _]

theorem given? (h : SameValues d e) : Remote.given? d = Remote.given? e := by
  -- what is not there is not given, and neither is `null`
  have given (d : Dict Json) (name : String) :
      Remote.given? d name = Remote.given? [(name, (d.get? name).getD .null)] name := by
    unfold Remote.given?
    rw [Dict.get?_cons, if_pos rfl]
    cases d.get? name <;> rfl
  funext name
  rw [given d, given e, h name]

/-- An operation is called with the same request. -/
theorem operation (h : SameValues d e) (o : Remote.Operation) (endpoint : Remote.Endpoint)
    (body : Option Json) :
    (o.call endpoint d body : Run State _ _) = o.call endpoint e body := by
  have placed (location : OpenApi.Location) : o.placed location d = o.placed location e := by
    unfold Remote.Operation.placed
    rw [h.given?]
  have texts (location : OpenApi.Location) :
      o.placedTexts location d = o.placedTexts location e := by
    rw [Remote.Operation.placedTexts, placed, Remote.Operation.placedTexts]
  have cookies : o.cookies endpoint.credentials d = o.cookies endpoint.credentials e := by
    rw [Remote.Operation.cookies, texts, Remote.Operation.cookies]
  have headers : o.headerWrites endpoint.credentials d = o.headerWrites endpoint.credentials e := by
    rw [Remote.Operation.headerWrites, cookies, texts, Remote.Operation.headerWrites]
  have path : o.path d = o.path e := by
    rw [Remote.Operation.path, placed, Remote.Operation.path]
  have outline (method server : String) :
      o.outline method server endpoint.credentials d
        = o.outline method server endpoint.credentials e := by
    rw [Remote.Operation.outline, headers, path, texts, Remote.Operation.outline]
  unfold Remote.Operation.call Remote.Operation.request
  simp only [outline]

/-- **A strategy that is no reference does not tell the values apart.** -/
theorem callStrategy (h : SameValues d e) {strategy : Strategy}
    (own : strategy.isReference = false) (run : Executor) (body : Option Json) :
    callStrategy run strategy ⟨d, body⟩ = callStrategy run strategy ⟨e, body⟩ := by
  cases strategy with
  | function f =>
    simp only [Run.callStrategy, callFunction, callNamed, h.arguments]
  | remote o =>
    simp only [Run.callStrategy, h.operation]
  | capability c =>
    simp only [Run.callStrategy, callCapability, callNamed, h.arguments]
  | reference target => contradiction

end SameValues

/-! ## §5. The arguments of twins. -/

/-- The arguments are the same for the strategy of the activity; a reference passes them on, so
that there they are the same altogether. -/
structure SameArguments (a : Activity) (x y : Arguments) : Prop where
  values : SameValues x.parameters y.parameters
  body : x.body = y.body
  passed : a.isReference = true → x = y

section Arguments

variable (makers : ∀ c, FilesReadable answers flow c → MakersAgree answers c flow flow' run run' a)
  (twin : a.Twin b)
include makers twin

theorem corresponds_sourceValue (before : Inherited) {source source' : Source}
    (hs : source.Twin flow flow' source')
    (own : ∀ k, source.maker? = some k → k ∈ a.makers) :
    Matching answers flow (sourceValue (maker run) a before source)
      (sourceValue (maker run') b before source') := by
  refine corresponds_of_amountsTo fun c hc => ?_
  have hc : FilesReadable answers flow c := hc.of_eq rfl rfl
  obtain ⟨v, hv, hv'⟩ := exists_amountsTo_of_twin before hc (makers c hc) twin hs own
  exact ⟨v, v, rfl, hv, hv'⟩

theorem corresponds_sourceValues :
    ∀ {sources sources' : Dict Source}
      (_ : Dict.Related (fun _ => Source.Twin flow flow') sources sources')
      (_ : ∀ source ∈ sources.values, ∀ k, source.maker? = some k → k ∈ a.makers)
      (values : Dict Json),
      Matching answers flow (sourceValues (maker run) a before sources values)
        (sourceValues (maker run') b before sources' values)
  | _, _, .nil, _, values => corresponds_pure rfl
  | _, _, .cons ⟨hk, hs⟩ rest, own, values => by
    refine (corresponds_sourceValue makers twin before hs (own _ List.mem_cons_self)).bind ?_
    rintro v _ rfl
    rw [← hk]
    exact corresponds_sourceValues rest (fun source hm => own source (List.mem_cons_of_mem _ hm)) _

variable {m : Materials} {page page' : Document.Page} {process process' : Document.Process}
  (twins : Flow.Twins m page page' process process' flow flow') {place place' : Nat}
  (ha : flow.arena[place]? = some a) (hb : flow'.arena[place']? = some b)
include twins ha hb

/-- **Twins are called with the same values**, whichever of them are dynamic. -/
theorem corresponds_parameterValues :
    Corresponds answers (FilesReadable answers flow) SameValues
      (parameterValues (maker run) a before) (parameterValues (maker run') b before) := by
  refine corresponds_of_amountsTo fun c hc => ?_
  have hc : FilesReadable answers flow c := hc.of_eq rfl rfl
  have same (name : String) := exists_amountsTo_of_twin before hc (makers c hc) twin
    (twins.draws ha hb twin name) fun _ => Activity.mem_makers_of_draws
  choose v hv hv' using same
  obtain ⟨d, hd, values⟩ := amountsTo_parameterValues (twins.left.distinct ha) hv
  obtain ⟨e, he, values'⟩ := amountsTo_parameterValues (twins.right.distinct hb) hv'
  exact ⟨d, e, fun name => (values name).trans (values' name).symm, hd, he⟩

/-- **Twins have the same request body.** -/
theorem corresponds_requestBody :
    Matching answers flow (requestBody (maker run) a before)
      (requestBody (maker run') b before) := by
  have related := twins.requestBody ha hb twin
  have own (source : Source) (hs : source ∈ a.requestBody.values) (k : Nat)
      (hk : source.maker? = some k) : k ∈ a.makers := by
    obtain ⟨⟨name, source⟩, hm, rfl⟩ := List.mem_map.mp hs
    obtain rfl := Source.eq_generate_of_maker? hk
    exact Activity.mem_makers_of_body hm
  have length : b.requestBody.length = a.requestBody.length := related.length_eq.symm
  have empty : b.requestBody.isEmpty = a.requestBody.isEmpty := by
    rw [Bool.eq_iff_iff, List.isEmpty_iff_length_eq_zero, List.isEmpty_iff_length_eq_zero, length]
  have whole := related.get? wholeBody
  unfold requestBody
  rw [empty, length]
  by_cases none : a.requestBody.isEmpty = true
  · rw [if_pos none, if_pos none]
    exact corresponds_pure rfl
  rw [if_neg none, if_neg none]
  generalize hx : a.requestBody.get? wholeBody = x at whole ⊢
  generalize b.requestBody.get? wholeBody = y at whole ⊢
  cases whole with
  | none =>
    refine (corresponds_sourceValues makers twin related own []).bind ?_
    rintro values _ rfl
    exact corresponds_pure rfl
  | some hs =>
    have value := corresponds_sourceValue makers twin before hs
      (own _ (List.mem_map_of_mem (Dict.mem_of_get? hx)))
    have sent : Matching answers flow
        (sourceValue (maker run) a before _ >>= fun v => Pure.pure (some v))
        (sourceValue (maker run') b before _ >>= fun v => Pure.pure (some v)) :=
      value.bind fun v _ h => corresponds_pure (by rw [h])
    by_cases more : 1 < a.requestBody.length
    · simp only [if_pos more]
      exact (corresponds_note _ _).bind fun _ _ _ => sent
    · simp only [if_neg more]
      exact sent

/-- **Twins have the same arguments**, as far as anybody tells them apart. -/
theorem corresponds_argumentsOf (before : Inherited) :
    Corresponds answers (FilesReadable answers flow) (SameArguments a) (argumentsOf run a before)
      (argumentsOf run' b before) := by
  cases hr : a.isReference with
  | true =>
    have bare := twins.left.bare (List.mem_of_getElem? ha) hr
    have bare' := twins.right.bare (List.mem_of_getElem? hb) (twin.isReference.trans hr)
    rw [argumentsOf_of_bare bare, argumentsOf_of_bare bare']
    exact corresponds_pure ⟨fun _ => rfl, rfl, fun _ => rfl⟩
  | false =>
    refine (corresponds_parameterValues makers twin twins ha hb).bind fun d e hde => ?_
    refine (corresponds_requestBody makers twin twins ha hb).bind ?_
    rintro body _ rfl
    exact corresponds_pure ⟨hde, rfl, by simp [hr]⟩

end Arguments

end Run

end Pageflow
