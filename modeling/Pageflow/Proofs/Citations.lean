/-
  Pageflow.Proofs.Citations — the documents that loading reads.

  A page names its process, the process and the page name bridges, and a bridge names its OpenAPI
  document; a document that is spelled out in another one is where that is.  Loading asks for the
  page and for what documents name, each relative to the one that names it, and for nothing else;
  and if a flow comes of it, it has asked for all of them.  So where all references are paths, only
  files are read, each beside the document that names it.

  Main definitions: `documentAt?`, `Gives`, `Binds`, `Cites`, `Needed` and `WithoutAddresses`.
  Main statements: `loadPage_keeps`, `asked_of_needed`, `needed_file` and
  `references_stay_beside_their_documents`; `foreign_reference_is_not_beside` on what is left out.
-/
import Mathlib
import Pageflow.Proofs.Bindings
import Pageflow.Proofs.Locations
import Pageflow.Proofs.Questions

namespace Pageflow

/-! ## §1. Documents. -/

namespace Load

open Document (Binding Origin Reader)
open Run (answeredTerms)

/-- The question for what is at a place. -/
def Location.question : Location → Query
  | .file path => .fileBytes path
  | .web url => .fetch url.text

variable (answers : Answers)

/-- The text at a place. -/
def textAt? : Location → Option String
  | .file path =>
    match answers (.fileBytes path) with
    | .ok bytes => Utf8.decode? bytes
    | .error _ => none
  | .web url => (answers (.fetch url.text)).toOption

/-- The value that the text at a place spells. -/
def valueAt? (l : Location) : Option Json :=
  (textAt? answers l).bind fun text => (parseDocument l text).toOption

/-- The document at a place, if there is one that can be read so. -/
def documentAt? {α : Type} (read : Reader α) (l : Location) : Option α :=
  (valueAt? answers l).bind fun value => (read value).toOption

/-- The origin is the place that a reference names. -/
def Names {α : Type} (o : Origin α) (reference : String) : Prop :=
  o.inline = none ∧ o.uri = some reference

/-- The backend is the OpenAPI document that a reference names. -/
def NamesApi (backend : Document.Backend) (reference : String) : Prop :=
  backend.openApi = none ∧ backend.openApiUri = some reference

/-- What an origin in the document at `base` gives, and where that is. -/
inductive Gives {α : Type} (read : Reader α) (base : Location) (o : Origin α) : α → Location → Prop
  | inline {document : α} : o.inline = some document → Gives read base o document base
  | named {reference : String} {l : Location} {document : α} : Names o reference →
      base.join reference = .ok l → documentAt? answers read l = some document →
      Gives read base o document l

/-- The binding that says where the bridge of a service is, and the place of the document that it
stands in: the process, or else the page. -/
inductive Binds (page : Document.Page) (process : Document.Process) (pagePlace place : Location) :
    Binding → Location → Prop
  | process {service : String} {b : Binding} : service ∈ process.services.keys →
      sourced? (processBridge process service) = some b → Binds page process pagePlace place b place
  | page {service : String} {b : Binding} : service ∈ process.services.keys →
      sourced? (processBridge process service) = none →
      sourced? (pageBridge page service) = some b → Binds page process pagePlace place b pagePlace

/-- The document at a place names another one by this reference; here are the documents that the
page at `base` leads to. -/
inductive Cites (base : Location) : Location → String → Prop
  | process {page : Document.Page} {reference : String} :
      documentAt? answers Document.readPage base = some page →
      Names page.process reference → Cites base base reference
  | bridge {page : Document.Page} {process : Document.Process} {place origin : Location}
      {b : Binding} {reference : String} :
      documentAt? answers Document.readPage base = some page →
      Gives answers Document.readProcess base page.process process place →
      Binds page process base place b origin →
      Names b.source reference → Cites base origin reference
  | openApi {page : Document.Page} {process : Document.Process} {place origin l : Location}
      {b : Binding} {document : Document.Bridge} {reference : String} :
      documentAt? answers Document.readPage base = some page →
      Gives answers Document.readProcess base page.process process place →
      Binds page process base place b origin →
      Gives answers Document.readBridge origin b.source document l →
      NamesApi document.execute reference → Cites base l reference

/-- A page needs the document at its own place and those that documents name. -/
def Needed (base l : Location) : Prop :=
  l = base ∨ ∃ place reference, Cites answers base place reference ∧ place.join reference = .ok l

/-! ## §2. Nothing else is asked for. -/

variable {answers} {σ : Type} {P : Query → Prop}

/-- Whatever the reference leads to may be asked for. -/
def Allows (P : Query → Prop) (place : Location) (reference : String) : Prop :=
  ∀ l, place.join reference = .ok l → P l.question

theorem locate_keeps {base : Location} {reference : String} :
    (locate base reference : Run σ _ _).Keeps (answeredTerms σ answers P)
      fun l => base.join reference = .ok l :=
  Run.keeps_ofExcept_mapError fun _ => id

theorem outcomes_keeps {registry : Registry} {validate : Bool} : ∀ {bound : List Bound},
    (∀ b ∈ bound, (bridge registry validate b.service b.binding b.base).Keeps
      (answeredTerms PartedLog answers P) fun _ => True) →
    (outcomes registry validate bound : Run σ _ _).Keeps (answeredTerms σ answers P) fun _ => True
  | [], _ => Run.keeps_pure trivial
  | b :: rest, h => by
      refine Run.keeps_bind (Run.keeps_isolated (h b List.mem_cons_self)) fun _ _ => ?_
      refine Run.keeps_bind (outcomes_keeps fun b hb => h b (List.mem_cons_of_mem _ hb)) ?_
      exact fun _ _ => Run.keeps_pure trivial

section Keeps

variable [Journal σ] {registry : Registry} {page : Document.Page} {process : Document.Process}
  {base origin l : Location}

theorem fetchText_keeps (own : P l.question) :
    (fetchText l : Run σ _ _).Keeps (answeredTerms σ answers P)
      fun text => textAt? answers l = some text := by
  refine Run.keeps_bind (Run.keeps_note (fun _ _ => id) _) fun _ _ => ?_
  refine Run.keeps_bind (Run.keeps_modify fun _ => id) fun _ _ => ?_
  cases l with
  | file path =>
    refine Run.keeps_bind (Run.keeps_ask own) ?_
    rintro answer (rfl : answer = _)
    cases read : answers (.fileBytes path) with
    | error e => exact Run.keeps_fail _
    | ok bytes =>
      simp only [textAt?, read]
      split
      next text decoded => exact Run.keeps_pure decoded
      next => exact Run.keeps_fail _
  | web url =>
    refine Run.keeps_bind (Run.keeps_ask own) ?_
    rintro answer (rfl : answer = _)
    cases fetched : answers (.fetch url.text) with
    | error e => exact Run.keeps_fail _
    | ok text => exact Run.keeps_pure (congrArg Except.toOption fetched)

theorem fetchValue_keeps (own : P l.question) :
    (fetchValue l : Run σ _ _).Keeps (answeredTerms σ answers P)
      fun value => valueAt? answers l = some value := by
  refine Run.keeps_mapError (Run.keeps_bind (fetchText_keeps own) ?_)
  intro text ht
  refine Run.keeps_ofExcept ?_
  intro value hv
  rw [valueAt?, ht, Option.bind_some, hv]
  rfl

theorem fetchTyped_keeps {α : Type} {kind : Kind} {read : Reader α} (own : P l.question) :
    (fetchTyped kind read l : Run σ _ _).Keeps (answeredTerms σ answers P)
      fun document => documentAt? answers read l = some document := by
  refine Run.keeps_bind (fetchValue_keeps own) ?_
  intro value hv
  refine Run.keeps_ofExcept_mapError ?_
  intro document hd
  rw [documentAt?, hv, Option.bind_some, hd]
  rfl

theorem reportViolations_keeps {kind : Kind} {violations : List Document.Violation}
    {fatal : Bool} : (reportViolations kind violations fatal : Run σ _ _).Keeps
      (answeredTerms σ answers P) fun _ => True := by
  unfold reportViolations
  split
  · exact Run.keeps_pure trivial
  split
  · exact Run.keeps_fail _
  · exact Run.keeps_notes (fun _ _ => id) _

theorem noted_keeps {ε α : Type} {n : Noted α} :
    (Run.noted n : Run σ ε α).Keeps (answeredTerms σ answers P) fun _ => True :=
  Run.keeps_bind (Run.keeps_notes (fun _ _ => id) _) fun _ _ => Run.keeps_pure trivial

theorem bridgeDocument_keeps {service : String} {b : Binding}
    (source : ∀ reference, Names b.source reference → Allows P origin reference) :
    (bridgeDocument service b origin : Run σ _ _).Keeps (answeredTerms σ answers P)
      fun r => Gives answers Document.readBridge origin b.source r.1 r.2 := by
  unfold bridgeDocument
  split
  next document _ inline => exact Run.keeps_pure (.inline inline)
  next reference inline uri =>
    refine Run.keeps_bind locate_keeps fun l hl => ?_
    refine Run.keeps_bind (fetchTyped_keeps (source _ ⟨inline, uri⟩ l hl)) fun document hd => ?_
    exact Run.keeps_pure (.named ⟨inline, uri⟩ hl hd)
  next => exact Run.keeps_fail _

theorem server_keeps {service : String} {backend : Document.Backend}
    (api : ∀ reference, NamesApi backend reference → Allows P origin reference) :
    (server registry service backend origin : Run σ _ _).Keeps (answeredTerms σ answers P)
      fun _ => True := by
  unfold server
  split
  next => exact Run.keeps_pure trivial
  next reference inline uri =>
    refine Run.keeps_bind locate_keeps fun l hl => ?_
    refine Run.keeps_bind (fetchValue_keeps (api _ ⟨inline, uri⟩ l hl)) fun _ _ => ?_
    exact Run.keeps_pure trivial
  next =>
    refine Run.keeps_bind (Run.keeps_ofExcept fun _ _ => trivial) fun _ _ => ?_
    exact Run.keeps_pure trivial
  next => exact Run.keeps_fail _

theorem bridge_keeps {validate : Bool} {service : String} {b : Binding}
    (source : ∀ reference, Names b.source reference → Allows P origin reference)
    (api : ∀ document l reference, Gives answers Document.readBridge origin b.source document l →
      NamesApi document.execute reference → Allows P l reference) :
    (bridge registry validate service b origin : Run σ _ _).Keeps (answeredTerms σ answers P)
      fun _ => True := by
  refine Run.keeps_bind (bridgeDocument_keeps source) fun ⟨document, l⟩ given => ?_
  refine Run.keeps_bind reportViolations_keeps fun _ _ => ?_
  refine Run.keeps_bind (server_keeps fun reference => api document l reference given)
    fun backend _ => ?_
  refine Run.keeps_bind (Run.keeps_ofExcept fun _ _ => trivial) fun support _ => ?_
  cases backend with
  | client m => exact noted_keeps
  | openApi openApi =>
    refine Run.keeps_bind reportViolations_keeps fun _ _ => ?_
    exact Run.keeps_bind (Run.keeps_notes (fun _ _ => id) _) fun _ _ => noted_keeps

theorem keepLoaded_keeps {validate : Bool} :
    ∀ {results : List (String × Except LoadError Bridge)},
      (keepLoaded validate results : Run σ _ _).Keeps (answeredTerms σ answers P) fun _ => True
  | [] => Run.keeps_pure trivial
  | (service, .ok b) :: rest =>
      Run.keeps_bind keepLoaded_keeps fun _ _ => Run.keeps_pure trivial
  | (service, .error e) :: rest => by
      unfold keepLoaded
      split
      · exact Run.keeps_fail _
      · exact Run.keeps_bind (Run.keeps_note (fun _ _ => id) _) fun _ _ => keepLoaded_keeps

theorem bridges_keeps {validate : Bool} {bound : List Bound}
    (h : ∀ b ∈ bound, (bridge registry validate b.service b.binding b.base).Keeps
      (answeredTerms PartedLog answers P) fun _ => True) :
    (bridges registry validate bound : Run σ _ _).Keeps (answeredTerms σ answers P)
      fun _ => True := by
  refine Run.keeps_bind (outcomes_keeps h) fun _ _ => ?_
  exact Run.keeps_bind (Run.keeps_notes (fun _ _ => id) _) fun _ _ => keepLoaded_keeps

theorem processOf_keeps
    (own : ∀ reference, Names page.process reference → Allows P base reference) :
    (processOf page base : Run σ _ _).Keeps (answeredTerms σ answers P)
      fun r => Gives answers Document.readProcess base page.process r.1 r.2 := by
  unfold processOf
  split
  next inline => exact Run.keeps_pure (.inline inline)
  next reference inline uri =>
    refine Run.keeps_bind locate_keeps fun l hl => ?_
    refine Run.keeps_bind (fetchTyped_keeps (own _ ⟨inline, uri⟩ l hl)) fun document hd => ?_
    exact Run.keeps_pure (.named ⟨inline, uri⟩ hl hd)
  next => exact Run.keeps_fail _

theorem processModule_keeps :
    (processModule registry page process : Run σ _ _).Keeps (answeredTerms σ answers P)
      fun _ => True := by
  refine Run.keeps_bind (Run.keeps_ofExcept fun _ _ => trivial) fun _ _ => ?_
  refine Run.keeps_bind (Run.keeps_ofExcept fun _ _ => trivial) fun more _ => ?_
  cases more with
  | none => exact Run.keeps_pure trivial
  | some more => exact noted_keeps

theorem checkIntegrity_keeps {fatal : List Check} :
    (checkIntegrity fatal page process : Run σ _ _).Keeps (answeredTerms σ answers P)
      fun _ => True := by
  refine Run.keeps_bind (Run.keeps_notes (fun _ _ => id) _) fun _ _ => ?_
  dsimp only
  split
  · exact Run.keeps_fail _
  · exact Run.keeps_pure trivial

theorem assembled_keeps {m : Flow.Materials} :
    (assembled m page process : Run σ _ _).Keeps (answeredTerms σ answers P)
      fun _ => True := by
  refine Run.keeps_bind noted_keeps fun found _ => ?_
  cases found with
  | none => exact fun _ _ => trivial
  | some flow =>
    exact Run.keeps_bind (Run.keeps_notes (fun _ _ => id) _) fun _ _ => Run.keeps_pure trivial

/-- The binding in effect for a service is one that binds it. -/
theorem binds_of_effectiveBinding {place : Location} {service : String} {bound : Bound}
    (hs : service ∈ process.services.keys)
    (h : effectiveBinding page process base place service = some bound) :
    ∃ b, Binds page process base place b bound.base ∧ bound.binding.source = b.source := by
  obtain ⟨⟨b, origin⟩, supplied, rfl⟩ := Option.map_eq_some_iff.mp h
  refine ⟨b, ?_, rfl⟩
  rcases sourceBinding?_eq_some supplied with ⟨own, rfl⟩ | ⟨none, own, rfl⟩
  · exact .process hs own
  · exact .page hs none own

/-- What a page asks for is there to be asked for. -/
theorem loadPage_keeps {options : Options} :
    (loadPage registry options base : Run σ _ _).Keeps
      (answeredTerms σ answers fun q => ∃ l, Needed answers base l ∧ q = l.question)
      fun _ => True := by
  have allows {place : Location} {reference : String} (h : Cites answers base place reference) :
      Allows (fun q => ∃ l, Needed answers base l ∧ q = l.question) place reference :=
    fun l hl => ⟨l, .inr ⟨place, reference, h, hl⟩, rfl⟩
  refine Run.keeps_bind (fetchTyped_keeps ⟨base, .inl rfl, rfl⟩) fun page hp => ?_
  refine Run.keeps_bind reportViolations_keeps fun _ _ => ?_
  refine Run.keeps_bind (processOf_keeps fun _ hr => allows (.process hp hr)) ?_
  rintro ⟨process, place⟩ given
  refine Run.keeps_bind reportViolations_keeps fun _ _ => ?_
  refine Run.keeps_bind checkIntegrity_keeps fun _ _ => ?_
  refine Run.keeps_bind processModule_keeps fun _ _ => ?_
  refine Run.keeps_bind (bridges_keeps ?_) fun _ _ => assembled_keeps
  intro bound hb
  obtain ⟨service, hs, he⟩ := List.mem_filterMap.mp hb
  obtain ⟨b, binds, source⟩ := binds_of_effectiveBinding hs he
  refine bridge_keeps ?_ ?_
  · intro reference hr
    exact allows (.bridge hp given binds (source ▸ hr))
  · intro document l reference hd hr
    exact allows (.openApi hp given binds (source ▸ hd) hr)

end Keeps

/-! ## §3. All of it is asked for. -/

/-- Loading one bridge of several, with a log of its own. -/
def bridgeTask (registry : Registry) (validate : Bool) (b : Bound) :
    Task PartedLog (Except LoadError Bridge) :=
  bridge registry validate b.service b.binding b.base []

section Asks

variable {registry : Registry} {page : Document.Page} {process : Document.Process}
  {base origin place l : Location} {reference : String}

theorem locate_delivers (h : origin.join reference = .ok l) :
    (locate origin reference : Run σ _ _).Delivers answers l :=
  Run.delivers_ofExcept_mapError h

variable [Journal σ]

theorem fetchText_asks : (fetchText l : Run σ _ _).Asks answers l.question := by
  refine (Run.delivers_modify _).asks ((Run.delivers_modify _).asks ?_)
  cases l with
  | file path => exact (Run.asks_ask _).bind
  | web url => exact (Run.asks_ask _).bind

theorem fetchValue_asks : (fetchValue l : Run σ _ _).Asks answers l.question :=
  fetchText_asks.bind.mapError

theorem fetchTyped_asks {α : Type} {kind : Kind} {read : Reader α} :
    (fetchTyped kind read l : Run σ _ _).Asks answers l.question :=
  fetchValue_asks.bind

theorem fetchText_delivers {text : String} (h : textAt? answers l = some text) :
    (fetchText l : Run σ _ _).Delivers answers text := by
  refine (Run.delivers_modify _).bind ((Run.delivers_modify _).bind ?_)
  cases l with
  | file path =>
    refine (Run.delivers_ask _).bind ?_
    cases read : answers (.fileBytes path) with
    | error e => simp only [textAt?, read, reduceCtorEq] at h
    | ok bytes =>
      simp only [textAt?, read] at h
      simp only [h]
      exact Run.delivers_pure text
  | web url =>
    refine (Run.delivers_ask _).bind ?_
    cases fetched : answers (.fetch url.text) with
    | error e => simp only [textAt?, fetched] at h; contradiction
    | ok other =>
      simp only [textAt?, fetched] at h
      obtain rfl := Option.some.inj h
      exact Run.delivers_pure other

theorem eq_ok_of_toOption {ε α : Type} {x : Except ε α} {a : α} (h : x.toOption = some a) :
    x = .ok a := by
  cases x with
  | ok b => exact congrArg Except.ok (Option.some.inj h)
  | error e => contradiction

theorem fetchTyped_delivers {α : Type} {kind : Kind} {read : Reader α} {document : α}
    (h : documentAt? answers read l = some document) :
    (fetchTyped kind read l : Run σ _ _).Delivers answers document := by
  obtain ⟨value, hv, hr⟩ := Option.bind_eq_some_iff.mp h
  obtain ⟨text, ht, hp⟩ := Option.bind_eq_some_iff.mp hv
  have value : (fetchValue l : Run σ _ _).Delivers answers value :=
    ((fetchText_delivers ht).bind
      (by rw [eq_ok_of_toOption hp]; exact Run.delivers_pure value)).mapError
  exact value.bind (Run.delivers_ofExcept_mapError (eq_ok_of_toOption hr))

theorem processOf_asks (named : Names page.process reference)
    (h : base.join reference = .ok l) :
    (processOf page base : Run σ _ _).Asks answers l.question := by
  simp only [processOf, named.1, named.2]
  exact (locate_delivers h).asks fetchTyped_asks.bind

theorem processOf_delivers
    (h : Gives answers Document.readProcess base page.process process place) :
    (processOf page base : Run σ _ _).Delivers answers (process, place) := by
  cases h with
  | inline h =>
    simp only [processOf, h]
    exact Run.delivers_pure _
  | named named joined read =>
    simp only [processOf, named.1, named.2]
    exact (locate_delivers joined).bind ((fetchTyped_delivers read).bind (Run.delivers_pure _))

variable {service : String} {b : Binding} {document : Document.Bridge}

theorem bridgeDocument_asks (named : Names b.source reference)
    (h : origin.join reference = .ok l) :
    (bridgeDocument service b origin : Run σ _ _).Asks answers l.question := by
  simp only [bridgeDocument, named.1, named.2]
  exact (locate_delivers h).asks fetchTyped_asks.bind

theorem bridgeDocument_delivers
    (h : Gives answers Document.readBridge origin b.source document place) :
    (bridgeDocument service b origin : Run σ _ _).Delivers answers (document, place) := by
  cases h with
  | inline h =>
    simp only [bridgeDocument, h]
    exact Run.delivers_pure _
  | named named joined read =>
    simp only [bridgeDocument, named.1, named.2]
    exact (locate_delivers joined).bind ((fetchTyped_delivers read).bind (Run.delivers_pure _))

theorem server_asks {backend : Document.Backend} (named : NamesApi backend reference)
    (h : origin.join reference = .ok l) :
    (server registry service backend origin : Run σ _ _).Asks answers l.question := by
  simp only [server, named.1, named.2]
  exact (locate_delivers h).asks fetchValue_asks.bind

/-- Violations end a run only if they are fatal. -/
theorem outcome_reportViolations (answers : Answers) (kind : Kind)
    (violations : List Document.Violation) (fatal : Bool) (s : σ) :
    (∃ t, (reportViolations kind violations fatal s).outcome answers = some (.ok (), t)) ∨
      fatal = true ∧ ∃ t, (reportViolations kind violations fatal s).outcome answers
        = some (.error (.validation kind violations), t) := by
  unfold reportViolations
  split
  · exact .inl ⟨s, rfl⟩
  split
  next fatal => exact .inr ⟨fatal, s, rfl⟩
  next => exact .inl ⟨_, rfl⟩

/-- A bridge whose document is given asks for the OpenAPI document that this names, unless it
is the reason not to load the page. -/
theorem bridge_asks_api {validate : Bool} {s : σ} {x : Except LoadError Bridge} {t : σ}
    (given : Gives answers Document.readBridge origin b.source document place)
    (named : NamesApi document.execute reference) (h : place.join reference = .ok l)
    (ends : (bridge registry validate service b origin s).outcome answers = some (x, t))
    (harmless : ∀ e, x = .error e → isFatal validate e = false) :
    l.question ∈ (bridge registry validate service b origin s).questions answers := by
  obtain ⟨t₁, read⟩ : ∃ t₁, (bridgeDocument service b origin s).outcome answers
      = some (.ok (document, place), t₁) := bridgeDocument_delivers given s
  refine Run.mem_questions_bind_ok read ?_
  have ends := (Run.outcome_bind_of_ok read).symm.trans ends
  rcases outcome_reportViolations answers .bridge (Document.validateBridge document) validate t₁
    with ⟨t₂, passed⟩ | ⟨fatal, t₂, failed⟩
  · exact Run.mem_questions_bind_ok passed ((server_asks named h).bind t₂)
  · obtain ⟨rfl, _⟩ := Prod.mk.inj
      (Option.some.inj ((Run.outcome_bind_of_error failed).symm.trans ends))
    have := harmless _ rfl
    rw [isFatal, fatal] at this
    contradiction

omit [Journal σ] in
/-- **Bridges that are loaded side by side ask what each of them asks.** -/
theorem outcomes_asks {validate : Bool} :
    ∀ {bound : List Bound} {s t : σ} {x : Except LoadError _},
      (outcomes registry validate bound s).outcome answers = some (x, t) →
        (∃ results, x = .ok results ∧ List.Forall₂
          (fun b r => (bridgeTask registry validate b).outcome answers = some r) bound results) ∧
        ∀ b ∈ bound, ∀ q ∈ (bridgeTask registry validate b).questions answers,
          q ∈ (outcomes registry validate bound s).questions answers
  | [], _, _, _, h => by
      obtain ⟨rfl, _⟩ := Prod.mk.inj (Option.some.inj h)
      exact ⟨⟨[], rfl, .nil⟩, fun _ h => absurd h List.not_mem_nil⟩
  | b :: rest, s, t, x, h => by
      have isolated : (Run.isolated ([] : PartedLog)
          (bridge registry validate b.service b.binding b.base) s :
            Task σ (Except LoadError _)).outcome answers
          = ((bridgeTask registry validate b).outcome answers).map fun r => (.ok r, s) :=
        Run.outcome_isolated
      cases own : (bridgeTask registry validate b).outcome answers with
      | none =>
        -- a bridge that does not end keeps the others waiting
        rw [own] at isolated
        have stuck := (Run.outcome_bind_of_none isolated).symm.trans h
        contradiction
      | some y =>
        rw [own] at isolated
        have h := (Run.outcome_bind_of_ok isolated).symm.trans h
        cases others : (outcomes registry validate rest s).outcome answers with
        | none =>
          have stuck := (Run.outcome_bind_of_none others).symm.trans h
          contradiction
        | some z =>
          obtain ⟨⟨results, ok, become⟩, asked⟩ := outcomes_asks others
          obtain ⟨z, u⟩ := z
          obtain rfl : z = .ok results := ok
          obtain ⟨rfl, _⟩ := Prod.mk.inj
            (Option.some.inj ((Run.outcome_bind_of_ok others).symm.trans h))
          refine ⟨⟨y :: results, rfl, .cons own become⟩, ?_⟩
          intro b' hb' q hq
          rcases List.mem_cons.mp hb' with rfl | hb'
          · exact Run.mem_questions_bind (by rw [Run.questions_isolated]; exact hq)
          · exact Run.mem_questions_bind_ok isolated
              (Run.mem_questions_bind (asked b' hb' q hq))

/-- The bridges that are kept may be without some, but not for a fatal reason. -/
theorem harmless_of_keepLoaded {validate : Bool} :
    ∀ {results : List (String × Except LoadError Bridge)} {s t : σ} {kept : Dict Bridge},
      (keepLoaded validate results s).outcome answers = some (.ok kept, t) →
        ∀ service e, (service, .error e) ∈ results → isFatal validate e = false
  | [], _, _, _, _, _, _, h => absurd h List.not_mem_nil
  | (service, .ok b) :: rest, _, _, _, h, other, e, he => by
      obtain ⟨_, _, h, _⟩ := Run.outcome_bind_ok h
      rcases List.mem_cons.mp he with same | he
      · cases same
      · exact harmless_of_keepLoaded h other e he
  | (service, .error cause) :: rest, _, _, _, h, other, e, he => by
      unfold keepLoaded at h
      split at h
      next => cases h
      next harmless =>
        obtain ⟨_, _, _, h⟩ := Run.outcome_bind_ok h
        rcases List.mem_cons.mp he with same | he
        · cases same
          exact Bool.not_eq_true _ ▸ harmless
        · exact harmless_of_keepLoaded h other e he

theorem mem_zip_of_forall₂ {α β γ δ : Type} {R : α → β → Prop} {f : α → γ} {g : β → δ} {a : α}
    {as : List α} {bs : List β} (h : List.Forall₂ R as bs) (ha : a ∈ as) :
    ∃ b, R a b ∧ (f a, g b) ∈ (as.map f).zip (bs.map g) := by
  induction h with
  | nil => contradiction
  | @cons a' b' as bs first _ ih =>
    rcases List.mem_cons.mp ha with rfl | ha
    · exact ⟨b', first, List.mem_cons_self⟩
    · obtain ⟨b, rest, hb⟩ := ih ha
      exact ⟨b, rest, List.mem_cons_of_mem _ hb⟩

/-- **If the bridges are loaded, each of them came to something that is not fatal**, and all of
what it asks was asked. -/
theorem bridges_asks {validate : Bool} {bound : List Bound} {kept : Dict Bridge} {s t : σ}
    (h : (bridges registry validate bound s).outcome answers = some (.ok kept, t)) {b : Bound}
    (hb : b ∈ bound) :
    (∃ x log, (bridgeTask registry validate b).outcome answers = some (x, log)
      ∧ ∀ e, x = .error e → isFatal validate e = false) ∧
    ∀ q ∈ (bridgeTask registry validate b).questions answers,
      q ∈ (bridges registry validate bound s).questions answers := by
  obtain ⟨results, _, loaded, h⟩ := Run.outcome_bind_ok h
  obtain ⟨⟨_, ok, become⟩, asked⟩ := outcomes_asks loaded
  obtain rfl := Except.ok.inj ok
  obtain ⟨_, _, _, h⟩ := Run.outcome_bind_ok h
  obtain ⟨⟨x, log⟩, own, hx⟩ := mem_zip_of_forall₂ (f := Bound.service) (g := Prod.fst) become hb
  refine ⟨⟨x, log, own, ?_⟩, fun q hq => Run.mem_questions_bind (asked b hb q hq)⟩
  rintro e rfl
  exact harmless_of_keepLoaded h _ e hx

/-- What binds a service is the binding in effect for it. -/
theorem exists_bound_of_binds (h : Binds page process base place b origin) :
    ∃ bound ∈ process.services.keys.filterMap (effectiveBinding page process base place),
      bound.binding.source = b.source ∧ bound.base = origin := by
  have effective {service : String} {o : Location} (hs : service ∈ process.services.keys)
      (h : sourceBinding? (processBridge process service) (pageBridge page service) place base
        = some (b, o)) :
      ∃ bound ∈ process.services.keys.filterMap (effectiveBinding page process base place),
        bound.binding.source = b.source ∧ bound.base = o := by
    have found : effectiveBinding page process base place service = some {
        service, base := o
        binding := { b with
          server := boundServer b (processBridge process service) (pageBridge page service)
          authorization := boundAuthorization b (pageBridge page service) } } :=
      congrArg (Option.map _) h
    exact ⟨_, List.mem_filterMap.mpr ⟨service, hs, found⟩, rfl, rfl⟩
  cases h with
  | process hs own => exact effective hs (by simp only [sourceBinding?, own])
  | page hs none own => exact effective hs (by simp only [sourceBinding?, none, own])

/-- **A page that could be loaded has asked for all documents that it needs.** -/
theorem asked_of_needed {options : Options} {s t : σ} {flow : Flow}
    (h : (loadPage registry options base s).outcome answers = some (.ok flow, t))
    (needed : Needed answers base l) :
    l.question ∈ (loadPage registry options base s).questions answers := by
  obtain ⟨page', t₁, read, h⟩ := Run.outcome_bind_ok h
  rcases needed with rfl | ⟨place, reference, cites, joined⟩
  · exact fetchTyped_asks.bind s
  refine Run.mem_questions_bind_ok read ?_
  obtain ⟨_, t₂, reported, h⟩ := Run.outcome_bind_ok h
  obtain ⟨⟨process', place'⟩, t₃, found, h⟩ := Run.outcome_bind_ok h
  have samePage {page} (hp : documentAt? answers Document.readPage base = some page) :
      page' = page :=
    (fetchTyped_delivers hp).eq_of_outcome read
  have sameProcess {process place}
      (given : Gives answers Document.readProcess base page'.process process place) :
      process' = process ∧ place' = place :=
    Prod.mk.inj ((processOf_delivers given).eq_of_outcome found)
  obtain ⟨_, t₄, reported', h⟩ := Run.outcome_bind_ok h
  obtain ⟨_, t₅, checked, h⟩ := Run.outcome_bind_ok h
  obtain ⟨functions, t₆, module, h⟩ := Run.outcome_bind_ok h
  obtain ⟨kept, t₇, loaded, h⟩ := Run.outcome_bind_ok h
  -- the bridges come after five steps, each of which went well
  have asked {bound : Bound} {q : Query} (hb : bound ∈ process'.services.keys.filterMap
      (effectiveBinding page' process' base place'))
      (hq : q ∈ (bridgeTask registry options.validate bound).questions answers) :
      q ∈ (loadDocument registry options page' base t₁).questions answers :=
    Run.mem_questions_bind_ok reported (Run.mem_questions_bind_ok found
      (Run.mem_questions_bind_ok reported' (Run.mem_questions_bind_ok checked
        (Run.mem_questions_bind_ok module
          (Run.mem_questions_bind ((bridges_asks loaded hb).2 q hq))))))
  cases cites with
  | process hp named =>
    obtain rfl := samePage hp
    exact Run.mem_questions_bind_ok reported
      (Run.mem_questions_bind (processOf_asks named joined t₂))
  | bridge hp given binds named =>
    obtain rfl := samePage hp
    obtain ⟨rfl, rfl⟩ := sameProcess given
    obtain ⟨bound, hb, source, rfl⟩ := exists_bound_of_binds binds
    exact asked hb ((bridgeDocument_asks (source ▸ named) joined).bind [])
  | openApi hp given binds document named =>
    obtain rfl := samePage hp
    obtain ⟨rfl, rfl⟩ := sameProcess given
    obtain ⟨bound, hb, source, rfl⟩ := exists_bound_of_binds binds
    obtain ⟨x, log, own, harmless⟩ := (bridges_asks loaded hb).1
    exact asked hb (bridge_asks_api (source ▸ document) named joined own harmless)

end Asks

/-! ## §4. Files only. -/

/-- No document that the page leads to names another one by an address. -/
def WithoutAddresses (answers : Answers) (base : Location) : Prop :=
  ∀ place reference, Cites answers base place reference → Location.isAddress reference = false

section Files

variable {base place l : Location} {path reference : String} {Q : Location → Prop}

theorem isSome_textAt? {α : Type} {read : Reader α} {document : α}
    (h : documentAt? answers read l = some document) : (textAt? answers l).isSome = true := by
  obtain ⟨_, h, _⟩ := Option.bind_eq_some_iff.mp h
  obtain ⟨_, h, _⟩ := Option.bind_eq_some_iff.mp h
  exact Option.isSome_of_mem h

theorem Gives.invariant {α : Type} {read : Reader α} {o : Origin α} {document : α}
    (h : Gives answers read base o document place) (start : Q base)
    (step : ∀ reference, Names o reference → base.join reference = .ok place →
      (textAt? answers place).isSome = true → Q place) : Q place := by
  cases h with
  | inline => exact start
  | named named joined read => exact step _ named joined (isSome_textAt? read)

/-- **What holds of the place of the page, and is passed on from document to document, holds of
the places of all documents that name others.** -/
theorem Cites.invariant (start : Q base)
    (step : ∀ place reference l, Q place → Cites answers base place reference →
      place.join reference = .ok l → (textAt? answers l).isSome = true → Q l)
    (h : Cites answers base place reference) : Q place := by
  have ofOrigin {page process} {place origin : Location} {b : Binding}
      (hp : documentAt? answers Document.readPage base = some page)
      (given : Gives answers Document.readProcess base page.process process place)
      (binds : Binds page process base place b origin) : Q origin := by
    cases binds with
    | process => exact given.invariant start fun _ named => step _ _ _ start (.process hp named)
    | page => exact start
  cases h with
  | process => exact start
  | bridge hp given binds => exact ofOrigin hp given binds
  | openApi hp given binds document =>
    have holds := ofOrigin hp given binds
    exact document.invariant holds fun _ named => step _ _ _ holds (.bridge hp given binds named)

theorem Cites.isSome_textAt? (h : Cites answers base place reference) :
    (textAt? answers base).isSome = true := by
  cases h with
  | process hp | bridge hp | openApi hp => exact Load.isSome_textAt? hp

/-- **Without addresses, every document is a file beside the one that names it.** -/
theorem needed_file (plain : WithoutAddresses answers (.file path))
    (h : Needed answers (.file path) l) :
    l = .file path ∨ ∃ p reference, Cites answers (.file path) (.file p) reference
      ∧ l = .file (beside p reference) := by
  rcases h with rfl | ⟨place, reference, cites, joined⟩
  · exact .inl rfl
  obtain ⟨p, rfl⟩ : ∃ p, place = .file p := by
    refine cites.invariant (Q := fun place => ∃ p, place = .file p) ⟨path, rfl⟩ ?_
    rintro _ reference l ⟨p, rfl⟩ cites joined _
    rw [Location.join_of_not_isAddress (plain _ _ cites)] at joined
    exact ⟨_, (Except.ok.inj joined).symm⟩
  rw [Location.join_of_not_isAddress (plain _ _ cites)] at joined
  exact .inr ⟨p, reference, cites, (Except.ok.inj joined).symm⟩

/-- **From an absolute path only absolute paths are reached**, if a path that only says where it
starts is not that of a document. -/
theorem needed_absolute (plain : WithoutAddresses answers (.file path))
    (absolute : Path.isAbsolute path = true)
    (named : ∀ p, (textAt? answers (.file p)).isSome = true → Path.HasName p)
    (h : Needed answers (.file path) l) : ∃ p, l = .file p ∧ Path.isAbsolute p = true := by
  have further {p : String} (absolute : Path.isAbsolute p = true) (named : Path.HasName p)
      (reference : String) : Path.isAbsolute (beside p reference) = true :=
    Path.isAbsolute_join (Path.isAbsolute_directory absolute named) reference
  rcases h with rfl | ⟨place, reference, cites, joined⟩
  · exact ⟨path, rfl, absolute⟩
  obtain ⟨p, rfl, habs, hname⟩ :
      ∃ p, place = .file p ∧ Path.isAbsolute p = true ∧ Path.HasName p := by
    refine cites.invariant
      (Q := fun place => ∃ p, place = .file p ∧ Path.isAbsolute p = true ∧ Path.HasName p)
      ⟨path, rfl, absolute, named _ cites.isSome_textAt?⟩ ?_
    rintro _ reference l ⟨p, rfl, habs, hname⟩ cites joined text
    rw [Location.join_of_not_isAddress (plain _ _ cites)] at joined
    obtain rfl := Except.ok.inj joined
    exact ⟨_, rfl, further habs hname reference, named _ text⟩
  rw [Location.join_of_not_isAddress (plain _ _ cites)] at joined
  exact ⟨_, (Except.ok.inj joined).symm, further habs hname reference⟩

end Files

/-! ## §5. Four documents. -/

theorem documentAt?_of_json {α : Type} {read : Reader α} {path text : String} {value : Json}
    {document : α} (found : answers (.fileBytes path) = .ok (Utf8.encode text))
    (json : (Location.file path).isYaml = false) (spells : Json.parse? text = .ok value)
    (reads : read value = .ok document) :
    documentAt? answers read (.file path) = some document := by
  have decoded : textAt? answers (.file path) = some text := by
    simp only [textAt?, found, Utf8.decode?_encode]
  have parsed : parseDocument (.file path) text = .ok value := by
    simp [parseDocument, json, spells]
  rw [documentAt?, valueAt?, decoded, Option.bind_some, parsed]
  show (read value).toOption = _
  rw [reads]
  rfl

/-- A page, its process, a bridge and its OpenAPI document. -/
def shelf : String → Option Json
  | "/srv/pages/main.json" =>
    some (.object [("process", .object [("uri", .string "../flow.json")])])
  | "/srv/pages/../flow.json" =>
    let origin := Json.object [("uri", .string "users.json")]
    let service := Json.object [("bridge", .object [("source", origin)])]
    some (.object [("services", .object [("users", service)])])
  | "/srv/pages/../users.json" =>
    some (.object [("execute", .object [("openapiSchemaUri", .string "api/users.json")])])
  | "/srv/pages/../api/users.json" => some (.object [])
  | _ => none

/-- There is nothing but these files. -/
def shelfAnswers : Answers
  | .fileBytes path =>
    match shelf path with
    | some value => .ok (Utf8.encode value.print)
    | none => .error .notFound
  | .fileSize _ => .error .notFound
  | .call _ _ => .ok (.value .null)
  | .send _ => .error (.network "")
  | .fetch _ => .error ""

def shelfPage : Document.Page := { process := { uri := some "../flow.json" } }

def shelfBinding : Binding := { source := { uri := some "users.json" } }

def shelfProcess : Document.Process := { services := [("users", { bridge := some shelfBinding })] }

def shelfBridge : Document.Bridge := { execute := { openApiUri := some "api/users.json" } }

theorem shelf_page :
    documentAt? shelfAnswers Document.readPage (.file "/srv/pages/main.json") = some shelfPage :=
  documentAt?_of_json rfl (by decide +kernel) (by cbv) rfl

theorem shelf_process : documentAt? shelfAnswers Document.readProcess
    (.file "/srv/pages/../flow.json") = some shelfProcess :=
  documentAt?_of_json rfl (by decide +kernel) (by cbv) rfl

theorem shelf_bridge : documentAt? shelfAnswers Document.readBridge
    (.file "/srv/pages/../users.json") = some shelfBridge :=
  documentAt?_of_json rfl (by decide +kernel) (by cbv) rfl

/-- What a reference that leads to a known document gives is that document. -/
theorem Gives.eq_of_named {α : Type} {read : Reader α} {base place l : Location} {o : Origin α}
    {document known : α} {reference : String}
    (h : Gives answers read base o document place) (named : Names o reference)
    (joined : base.join reference = .ok l) (reads : documentAt? answers read l = some known) :
    document = known ∧ place = l := by
  cases h with
  | inline h => rw [named.1] at h; contradiction
  | named other there gives =>
    obtain rfl := Option.some.inj (other.2.symm.trans named.2)
    obtain rfl := Except.ok.inj (there.symm.trans joined)
    exact ⟨Option.some.inj (gives.symm.trans reads), rfl⟩

theorem shelf_withoutAddresses :
    WithoutAddresses shelfAnswers (.file "/srv/pages/main.json") := by
  have process {process place} (given : Gives shelfAnswers Document.readProcess
      (.file "/srv/pages/main.json") shelfPage.process process place) :
      process = shelfProcess ∧ place = .file "/srv/pages/../flow.json" :=
    given.eq_of_named ⟨rfl, rfl⟩ (by decide +kernel) shelf_process
  have binding {b place origin}
      (binds : Binds shelfPage shelfProcess (.file "/srv/pages/main.json") place b origin) :
      b = shelfBinding ∧ origin = place := by
    cases binds with
    | process hs own =>
      obtain rfl := List.mem_singleton.mp hs
      exact ⟨(Option.some.inj own).symm, rfl⟩
    | page hs none own =>
      obtain rfl := List.mem_singleton.mp hs
      contradiction
  intro place reference cites
  cases cites with
  | process hp named =>
    obtain rfl := Option.some.inj (hp.symm.trans shelf_page)
    obtain rfl := Option.some.inj named.2
    decide +kernel
  | bridge hp given binds named =>
    obtain rfl := Option.some.inj (hp.symm.trans shelf_page)
    obtain ⟨rfl, rfl⟩ := process given
    obtain ⟨rfl, rfl⟩ := binding binds
    obtain rfl := Option.some.inj named.2
    decide +kernel
  | openApi hp given binds document named =>
    obtain rfl := Option.some.inj (hp.symm.trans shelf_page)
    obtain ⟨rfl, rfl⟩ := process given
    obtain ⟨rfl, rfl⟩ := binding binds
    obtain ⟨rfl, rfl⟩ := document.eq_of_named ⟨rfl, rfl⟩ (by decide +kernel) shelf_bridge
    obtain rfl := Option.some.inj named.2
    decide +kernel

theorem hasName_of_shelf (p : String) (h : (textAt? shelfAnswers (.file p)).isSome = true) :
    Path.HasName p := by
  have known : (shelf p).isSome = true := by
    by_contra none
    rw [Bool.not_eq_true, Option.isSome_eq_false_iff, Option.isNone_iff_eq_none] at none
    simp only [textAt?, shelfAnswers, none] at h
    contradiction
  unfold shelf at known
  split at known
  case h_5 => contradiction
  all_goals decide

/-! ## §6. References. -/

/-- **Relative references stay beside their documents**, unless they have the form of an address
of neither the web nor a file; without a colon they have not.  From an absolute path they do not
depend on the directory one is in.  Loading a page asks for what documents name, each relative to
the one that names it, and, if a flow comes of it, for all of that; so without addresses it is
files beside files that it reads. -/
theorem references_stay_beside_their_documents (answers : Answers) {σ : Type} [Journal σ]
    (registry : Registry) (options : Options) (base : Location) (s : σ) :
    (∀ path reference, IsPath reference →
      ((Location.file path).join reference = .ok (.file (beside path reference))
        ↔ Location.isAddress reference = false ∨ Path.directory path = "") ∧
      (':' ∉ reference.toList → Location.isAddress reference = false) ∧
      (Path.isAbsolute path = true →
        ((∀ directory, Path.join directory (beside path reference) = beside path reference)
          ↔ Path.HasName path))) ∧
    (∀ q ∈ (loadPage registry options base s).questions answers,
      ∃ l, Needed answers base l ∧ q = l.question) ∧
    (∀ flow t, (loadPage registry options base s).outcome answers = some (.ok flow, t) →
      ∀ l, Needed answers base l →
        l.question ∈ (loadPage registry options base s).questions answers) ∧
    ∀ path, base = .file path → WithoutAddresses answers base →
      (∀ l, Needed answers base l → l = base ∨
        ∃ p reference, Cites answers base (.file p) reference ∧ l = .file (beside p reference)) ∧
      (Path.isAbsolute path = true →
        (∀ p, (textAt? answers (.file p)).isSome = true → Path.HasName p) →
        ∀ l, Needed answers base l → ∃ p, l = .file p ∧ Path.isAbsolute p = true) := by
  refine ⟨?joined, ?asked, fun flow t h l => asked_of_needed h, ?files⟩
  case joined =>
    intro path reference h
    exact ⟨Location.join_file_iff h, Location.not_isAddress_of_no_colon,
      fun absolute => forall_join_beside_iff absolute h.relative⟩
  case asked =>
    exact Task.Keeps.of_mem_questions (fun _ => trivial) (fun _ => rfl)
      (loadPage_keeps s trivial)
  case files =>
    rintro path rfl plain
    exact ⟨fun l => needed_file plain, fun absolute named l =>
      needed_absolute plain absolute named⟩

/-- Only files at absolute paths are read, the last one three documents away from the page. -/
theorem references_stay_beside_their_documents_shelf :
    (∀ q ∈ (loadPage [] {} (.file "/srv/pages/main.json") ([] : List Note)).questions shelfAnswers,
      ∃ p, q = .fileBytes p ∧ Path.isAbsolute p = true) ∧
    Needed shelfAnswers (.file "/srv/pages/main.json") (.file "/srv/pages/../api/users.json") := by
  obtain ⟨_, asked, _, files⟩ := references_stay_beside_their_documents shelfAnswers [] {}
    (.file "/srv/pages/main.json") ([] : List Note)
  obtain ⟨_, absolute⟩ := files _ rfl shelf_withoutAddresses
  constructor
  · intro q hq
    obtain ⟨l, needed, rfl⟩ := asked q hq
    obtain ⟨p, rfl, ha⟩ := absolute (by decide) hasName_of_shelf l needed
    exact ⟨p, rfl, ha⟩
  · have binds : Binds shelfPage shelfProcess (.file "/srv/pages/main.json")
        (.file "/srv/pages/../flow.json") shelfBinding (.file "/srv/pages/../flow.json") :=
      .process (List.mem_singleton.mpr (rfl : "users" = "users")) rfl
    refine .inr ⟨.file "/srv/pages/../users.json", "api/users.json",
      .openApi shelf_page (.named ⟨rfl, rfl⟩ ?_ shelf_process) binds
        (.named ⟨rfl, rfl⟩ ?_ shelf_bridge) ⟨rfl, rfl⟩, ?_⟩
    · decide +kernel
    · decide +kernel
    · decide +kernel

/-- A reference of the form of an address, whose scheme is neither that of the web nor that of
files, is a path that does depend on the directory one is in. -/
theorem foreign_reference_is_not_beside :
    IsPath "team:bridge.json" ∧
    (Location.file "/srv/pages/main.json").join "team:bridge.json"
      = .ok (.file "team:bridge.json") ∧
    beside "/srv/pages/main.json" "team:bridge.json" = "/srv/pages/team:bridge.json" := by
  refine ⟨⟨by decide, ?_⟩, by decide +kernel, by decide +kernel⟩
  intro url h
  have scheme : (Url.parse "team:bridge.json").map Url.scheme = .ok "team" := by decide +kernel
  rw [h] at scheme
  rw [Except.ok.inj scheme]
  decide

end Load

end Pageflow
