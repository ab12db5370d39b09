/-
  Pageflow.Proofs.Shortfalls — what becomes of values that are not there.

  The values of an activity are drawn one after the other, and nothing that lasts changes in
  between: who makes a value stores nothing and selects no file.  So what there is to be drawn is
  the same for all of them, and only what the outside world answers may differ from one to the
  next.  Of all that can be missing only a selected file that cannot be read makes drawing fail,
  when the turn of its source comes; whatever else is missing is `null`.  A dynamic parameter
  without a source, or with such a file, has no value.

  Main definitions: `Unreadable`, `Missing`, `Given`, `Turn` and `Contained`.
  Main statements:
    • `comesTo_sourceValue` — a source fails iff it is an unreadable file,
    • `exists_finish_sourceValues`, `exists_finish_dynamicValues` — the sources in their turns,
    • `only_unreadable_files_fail` — parameters and request bodies.
-/
import Pageflow.Proofs.Flags
import Pageflow.Proofs.Worlds

namespace Pageflow.Run

open Pageflow.Flow (Activity DynamicParameter IsBuilt Materials Orderly Source)

/-! ## §1. One source. -/

/-- The input of this name wants a file, and the file that is selected there cannot be read in the
way that the input wants it. -/
def UnreadableInput (answers : Answers) (s : State) (service name : String) : Prop :=
  ∃ i f path, s.input? service name = some i ∧ i.kind = .file f
    ∧ s.file? i.service i.name = some path ∧ ¬ CanRead answers f path

/-- There is no input of this name, or it wants a file and none is selected. -/
def MissingInput (s : State) (service name : String) : Prop :=
  s.input? service name = none
    ∨ ∃ i f, s.input? service name = some i ∧ i.kind = .file f ∧ s.file? i.service i.name = none

/-- The source is an input with an unreadable file. -/
def Unreadable (answers : Answers) (s : State) (service : String) : Source → Prop
  | .input name | .fileInput name => UnreadableInput answers s service name
  | _ => False

/-- There is nothing to be drawn from the source: no input or no file, no result, no value under
the key or nothing at the path in it, no query parameter. -/
def Missing (s : State) (service : String) (before : Inherited) : Source → Prop
  | .input name | .fileInput name => MissingInput s service name
  | .parentResult => before.parent = none
  | .previousResult => before.previous = none
  | .store scope key path => (s.storeFor scope service).get? key = none
      ∨ ∃ p, path = some p ∧ ((s.storeFor scope service).read key).select p = none
  | .queryParam name => s.query.get? name = none
  | .constant _ | .generate _ => False

variable {ω ε : Type} {environment : Task.Environment ω} {world : ω} {flow : Flow} {c : State}
  {a : Activity} {before : Inherited} {service : String}

/-- The value is what the source gives in this world: `null` if there is nothing to be drawn, and
what its maker makes then, which is `null` if that fails. -/
structure Given (environment : Task.Environment ω) (flow : Flow) (c : State) (world : ω)
    (service : String) (before : Inherited) (source : Source) (v : Json) : Prop where
  missing : Missing c service before source → v = .null
  made : ∀ k, source = .generate k →
    ∃ x, CanGive environment c world (execute flow k {} false) x ∧ v = valueMade x

/-- An answer is passed on, be it a failure or not. -/
theorem comesTo_answered {α : Type} {path : String} {answer : Except FileError α}
    {r : Run State ExecutionError α} (given : ∀ v, answer = .ok v → r = Pure.pure v)
    (failed : ∀ e, answer = .error e → r = fail (unreadable path e)) :
    ComesTo environment c world r
      (Settles (¬ ∃ v, answer = .ok v) fun v => answer = .ok v) := by
  cases answer with
  | ok v =>
    rw [given v rfl]
    exact comesTo_pure (.ok (not_not.mpr ⟨v, rfl⟩) rfl)
  | error e =>
    rw [failed e rfl]
    exact comesTo_fail (.error fun ⟨_, h⟩ => by contradiction)

theorem comesTo_measureFile (path : String) :
    ComesTo environment c world (measureFile path)
      (Settles (¬ ∃ size, (answersIn environment world (.fileSize path) : Except FileError Nat)
        = .ok size) fun size => answersIn environment world (.fileSize path) = .ok size) := by
  refine (comesTo_ask (.fileSize path)).bind ?_ fun e h => by contradiction
  intro answer world' asked
  rw [← Except.ok.inj asked]
  exact comesTo_answered (by rintro v rfl; rfl) (by rintro e rfl; rfl)

theorem comesTo_readFile (path : String) :
    ComesTo environment c world (readFile path)
      (Settles (¬ ∃ bytes, (answersIn environment world (.fileBytes path) : Except FileError Bytes)
        = .ok bytes) fun bytes => answersIn environment world (.fileBytes path) = .ok bytes) := by
  refine (comesTo_ask (.fileBytes path)).bind ?_ fun e h => by contradiction
  intro answer world' asked
  rw [← Except.ok.inj asked]
  exact comesTo_answered (by rintro v rfl; rfl) (by rintro e rfl; rfl)

/-- **Reading a file fails iff the file cannot be read** in the way that the input wants it. -/
theorem comesTo_readFileInput (f : Document.FileInput) (path : String) :
    ComesTo environment c world (readFileInput f path)
      (Settles (¬ CanRead (answersIn environment world) f path) fun _ => True) := by
  -- both sides ask first whether the file is to be kept, and then whether it is to be a text
  unfold readFileInput CanRead
  split
  next =>
    refine (comesTo_measureFile path).bind ?_ fun e h => .error h.of_error
    intro size _ h
    exact comesTo_pure (.ok h.of_ok.1 trivial)
  next =>
    refine (comesTo_readFile path).bind ?_ ?_
    · intro bytes _ h
      have read := h.of_ok.2
      split
      next binary =>
        exact comesTo_pure (.ok (not_not.mpr ⟨bytes, read, .inl binary⟩) trivial)
      next text =>
        cases decoded : Utf8.decode? bytes with
        | some text =>
          refine comesTo_pure (.ok (not_not.mpr ⟨bytes, read, .inr ?_⟩) trivial)
          rw [decoded]
          rfl
        | none =>
          refine comesTo_fail (.error ?_)
          rintro ⟨bytes', same, fits⟩
          obtain rfl : bytes = bytes' := Except.ok.inj (read.symm.trans same)
          rw [decoded] at fits
          exact absurd fits (by simp [text])
    · intro e h
      exact .error fun ⟨bytes, read, _⟩ => h.of_error ⟨bytes, read⟩

theorem comesTo_inputValue {name : String} {i : Flow.Input}
    (hi : c.input? service name = some i) :
    ComesTo environment c world (inputValue i)
      (Settles (UnreadableInput (answersIn environment world) c service name)
        fun v => MissingInput c service name → v = .null) := by
  have look (s : State) (hs : s.lasting = c.lasting) := sameLook_of_lasting (fun _ _ => True) hs
  have missing_iff : MissingInput c service name
      ↔ ∃ f, i.kind = .file f ∧ c.file? i.service i.name = none := by
    simp [MissingInput, hi]
  have unreadable_iff : UnreadableInput (answersIn environment world) c service name
      ↔ ∃ f path, i.kind = .file f ∧ c.file? i.service i.name = some path
        ∧ ¬ CanRead (answersIn environment world) f path := by
    simp [UnreadableInput, hi]
  rw [missing_iff, unreadable_iff]
  -- only a file can be unreadable or missing; any other input has a value of its own
  cases hk : i.kind with
  | file f =>
    have seen (s : State) (hs : s.lasting = c.lasting) : s.file? = c.file? := (look s hs).file
    cases hf : c.file? i.service i.name with
    | none =>
      refine comesTo_get (fun s hs => by simp only [hk, seen s hs]) ?_
      simp only [hk, hf]
      exact comesTo_pure (.ok (by simp) fun _ => rfl)
    | some path =>
      refine comesTo_get (fun s hs => by simp only [hk, seen s hs]) ?_
      simp only [hk, hf]
      exact (comesTo_readFileInput f path).mono fun x h => h.imp (by simp) (by simp)
  | _ =>
    refine comesTo_get (fun s hs => by simp only [hk, plainValue_congr (look s hs)]) ?_
    simp only [hk]
    exact comesTo_pure (.ok (by simp) (by simp))

/-- **An input fails iff its file cannot be read**; without an input or a file it is `null`. -/
theorem comesTo_boundInput (name : String) :
    ComesTo environment c world (boundInput service name)
      (Settles (UnreadableInput (answersIn environment world) c service name)
        fun v => MissingInput c service name → v = .null) := by
  have look (s : State) (hs : s.lasting = c.lasting) :=
    (sameLook_of_lasting (fun _ _ => True) hs).input
  refine comesTo_get (fun s hs => by rw [look s hs]) ?_
  cases hi : c.input? service name with
  | none =>
    refine .after_note _ <| comesTo_pure (.ok ?_ fun _ => rfl)
    simp [UnreadableInput, hi]
  | some i => exact comesTo_inputValue hi

/-- A part of nothing is nothing. -/
theorem select_null (path : String) : (Json.null.select path).getD .null = .null := by
  unfold Json.select
  cases Json.segments path <;> rfl

/-- **A store gives `null`** where nothing is stored under the key, or nothing is at the path. -/
theorem comesTo_readStore (store : Store) (key : String) (path : Option String) :
    ComesTo environment c world (readStore store key path : Run State ε Json) fun x =>
      ∃ v, x = .ok v ∧ ((store.get? key = none
        ∨ ∃ p, path = some p ∧ (store.read key).select p = none) → v = .null) := by
  have value : ComesTo environment c world (readKey store key : Run State ε Json)
      fun x => x = .ok (store.read key) :=
    .after_notes _ (comesTo_pure rfl)
  unfold readStore
  refine value.bind ?_ fun e h => by contradiction
  rintro v world' h
  obtain rfl := Except.ok.inj h
  have unset (h : store.get? key = none) : store.read key = .null := by
    rw [Store.read, h]
    rfl
  cases path with
  | none => exact comesTo_pure ⟨_, rfl, fun missing => unset (missing.resolve_right (by simp))⟩
  | some path =>
    refine comesTo_pure ⟨_, rfl, ?_⟩
    rintro (missing | ⟨p, same, missing⟩)
    · rw [unset missing, select_null]
    · obtain rfl := Option.some.inj same
      rw [missing]
      rfl

/-- **A generated value is what its maker makes**, and `null` if that fails. -/
theorem comesTo_madeValue {k : Nat} (h : (execute flow k {} false).Within SameLasting)
    (activity : String) :
    ComesTo environment c world (madeValue (maker (execute flow)) activity k) fun y =>
      ∃ x, CanGive environment c world (execute flow k {} false) x ∧ y = .ok (valueMade x) := by
  refine (comesTo_of_within h).attempt.bind ?_ fun e h => by simp at h
  rintro x world' ⟨x', same, hx⟩
  obtain rfl := Except.ok.inj same
  cases x with
  | ok value => exact comesTo_pure ⟨_, hx, rfl⟩
  | error e => exact .after_note _ <| comesTo_pure ⟨_, hx, rfl⟩

/-- **A source fails iff it is an unreadable file**, and else gives its value. -/
theorem comesTo_sourceValue (ho : Orderly flow) {source : Source}
    (makers : ∀ k, source.maker? = some k → MakerAt flow k) :
    ComesTo environment c world (sourceValue (maker (execute flow)) a before source)
      (Settles (Unreadable (answersIn environment world) c a.service source)
        (Given environment flow c world a.service before source)) := by
  have look (s : State) (hs : s.lasting = c.lasting) := sameLook_of_lasting (fun _ _ => True) hs
  cases source with
  | input name =>
    exact (comesTo_boundInput name).mono fun x h =>
      h.imp Iff.rfl fun v hv => ⟨hv, fun k h => by contradiction⟩
  | fileInput name =>
    exact (comesTo_boundInput name).mono fun x h =>
      h.imp Iff.rfl fun v hv => ⟨hv, fun k h => by contradiction⟩
  | parentResult =>
    refine comesTo_pure (.ok not_false ⟨fun missing => ?_, fun k h => by contradiction⟩)
    rw [show before.parent = none from missing]
    rfl
  | previousResult =>
    refine comesTo_pure (.ok not_false ⟨fun missing => ?_, fun k h => by contradiction⟩)
    rw [show before.previous = none from missing]
    rfl
  | constant value =>
    exact comesTo_pure (.ok not_false ⟨False.elim, fun k h => by contradiction⟩)
  | queryParam name =>
    refine comesTo_get (fun s hs => by rw [(look s hs).query]) ?_
    refine comesTo_pure (.ok not_false ⟨fun missing => ?_, fun k h => by contradiction⟩)
    rw [show c.query.get? name = none from missing]
    rfl
  | store scope key path =>
    refine comesTo_get (fun s hs => by rw [(look s hs).store scope a.service trivial]) ?_
    refine (comesTo_readStore (c.storeFor scope a.service) key path).mono ?_
    rintro _ ⟨v, rfl, missing⟩
    exact .ok not_false ⟨missing, fun k h => by contradiction⟩
  | generate k =>
    have made := lasting_of_makerAt ho (makers k rfl) {} false
    refine (comesTo_madeValue made a.name).mono ?_
    rintro _ ⟨x, hx, rfl⟩
    refine .ok not_false ⟨False.elim, fun k' h => ?_⟩
    obtain rfl := Source.generate.inj h
    exact ⟨x, hx, rfl⟩

/-- What a dynamic parameter with this source comes to in this world: no value if it has no source
or its source fails, and else the value of its source. -/
structure DynamicallyGiven (environment : Task.Environment ω) (flow : Flow) (c : State) (world : ω)
    (service : String) (before : Inherited) (source? : Option Source) (v? : Option Json) :
    Prop where
  none_iff : v? = none
    ↔ ∀ source ∈ source?, Unreadable (answersIn environment world) c service source
  given : ∀ source ∈ source?, ∀ v ∈ v?, Given environment flow c world service before source v

/-- **A dynamic parameter never fails.** -/
theorem comesTo_dynamicValue (ho : Orderly flow) (name : String) {p : DynamicParameter}
    (makers : ∀ source ∈ p.source?, ∀ k, source.maker? = some k → MakerAt flow k) :
    ComesTo environment c world (dynamicValue (maker (execute flow)) a before name p) fun x =>
      ∃ v?, x = .ok v?
        ∧ DynamicallyGiven environment flow c world a.service before p.source? v? := by
  unfold dynamicValue
  cases hs : p.source? with
  | none =>
    refine .after_note _ <| comesTo_pure ⟨none, rfl, ?_⟩
    exact ⟨by simp, by simp⟩
  | some source =>
    refine (comesTo_sourceValue ho (makers source hs)).attempt.bind ?_ fun e h => by simp at h
    rintro x world' ⟨x', same, h⟩
    obtain rfl := Except.ok.inj same
    cases x with
    | ok v =>
      refine comesTo_pure ⟨some v, rfl, ?_⟩
      exact ⟨by simp [h.of_ok.1], by simp [h.of_ok.2]⟩
    | error e =>
      refine .after_note _ <| comesTo_pure ⟨none, rfl, ?_⟩
      exact ⟨by simp [h.of_error], by simp⟩

/-! ## §2. One source after the other. -/

section Turns

variable {ε β γ : Type} {draw : String → β → Run State ε γ} {s t : State} {world' world'' : ω}

/-- When values are drawn under these names one after the other, from a state in a world, it is the
turn of an entry in this world; all before it have been drawn without a failure. -/
inductive Turn (environment : Task.Environment ω) (draw : String → β → Run State ε γ) :
    Dict β → State → ω → String → β → ω → Prop
  | now {name : String} {b : β} {rest : Dict β} {s : State} {world : ω} :
      Turn environment draw ((name, b) :: rest) s world name b world
  | later {first : String} {d : β} {rest : Dict β} {s t : State} {world world' world'' : ω}
      {name : String} {b : β} {v : γ}
      (h : (draw first d s).finish environment world = (some (.ok v, t), world'))
      (after : Turn environment draw rest t world' name b world'') :
      Turn environment draw ((first, d) :: rest) s world name b world''

variable {entries rest : Dict β} {name first : String} {b d : β} {v : γ}

theorem Turn.mem (h : Turn environment draw entries s world name b world') :
    (name, b) ∈ entries := by
  induction h with
  | now => exact List.mem_cons_self
  | later _ _ ih => exact List.mem_cons_of_mem _ ih

/-- Until the turn of an entry no file has become readable or unreadable if no answer does that. -/
theorem Turn.sameFiles (h : Turn environment draw entries s world name b world')
    (keeps : KeepsFiles environment) : SameFiles environment world world' := by
  induction h with
  | now => exact fun _ _ => Iff.rfl
  | @later first d _ s _ world _ _ _ _ _ ends _ ih =>
    have drawn := keeps.finish (draw first d s) world
    rw [ends] at drawn
    exact drawn.trans ih

/-- After the first value has been drawn it is the turn of the others. -/
theorem turn_cons_iff
    (ends : (draw first d s).finish environment world = (some (.ok v, t), world')) :
    Turn environment draw ((first, d) :: rest) s world name b world''
      ↔ (name = first ∧ b = d ∧ world'' = world)
        ∨ Turn environment draw rest t world' name b world'' := by
  constructor
  · intro h
    cases h with
    | now => exact .inl ⟨rfl, rfl, rfl⟩
    | later ends' after =>
      simp only [ends, Prod.mk.injEq, Option.some.injEq, Except.ok.injEq] at ends'
      obtain ⟨⟨rfl, rfl⟩, rfl⟩ := ends'
      exact .inr after
  · rintro (⟨rfl, rfl, rfl⟩ | after)
    · exact .now
    · exact .later ends after

/-- What is found under names after values were drawn under them: what is good for the entry in
the world of its turn.  Under other names there is what there was. -/
structure Filled (environment : Task.Environment ω) (draw : String → β → Run State ε γ)
    (good : ω → β → Option Json → Prop) (entries : Dict β) (s : State) (world : ω)
    (values result : Dict Json) : Prop where
  under : ∀ name b, (name, b) ∈ entries → ∃ world',
    Turn environment draw entries s world name b world' ∧ good world' b (result.get? name)
  others : ∀ name, name ∉ entries.keys → result.get? name = values.get? name

variable {good : ω → β → Option Json → Prop} {values values' result : Dict Json}

theorem filled_nil : Filled environment draw good [] s world values values where
  under _ _ h := by contradiction
  others _ _ := rfl

/-- The first value stays when the others are drawn, for no name has two entries. -/
theorem Filled.cons (keyed : Dict.Keyed ((first, d) :: rest))
    (ends : (draw first d s).finish environment world = (some (.ok v, t), world'))
    (head : good world d (values'.get? first))
    (same : ∀ name, name ≠ first → values'.get? name = values.get? name)
    (h : Filled environment draw good rest t world' values' result) :
    Filled environment draw good ((first, d) :: rest) s world values result := by
  obtain ⟨fresh, _⟩ := List.nodup_cons.mp keyed
  refine ⟨fun name b hm => ?_, fun name hn => ?_⟩
  · rcases List.mem_cons.mp hm with heq | hm
    · obtain ⟨rfl, rfl⟩ := Prod.mk.inj heq
      exact ⟨world, .now, h.others name fresh ▸ head⟩
    · obtain ⟨world'', turn, found⟩ := h.under name b hm
      exact ⟨world'', .later ends turn, found⟩
  · obtain ⟨other, hn⟩ := not_or.mp (List.mem_cons.not.mp hn)
    exact (h.others name hn).trans (same name other)

end Turns

section Drawing

/-- How the sources of an activity are drawn. -/
abbrev drawing (flow : Flow) (a : Activity) (before : Inherited) :
    String → Source → Run State ExecutionError Json :=
  fun _ => sourceValue (maker (execute flow)) a before

/-- When its turn comes, some source is an unreadable file. -/
def UnreadableInTurn (environment : Task.Environment ω) (flow : Flow) (a : Activity)
    (before : Inherited) (c : State) (sources : Dict Source) (s : State) (world : ω) : Prop :=
  ∃ name source world', Turn environment (drawing flow a before) sources s world name source world'
    ∧ Unreadable (answersIn environment world') c a.service source

/-- There is a value, and the source gives it in this world. -/
def GivenAs (environment : Task.Environment ω) (flow : Flow) (c : State) (service : String)
    (before : Inherited) (world : ω) (source : Source) (v? : Option Json) : Prop :=
  ∃ v, v? = some v ∧ Given environment flow c world service before source v

variable (environment before) (ho : Orderly flow)
include ho

/-- **Sources are drawn in turn until one is an unreadable file**; if none is, each gives its value
under its name. -/
theorem exists_finish_sourceValues :
    ∀ (sources : Dict Source) (values : Dict Json) (s : State) (world : ω),
      Dict.Keyed sources →
      (∀ source ∈ sources.values, ∀ k, source.maker? = some k → MakerAt flow k) →
      s.lasting = c.lasting →
      ∃ x t world', (sourceValues (maker (execute flow)) a before sources values s).finish
          environment world = (some (x, t), world')
        ∧ t.lasting = c.lasting
        ∧ Settles (UnreadableInTurn environment flow a before c sources s world)
          (Filled environment (drawing flow a before)
            (GivenAs environment flow c a.service before) sources s world values) x
  | [], values, s, world, _, _, hs =>
    ⟨.ok values, s, world, rfl, hs, .ok (fun ⟨_, _, _, turn, _⟩ => by cases turn) filled_nil⟩
  | (first, source) :: rest, values, s, world, keyed, makers, hs => by
    -- the first source is drawn from `s`, and the others go on in the state and the world that
    -- it leaves behind; in both states the same lasts
    have first_drawn : ComesTo environment c world (drawing flow a before first source) _ :=
      comesTo_sourceValue ho (makers source List.mem_cons_self)
    obtain ⟨x, t, world', ends, same, drawn⟩ := first_drawn s hs
    show ∃ y u world'', ((sourceValue _ a before source s).bind _).finish environment world = _ ∧ _
    rw [Task.finish_bind, ends]
    cases x with
    | error e =>
      exact ⟨.error e, t, world', rfl, same, .error ⟨first, source, world, .now, drawn.of_error⟩⟩
    | ok v =>
      obtain ⟨readable, given⟩ := drawn.of_ok
      obtain ⟨y, u, world'', others, lasts, settled⟩ := exists_finish_sourceValues rest
        (values.insert first v) t world' (List.nodup_cons.mp keyed).2
        (fun source hm => makers source (List.mem_cons_of_mem _ hm)) same
      refine ⟨y, u, world'', others, lasts, settled.imp ⟨?_, ?_⟩ fun result filled => ?_⟩
      · rintro ⟨name, source, later, turn, bad⟩
        exact ⟨name, source, later, .later ends turn, bad⟩
      · rintro ⟨name, source, later, turn, bad⟩
        rcases (turn_cons_iff ends).mp turn with ⟨rfl, rfl, rfl⟩ | turn
        · exact absurd bad readable
        · exact ⟨name, source, later, turn, bad⟩
      · refine filled.cons keyed ends ⟨v, Dict.get?_insert_self .., given⟩ fun name hn => ?_
        exact Dict.get?_insert_of_ne _ _ hn

/-- **Dynamic parameters are drawn in turn, and never fail**; each has its value, or none. -/
theorem exists_finish_dynamicValues :
    ∀ (ps : Dict DynamicParameter) (values : Dict Json) (s : State) (world : ω),
      Dict.Keyed ps → (∀ name ∈ ps.keys, values.get? name = none) →
      (∀ p ∈ ps.values, ∀ source ∈ p.source?, ∀ k, source.maker? = some k → MakerAt flow k) →
      s.lasting = c.lasting →
      ∃ result t world', (dynamicValues (maker (execute flow)) a before ps values s).finish
          environment world = (some (.ok result, t), world')
        ∧ t.lasting = c.lasting
        ∧ Filled environment (dynamicValue (maker (execute flow)) a before)
            (fun world p => DynamicallyGiven environment flow c world a.service before p.source?)
            ps s world values result
  | [], values, s, world, _, _, _, hs => ⟨values, s, world, rfl, hs, filled_nil⟩
  | (first, p) :: rest, values, s, world, keyed, unset, makers, hs => by
    obtain ⟨fresh, keyed'⟩ := List.nodup_cons.mp keyed
    -- what the parameter comes to, a value or none, is known before it is written
    have first_drawn : ComesTo environment c world
        (dynamicValue (maker (execute flow)) a before first p) _ :=
      comesTo_dynamicValue ho first (makers p List.mem_cons_self)
    obtain ⟨_, t, world', ends, same, v?, rfl, given⟩ := first_drawn s hs
    show ∃ y u world'', ((dynamicValue _ a before first p s).bind _).finish environment world = _
      ∧ _
    rw [Task.finish_bind, ends]
    -- whether there is a value or not, the others go on from what is found then
    have others (values' : Dict Json) (head : values'.get? first = v?)
        (others : ∀ name, name ≠ first → values'.get? name = values.get? name) :
        ∃ result u world'', (dynamicValues (maker (execute flow)) a before rest values' t).finish
            environment world' = (some (.ok result, u), world'')
          ∧ u.lasting = c.lasting
          ∧ Filled environment (dynamicValue (maker (execute flow)) a before)
              (fun world p =>
                DynamicallyGiven environment flow c world a.service before p.source?)
              ((first, p) :: rest) s world values result := by
      have unset' (name : String) (hn : name ∈ Dict.keys rest) : values'.get? name = none := by
        rw [others name fun h => fresh (h ▸ hn)]
        exact unset name (List.mem_cons_of_mem _ hn)
      obtain ⟨result, u, world'', rest, lasts, filled⟩ := exists_finish_dynamicValues rest values' t
        world' keyed' unset' (fun p hm => makers p (List.mem_cons_of_mem _ hm)) same
      exact ⟨result, u, world'', rest, lasts, filled.cons keyed ends (head ▸ given) others⟩
    cases v? with
    | none => exact others values (unset first List.mem_cons_self) fun _ _ => rfl
    | some v =>
      exact others (values.insert first v) (Dict.get?_insert_self ..)
        fun name hn => Dict.get?_insert_of_ne _ _ hn

end Drawing

/-! ## §3. Parameters and request bodies. -/

/-- The failures of drawing from sources are contained: it fails if and only if one of them is an
unreadable file when its turn comes; if no answer makes a file readable or unreadable, that means
that one of them is such a file at the start.  Without a failure each part is the value of its
source, drawn when its turn came. -/
structure Contained (environment : Task.Environment ω) (flow : Flow) (a : Activity)
    (before : Inherited) (s : State) (world : ω) (sources : Dict Source) {α : Type}
    (part : α → String → Option Json) (x : Except ExecutionError α) : Prop where
  fails_iff : (∃ e, x = .error e) ↔ UnreadableInTurn environment flow a before s sources s world
  fails_iff_of_keepsFiles : KeepsFiles environment → ((∃ e, x = .error e)
    ↔ ∃ source ∈ sources.values, Unreadable (answersIn environment world) s a.service source)
  given : ∀ result, x = .ok result → ∀ name source, (name, source) ∈ sources → ∃ world',
    Turn environment (drawing flow a before) sources s world name source world'
      ∧ GivenAs environment flow s a.service before world' source (part result name)

section Whole

variable {s : State} {sources : Dict Source} {source source' : Source} {world' : ω}

/-- As long as the same files can be read the same sources are unreadable. -/
theorem unreadable_congr (same : SameFiles environment world world') :
    Unreadable (answersIn environment world') s service source
      ↔ Unreadable (answersIn environment world) s service source := by
  cases source <;> simp only [Unreadable, UnreadableInput, same _ _]

theorem contained_of_settles {α : Type} {part : α → String → Option Json}
    {x : Except ExecutionError α}
    (h : Settles (UnreadableInTurn environment flow a before s sources s world)
      (fun result => ∀ name source, (name, source) ∈ sources → ∃ world',
        Turn environment (drawing flow a before) sources s world name source world'
          ∧ GivenAs environment flow s a.service before world' source (part result name)) x) :
    Contained environment flow a before s world sources part x where
  fails_iff := h.fails_iff
  given := h.good
  fails_iff_of_keepsFiles keeps := by
    constructor
    · intro failed
      obtain ⟨name, source, world', turn, bad⟩ := h.fails_iff.mp failed
      refine ⟨source, List.mem_map_of_mem turn.mem, ?_⟩
      exact (unreadable_congr (turn.sameFiles keeps)).mp bad
    · rintro ⟨source, hs, bad⟩
      cases x with
      | error e => exact ⟨e, rfl⟩
      | ok result =>
        -- its turn came, and it was as unreadable then
        obtain ⟨⟨name, source⟩, hm, rfl⟩ := List.mem_map.mp hs
        obtain ⟨world', turn, _⟩ := h.of_ok.2 name source hm
        have bad := (unreadable_congr (turn.sameFiles keeps)).mpr bad
        exact absurd ⟨name, source, world', turn, bad⟩ h.of_ok.1

/-- The values of static parameters are in place before those of dynamic ones; these come in
turn. -/
def DynamicTurn (environment : Task.Environment ω) (flow : Flow) (a : Activity)
    (before : Inherited) (s : State) (world : ω) (name : String) (p : DynamicParameter)
    (world'' : ω) : Prop :=
  ∃ values t world', (sourceValues (maker (execute flow)) a before a.parameters [] s).finish
      environment world = (some (.ok values, t), world')
    ∧ Turn environment (dynamicValue (maker (execute flow)) a before) a.dynamicParameters t world'
      name p world''

/-- The sources of a request body by the names of its parts, or of the whole of it. -/
def bodyParts (a : Activity) : Dict Source :=
  match a.requestBody.get? wholeBody with
  | some source => [(wholeBody, source)]
  | none => a.requestBody

/-- The part of a request body under a name, or the whole of it. -/
def bodyPart (a : Activity) (body : Option Json) (name : String) : Option Json :=
  match a.requestBody.get? wholeBody with
  | some _ => body
  | none => (body.bind Json.members?).bind fun members => members.get? name

theorem bodyParts_of_whole (h : a.requestBody.get? wholeBody = some source) :
    bodyParts a = [(wholeBody, source)] := by
  rw [bodyParts, h]

theorem bodyParts_of_parts (h : a.requestBody.get? wholeBody = none) :
    bodyParts a = a.requestBody := by
  rw [bodyParts, h]

theorem bodyPart_of_whole (h : a.requestBody.get? wholeBody = some source) (body : Option Json)
    (name : String) : bodyPart a body name = body := by
  rw [bodyPart, h]

theorem bodyPart_of_parts (h : a.requestBody.get? wholeBody = none) (members : Dict Json)
    (name : String) : bodyPart a (some (.object members)) name = members.get? name := by
  rw [bodyPart, h]
  rfl

/-- Where the whole of a body has a source its turn is at once. -/
theorem turn_whole_iff {name : String} :
    Turn environment (drawing flow a before) [(wholeBody, source)] s world name source' world'
      ↔ name = wholeBody ∧ source' = source ∧ world' = world := by
  constructor
  · intro turn
    cases turn with
    | now => exact ⟨rfl, rfl, rfl⟩
    | later _ after => cases after
  · rintro ⟨rfl, rfl, rfl⟩
    exact .now

/-- The whole of a body is drawn like any other value. -/
theorem comesTo_requestBody (ho : Orderly flow) (h : a.requestBody.get? wholeBody = some source)
    (makers : ∀ k, source.maker? = some k → MakerAt flow k) :
    ComesTo environment c world (requestBody (maker (execute flow)) a before)
      (Settles (Unreadable (answersIn environment world) c a.service source)
        (GivenAs environment flow c a.service before world source)) := by
  have value : ComesTo environment c world
      (sourceValue (maker (execute flow)) a before source >>= fun v => Pure.pure (some v))
      (Settles (Unreadable (answersIn environment world) c a.service source)
        (GivenAs environment flow c a.service before world source)) := by
    refine (comesTo_sourceValue ho makers).bind (fun v _ h => ?_) fun e h => ?_
    · exact comesTo_pure (.ok h.of_ok.1 ⟨v, rfl, h.of_ok.2⟩)
    · exact .error h.of_error
  have filled : a.requestBody.isEmpty = false := by
    rw [List.isEmpty_eq_false_iff_exists_mem]
    exact ⟨_, Dict.mem_of_get? h⟩
  unfold requestBody
  rw [filled, h]
  by_cases more : 1 < a.requestBody.length
  · simp only [if_pos more]
    exact value.after_note _
  · simp only [if_neg more]
    exact value

variable {m : Materials} {page : Document.Page} {process : Document.Process} {place : Nat}
  (hb : IsBuilt m page process flow) (ha : flow.arena[place]? = some a)
include hb ha

/-- Each part of a request body has one source. -/
theorem keyed_requestBody : Dict.Keyed a.requestBody := by
  rcases a.own_or_unmapped with ⟨strategy, hs, own⟩ | none_own
  · have mapped := (hb.ownMapped ha hs own).body
    unfold Dict.Keyed
    rw [← Dict.Related.keys_eq mapped]
    split
    · exact Dict.keyed_ofList _
    · exact Dict.keyed_nil
  · rw [(hb.unmapped ha none_own).requestBody]
    exact Dict.keyed_nil

theorem makerAt_of_mem_sources (hs : source ∈ a.sources) (k : Nat)
    (hk : source.maker? = some k) : MakerAt flow k :=
  makerAt_of_mem_makers hb.orderly ha (Activity.mem_makers_of_source hs hk)

/-- **The failures of parameters are contained.** -/
theorem exists_finish_parameterValues (before : Inherited) (environment : Task.Environment ω)
    (s : State) (world : ω) :
    ∃ x t world', (parameterValues (maker (execute flow)) a before s).finish environment world
        = (some (x, t), world')
      ∧ Contained environment flow a before s world a.parameters (fun values => values.get?) x
      ∧ ∀ values, x = .ok values → ∀ name p, (name, p) ∈ a.dynamicParameters → ∃ world'',
          DynamicTurn environment flow a before s world name p world''
            ∧ DynamicallyGiven environment flow s world'' a.service before p.source?
              (values.get? name) := by
  have distinct := hb.distinct ha
  obtain ⟨x, t, world', ends, same, settled⟩ :=
    exists_finish_sourceValues environment before hb.orderly
      a.parameters [] s world distinct.parameters
      (fun source hs => makerAt_of_mem_sources hb ha (Activity.mem_sources_of_parameter hs)) rfl
  show ∃ y u world'', ((sourceValues _ a before a.parameters [] s).bind _).finish environment world
    = _ ∧ _
  rw [Task.finish_bind, ends]
  cases x with
  | error e =>
    refine ⟨.error e, t, world', rfl, ?_, fun values h => by contradiction⟩
    exact contained_of_settles (.error settled.of_error)
  | ok values =>
    obtain ⟨readable, fixed⟩ := settled.of_ok
    -- no name is both static and dynamic, so the dynamic ones overwrite nothing
    have apart (name : String) (hn : name ∈ a.dynamicParameters.keys) :
        name ∉ a.parameters.keys := by
      rw [Dict.mem_keys_iff, distinct.apart name hn]
      exact Bool.false_ne_true
    have unset (name : String) (hn : name ∈ a.dynamicParameters.keys) : values.get? name = none :=
      fixed.others name (apart name hn)
    have makers (p : DynamicParameter) (hp : p ∈ a.dynamicParameters.values) (source : Source)
        (hs : source ∈ p.source?) (k : Nat) (hk : source.maker? = some k) : MakerAt flow k :=
      makerAt_of_mem_sources hb ha (Activity.mem_sources_of_dynamic hp hs) k hk
    obtain ⟨result, u, world'', dynamics, -, filled⟩ :=
      exists_finish_dynamicValues environment before hb.orderly
        a.dynamicParameters values t world' distinct.dynamicParameters unset makers same
    refine ⟨.ok result, u, world'', dynamics, contained_of_settles (.ok readable ?_), ?_⟩
    · intro name source hm
      obtain ⟨later, turn, given⟩ := fixed.under name source hm
      have kept : result.get? name = values.get? name :=
        filled.others name fun hn => apart name hn (List.mem_map_of_mem hm)
      exact ⟨later, turn, kept ▸ given⟩
    · intro _ same name p hm
      obtain rfl := Except.ok.inj same
      obtain ⟨later, turn, given⟩ := filled.under name p hm
      exact ⟨later, ⟨values, t, world', ends, turn⟩, given⟩

/-- **The failures of request bodies are contained.** -/
theorem exists_finish_requestBody (before : Inherited) (environment : Task.Environment ω)
    (s : State) (world : ω) :
    ∃ x t world', (requestBody (maker (execute flow)) a before s).finish environment world
        = (some (x, t), world')
      ∧ Contained environment flow a before s world (bodyParts a) (bodyPart a) x := by
  cases hw : a.requestBody.get? wholeBody with
  | some source =>
    have makers := makerAt_of_mem_sources hb ha (Activity.mem_sources_of_whole hw)
    have drawn : ComesTo environment s world (requestBody (maker (execute flow)) a before) _ :=
      comesTo_requestBody hb.orderly hw makers
    obtain ⟨x, t, world', ends, -, settled⟩ := drawn s rfl
    refine ⟨x, t, world', ends, contained_of_settles (settled.imp ?_ ?_)⟩
    · rw [bodyParts_of_whole hw]
      constructor
      · exact fun bad => ⟨_, _, _, turn_whole_iff.mpr ⟨rfl, rfl, rfl⟩, bad⟩
      · rintro ⟨_, _, _, turn, bad⟩
        obtain ⟨-, rfl, rfl⟩ := turn_whole_iff.mp turn
        exact bad
    · intro body given name source' hm
      rw [bodyParts_of_whole hw] at hm ⊢
      obtain ⟨rfl, rfl⟩ := Prod.mk.inj (List.mem_singleton.mp hm)
      rw [bodyPart_of_whole hw]
      exact ⟨world, .now, given⟩
  | none =>
    rw [bodyParts_of_parts hw]
    unfold requestBody
    by_cases empty : a.requestBody = []
    · rw [empty]
      refine ⟨.ok none, s, world, rfl, contained_of_settles ?_⟩
      exact .ok (fun ⟨_, _, _, turn, _⟩ => by cases turn) fun _ _ h => by contradiction
    have isEmpty : a.requestBody.isEmpty = false := by simpa using empty
    rw [isEmpty, hw]
    obtain ⟨x, t, world', ends, -, settled⟩ :=
      exists_finish_sourceValues environment before hb.orderly
        a.requestBody [] s world (keyed_requestBody hb ha)
        (fun source hs => makerAt_of_mem_sources hb ha (Activity.mem_sources_of_part hw hs)) rfl
    show ∃ y u world'', ((sourceValues _ a before a.requestBody [] s).bind _).finish environment
      world = _ ∧ _
    rw [Task.finish_bind, ends]
    cases x with
    | error e =>
      exact ⟨.error e, t, world', rfl, contained_of_settles (.error settled.of_error)⟩
    | ok values =>
      obtain ⟨readable, filled⟩ := settled.of_ok
      refine ⟨.ok (some (.object values)), t, world', rfl, contained_of_settles (.ok readable ?_)⟩
      intro name source hm
      rw [bodyPart_of_parts hw]
      exact filled.under name source hm

/-- **Parameter failures are contained.**  Whatever the state, the results before an activity of a
built flow and the answers of the outside world, its parameters and its request body are drawn to
an end.  The parameters fail if and only if one of the static ones is an input with a selected file
that cannot be read as the input wants it; the body fails if and only if that is so for its whole,
or for one of its parts if there is no whole.  Else a static parameter or a part has the value of
its source, and a dynamic one too, if it has a source that does not fail; `null` stands for what
is missing, and for what a maker fails to make. -/
theorem only_unreadable_files_fail (before : Inherited) (environment : Task.Environment ω)
    (s : State) (world : ω) :
    (∃ x t world', (parameterValues (maker (execute flow)) a before s).finish environment world
        = (some (x, t), world')
      ∧ Contained environment flow a before s world a.parameters (fun values => values.get?) x
      ∧ ∀ values, x = .ok values → ∀ name p, (name, p) ∈ a.dynamicParameters → ∃ world'',
          DynamicTurn environment flow a before s world name p world''
            ∧ DynamicallyGiven environment flow s world'' a.service before p.source?
              (values.get? name))
    ∧ ∃ x t world', (requestBody (maker (execute flow)) a before s).finish environment world
        = (some (x, t), world')
      ∧ Contained environment flow a before s world (bodyParts a) (bodyPart a) x :=
  ⟨exists_finish_parameterValues hb ha before environment s world,
    exists_finish_requestBody hb ha before environment s world⟩

end Whole

/-! ## §4. The desk. -/

open Pageflow.Flow (deskFlow deskFlow_isBuilt deskMaterials deskPage deskProcess)

/-- Nothing is there. -/
def refuses : Answers
  | .call _ _ => .error (.failed "")
  | .send _ => .error (.network "")
  | .fileBytes _ => .error .notFound
  | .fileSize _ => .error .notFound
  | .fetch _ => .error ""

/-- Whoever answers like this. -/
def refusing : Task.Environment Unit := fun q world => (refuses q, world)

/-- To file a paper fails if its scan cannot be read; without a scan there is `null` for it. -/
theorem only_unreadable_files_fail_desk : ∃ a, deskFlow.arena[0]? = some a
    ∧ IsBuilt deskMaterials deskPage deskProcess deskFlow ∧ KeepsFiles refusing
    ∧ (∃ e t, (parameterValues (maker (execute deskFlow)) a {} deskState).finish refusing ()
        = (some (.error e, t), ()))
    ∧ ∃ values t, (parameterValues (maker (execute deskFlow)) a {} (initial deskFlow)).finish
        refusing () = (some (.ok values, t), ())
      ∧ values.get? "scan" = some .null := by
  have place : (deskFlow.arena[0]?).map (fun a => (a.service, a.parameters)) = some ("desk",
      [("title", .constant (.integer 0)), ("owner", .input "user"), ("place", .input "shelf"),
        ("note", .input "note"), ("scan", .fileInput "scan")]) := by
    decide +kernel
  obtain ⟨a, ha, here⟩ := Option.map_eq_some_iff.mp place
  obtain ⟨service, parameters⟩ := Prod.mk.inj here
  have keeps : KeepsFiles refusing := fun _ _ _ _ => Iff.rfl
  refine ⟨a, ha, deskFlow_isBuilt, keeps, ?_, ?_⟩
  · obtain ⟨⟨x, t, _, ends, contained, -⟩, -⟩ :=
      only_unreadable_files_fail deskFlow_isBuilt ha {} refusing deskState ()
    have scan : deskState.input? "desk" "scan" = some ⟨"desk", "scan", .file {}⟩
        ∧ deskState.file? "desk" "scan" = some "paper" := by
      decide +kernel
    have bad : Unreadable (answersIn refusing ()) deskState a.service (.fileInput "scan") := by
      refine service ▸ ⟨_, _, "paper", scan.1, rfl, scan.2, ?_⟩
      rintro ⟨bytes, read, -⟩
      contradiction
    obtain ⟨e, rfl⟩ := (contained.fails_iff_of_keepsFiles keeps).mpr
      ⟨_, parameters ▸ by simp [Dict.values], bad⟩
    exact ⟨e, t, ends⟩
  · obtain ⟨⟨x, t, _, ends, contained, -⟩, -⟩ :=
      only_unreadable_files_fail deskFlow_isBuilt ha {} refusing (initial deskFlow) ()
    have none_selected (service name : String) : (initial deskFlow).file? service name = none :=
      rfl
    have scan : (initial deskFlow).input? "desk" "scan" = some ⟨"desk", "scan", .file {}⟩ := by
      decide +kernel
    cases x with
    | error e =>
      obtain ⟨source, -, bad⟩ := (contained.fails_iff_of_keepsFiles keeps).mp ⟨e, rfl⟩
      cases source with
      | input name | fileInput name =>
        obtain ⟨i, _, _, _, _, selected, _⟩ := bad
        rw [none_selected] at selected
        contradiction
      | _ => exact bad.elim
    | ok values =>
      obtain ⟨_, -, v, hv, given⟩ := contained.given values rfl "scan" (.fileInput "scan")
        (parameters ▸ by simp)
      refine ⟨values, t, ends, ?_⟩
      rw [hv, given.missing (.inr ⟨_, _, service ▸ scan, rfl, none_selected _ _⟩)]

end Pageflow.Run
