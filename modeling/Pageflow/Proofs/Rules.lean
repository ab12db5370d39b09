/-
  Pageflow.Proofs.Rules — what the validator of process documents decides.

  The rules are stated on the document itself, without places and without an order: for every
  activity of the process, every parameter, every sequence and every bridge of a service.  The
  activities and parameters of a process are defined by the ways in which one stands in it.

  The validator reports nothing if and only if all of that holds.  By `Proofs.Nodes` it reports
  the nodes of the tree that break a rule; what remains is that the tree has the activities,
  parameters, sequences and bridges of the process and no others.  That is one invariant of going
  from a node to its parts (`PartOf.part`), and for each kind of node the way to it.

  Main definitions: `Process.HasActivity`, `Process.HasParameter` and `Process.Obeys`.
  Main statement: `validateProcess_eq_nil_iff`.
-/
import Pageflow.Proofs.Nodes

namespace Pageflow.Document

/-! ## §1. What a process has -/

/-- The activities of a process, at any depth. -/
inductive Process.HasActivity (p : Process) : Activity → Prop
  /-- An activity of a service. -/
  | ofService {service name : String} {s : Service} {a : Activity}
      (declared : (service, s) ∈ p.services) (entry : (name, a) ∈ s.activities) :
      HasActivity p a
  /-- An activity of the process itself. -/
  | ofCommon {name : String} {a : Activity}
      (entry : (name, .definition a) ∈ p.common.activities) : HasActivity p a
  /-- A sub-activity of a reference. -/
  | ofReference {reference name : String} {r : Reference} {a : Activity}
      (declared : (reference, .reference r) ∈ p.common.activities)
      (entry : (name, a) ∈ r.subActivities) : HasActivity p a
  /-- A sub-activity of an activity. -/
  | inside {name : String} {a b : Activity} (outer : HasActivity p a)
      (entry : (name, b) ∈ a.subActivities) : HasActivity p b

/-- The shared parameters of a process. -/
inductive Process.HasShared (p : Process) : SharedParameter → Prop
  | ofService {service name : String} {s : Service} {q : SharedParameter}
      (declared : (service, s) ∈ p.services) (entry : (name, q) ∈ s.parameters) : HasShared p q
  | ofCommon {name : String} {q : SharedParameter}
      (entry : (name, q) ∈ p.common.parameters) : HasShared p q

/-- The definitions of parameters of a process, through any nesting of generated values. -/
inductive Process.HasParameter (p : Process) : Parameter → Prop
  /-- A parameter of an activity. -/
  | ofActivity {name : String} {a : Activity} {q : Parameter} (activity : p.HasActivity a)
      (entry : (name, q) ∈ a.parameters) : HasParameter p q
  /-- A member of the request body of an activity. -/
  | ofBody {name : String} {a : Activity} {body : Dict Parameter} {q : Parameter}
      (activity : p.HasActivity a) (given : a.requestBody = some body)
      (entry : (name, q) ∈ body) : HasParameter p q
  /-- A shared definition. -/
  | ofShared {q : Parameter} (shared : p.HasShared (.definition q)) : HasParameter p q
  /-- A parameter of an activity that makes a value. -/
  | generated {name : String} {q r : Parameter} {g : Generate} (outer : HasParameter p q)
      (given : q.generate = some g) (entry : (name, r) ∈ g.parameters) : HasParameter p r

/-- The sequences of a process. -/
inductive Process.HasSequence (p : Process) : Sequence → Prop
  | ofService {service name : String} {s : Service} {q : Sequence}
      (declared : (service, s) ∈ p.services) (entry : (name, q) ∈ s.sequences) : HasSequence p q
  | ofCommon {name : String} {q : Sequence}
      (entry : (name, q) ∈ p.common.sequences) : HasSequence p q

/-- The bridges of the services of a process. -/
inductive Process.HasBinding (p : Process) : Binding → Prop
  | ofService {service : String} {s : Service} {b : Binding}
      (declared : (service, s) ∈ p.services) (given : s.bridge = some b) : HasBinding p b

/-! ## §2. The rules -/

/-- Exactly one of two optional texts is given. -/
def ExactlyOne (a b : Option String) : Prop := a ≠ none ∧ b = none ∨ a = none ∧ b ≠ none

/-- The text has a character that is not white space. -/
def NotBlank (s : String) : Prop := ∃ c ∈ s.toList, Char.isBlank c = false

/-- What is asked of an activity. -/
structure Activity.Obeys (a : Activity) : Prop where
  execution : ExactlyOne a.bridgeCapability a.moduleFunction
  storeResult : ∀ target, a.storeResult = some target → NotBlank target.key
  required : ∀ r ∈ a.requiredActivities, NotBlank r.activityName

/-- What is asked of a parameter. -/
structure Parameter.Obeys (q : Parameter) : Prop where
  store : ∀ target, q.store = some target → NotBlank target.key
  generate : ∀ g, q.generate = some g → ExactlyOne g.bridgeCapability g.moduleFunction

/-- What is asked of a capability: a target, and a selector that names the operation by its
identifier or by path and method. -/
structure Capability.Obeys (c : Capability) : Prop where
  target : c.operation ≠ none ∨ c.functionName ≠ none
  selector : ∀ s, c.operation = some s → s.operationId ≠ none ∨ s.path ≠ none ∧ s.method ≠ none

/-- What is asked of a bridge document. -/
structure Bridge.Obeys (b : Bridge) : Prop where
  backend : b.execute.openApi ≠ none ∨ b.execute.openApiUri ≠ none
    ∨ b.execute.clientModuleUri ≠ none
  capabilities : ∀ name c, (name, c) ∈ b.capabilities → c.Obeys

/-- What is asked of the bridge of a service. -/
structure Binding.Obeys (b : Binding) : Prop where
  source : b.source.uri ≠ none ∨ b.source.inline ≠ none
  inline : ∀ document, b.source.inline = some document → document.Obeys

/-- What is asked of a process document. -/
structure Process.Obeys (p : Process) : Prop where
  activities : ∀ a, p.HasActivity a → a.Obeys
  parameters : ∀ q, p.HasParameter q → q.Obeys
  sequences : ∀ s, p.HasSequence s → s.activities ≠ []
  bindings : ∀ b, p.HasBinding b → b.Obeys

/-! ## §3. The tree of a process -/

namespace Node

/-- What a node of the tree of a process is to the process. -/
def PartOf (p : Process) : Node → Prop
  | .process q => q = p
  | .service s => ∃ name, (name, s) ∈ p.services
  | .shared q => p.HasShared q
  | .commonActivity a => ∃ name, (name, a) ∈ p.common.activities
  | .activity a => p.HasActivity a
  | .parameter q => p.HasParameter q
  | .generate g => ∃ q, p.HasParameter q ∧ q.generate = some g
  | .sequence s => p.HasSequence s
  | .binding b => p.HasBinding b
  | .bridgeOrigin o => ∃ b, p.HasBinding b ∧ b.source = o
  | .bridge d => ∃ b, p.HasBinding b ∧ b.source.inline = some d
  | .backend e => ∃ b d, p.HasBinding b ∧ b.source.inline = some d ∧ d.execute = e
  | .capability c =>
    ∃ b d name, p.HasBinding b ∧ b.source.inline = some d ∧ (name, c) ∈ d.capabilities
  | .selector s => ∃ b d name c, p.HasBinding b ∧ b.source.inline = some d
    ∧ (name, c) ∈ d.capabilities ∧ c.operation = some s
  | .text s => (∃ a target, p.HasActivity a ∧ a.storeResult = some target ∧ target.key = s)
    ∨ (∃ a r, p.HasActivity a ∧ r ∈ a.requiredActivities ∧ r.activityName = s)
    ∨ ∃ q target, p.HasParameter q ∧ q.store = some target ∧ target.key = s
  | .texts l => ∃ s, p.HasSequence s ∧ s.activities = l
  | .page _ | .pageService _ | .processOrigin _ => False

variable {p : Process}

/-- A part of something in the process is in the process, as what it is. -/
theorem PartOf.part {n m : Node} {place : List String} (h : n.PartOf p)
    (part : (place, m) ∈ n.parts) : m.PartOf p := by
  cases n with
  | page | pageService | processOrigin => exact h.elim
  | backend | selector | text | texts => exact absurd part List.not_mem_nil
  | process q =>
    obtain rfl : q = p := h
    simp only [parts, List.mem_append, mem_entries] at part
    obtain ((⟨name, a, entry, -, rfl⟩ | ⟨name, a, entry, -, rfl⟩) | ⟨name, a, entry, -, rfl⟩)
      | ⟨name, a, entry, -, rfl⟩ := part
    · exact ⟨name, entry⟩
    · exact ⟨name, entry⟩
    · exact .ofCommon entry
    · exact .ofCommon entry
  | service s =>
    obtain ⟨service, declared⟩ := h
    simp only [parts, List.mem_append, mem_entries, mem_single] at part
    obtain ((⟨name, a, entry, -, rfl⟩ | ⟨name, a, entry, -, rfl⟩) | ⟨name, a, entry, -, rfl⟩)
      | ⟨b, given, -, rfl⟩ := part
    · exact .ofService declared entry
    · exact .ofService declared entry
    · exact .ofService declared entry
    · exact .ofService declared given
  | shared q =>
    cases q with
    | field name => exact absurd part List.not_mem_nil
    | definition q =>
      obtain ⟨-, rfl⟩ := Prod.mk.inj (List.mem_singleton.mp part)
      exact .ofShared h
  | commonActivity a =>
    obtain ⟨reference, declared⟩ := h
    cases a with
    | definition a =>
      obtain ⟨-, rfl⟩ := Prod.mk.inj (List.mem_singleton.mp part)
      exact .ofCommon declared
    | reference r =>
      obtain ⟨name, a, entry, -, rfl⟩ := mem_entries.mp part
      exact .ofReference declared entry
  | activity a =>
    simp only [parts, List.mem_append, mem_entries, mem_single, mem_requiredNames] at part
    obtain (((⟨target, given, -, rfl⟩ | ⟨i, r, at_i, -, rfl⟩) | ⟨name, q, entry, -, rfl⟩)
      | ⟨name, q, entry, -, rfl⟩) | ⟨name, b, entry, -, rfl⟩ := part
    · exact .inl ⟨a, target, h, given, rfl⟩
    · exact .inr (.inl ⟨a, r, h, List.mem_of_getElem? at_i, rfl⟩)
    · exact .ofActivity h entry
    -- without a request body there are no members of one
    · cases given : a.requestBody with
      | none => simp [given] at entry
      | some body => exact .ofBody h given (by simpa [given] using entry)
    · exact .inside h entry
  | parameter q =>
    simp only [parts, List.mem_append, mem_single] at part
    obtain ⟨target, given, -, rfl⟩ | ⟨g, given, -, rfl⟩ := part
    · exact .inr (.inr ⟨q, target, h, given, rfl⟩)
    · exact ⟨q, h, given⟩
  | generate g =>
    obtain ⟨q, has, given⟩ := h
    obtain ⟨name, r, entry, -, rfl⟩ := mem_entries.mp part
    exact .generated has given entry
  | sequence s =>
    obtain ⟨-, rfl⟩ := Prod.mk.inj (List.mem_singleton.mp part)
    exact ⟨s, h, rfl⟩
  | binding b =>
    obtain ⟨-, rfl⟩ := Prod.mk.inj (List.mem_singleton.mp part)
    exact ⟨b, h, rfl⟩
  | bridgeOrigin o =>
    obtain ⟨b, has, rfl⟩ := h
    obtain ⟨d, given, -, rfl⟩ := mem_single.mp part
    exact ⟨b, has, given⟩
  | bridge d =>
    obtain ⟨b, has, given⟩ := h
    simp only [parts, List.mem_cons, mem_entries, Prod.mk.injEq] at part
    obtain ⟨-, rfl⟩ | ⟨name, c, entry, -, rfl⟩ := part
    · exact ⟨b, d, has, given, rfl⟩
    · exact ⟨b, d, name, has, given, entry⟩
  | capability c =>
    obtain ⟨b, d, name, has, given, entry⟩ := h
    obtain ⟨s, named, -, rfl⟩ := mem_single.mp part
    exact ⟨b, d, name, c, has, given, entry, named⟩

/-- Whatever stands in the tree below a node of the process is in the process. -/
theorem PartOf.holds {n m : Node} {place : List String} (h : n.PartOf p)
    (holds : n.Holds place m) : m.PartOf p := by
  induction holds with
  | here => exact h
  | inside part _ ih => exact ih (h.part part)

/-- The node stands somewhere in the tree of the process. -/
def StandsIn (p : Process) (n : Node) : Prop := ∃ place, (Node.process p).Holds place n

theorem StandsIn.part {n m : Node} {place : List String} (h : n.StandsIn p)
    (part : (place, m) ∈ n.parts) : m.StandsIn p := by
  obtain ⟨outer, holds⟩ := h
  exact ⟨outer ++ place, holds.trans (.of_part part)⟩

theorem standsIn_process : (Node.process p).StandsIn p := ⟨[], .here _⟩

theorem standsIn_service {name : String} {s : Service} (declared : (name, s) ∈ p.services) :
    (Node.service s).StandsIn p :=
  standsIn_process.part (List.mem_append_left _ (List.mem_append_left _
    (List.mem_append_left _ (mem_entries.mpr ⟨name, s, declared, rfl, rfl⟩))))

theorem standsIn_commonActivity {name : String} {a : CommonActivity}
    (entry : (name, a) ∈ p.common.activities) : (Node.commonActivity a).StandsIn p :=
  standsIn_process.part (List.mem_append_left _ (List.mem_append_left _
    (List.mem_append_right _ (mem_entries.mpr ⟨name, a, entry, rfl, rfl⟩))))

theorem standsIn_activity {a : Activity} (h : p.HasActivity a) : (Node.activity a).StandsIn p := by
  induction h with
  | ofService declared entry =>
    exact (standsIn_service declared).part (List.mem_append_left _ (List.mem_append_left _
      (List.mem_append_left _ (mem_entries.mpr ⟨_, _, entry, rfl, rfl⟩))))
  | ofCommon entry => exact (standsIn_commonActivity entry).part List.mem_cons_self
  | ofReference declared entry =>
    exact (standsIn_commonActivity declared).part (mem_entries.mpr ⟨_, _, entry, rfl, rfl⟩)
  | inside _ entry ih =>
    exact ih.part (List.mem_append_right _ (mem_entries.mpr ⟨_, _, entry, rfl, rfl⟩))

theorem standsIn_shared {q : SharedParameter} (h : p.HasShared q) :
    (Node.shared q).StandsIn p := by
  cases h with
  | ofService declared entry =>
    exact (standsIn_service declared).part (List.mem_append_left _ (List.mem_append_right _
      (mem_entries.mpr ⟨_, _, entry, rfl, rfl⟩)))
  | ofCommon entry =>
    exact standsIn_process.part (List.mem_append_right _ (mem_entries.mpr ⟨_, _, entry, rfl, rfl⟩))

theorem standsIn_generate {q : Parameter} {g : Generate} (outer : (Node.parameter q).StandsIn p)
    (given : q.generate = some g) : (Node.generate g).StandsIn p :=
  outer.part (List.mem_append_right _ (mem_single.mpr ⟨g, given, rfl, rfl⟩))

theorem standsIn_parameter {q : Parameter} (h : p.HasParameter q) :
    (Node.parameter q).StandsIn p := by
  induction h with
  | ofActivity activity entry =>
    exact (standsIn_activity activity).part (List.mem_append_left _ (List.mem_append_left _
      (List.mem_append_right _ (mem_entries.mpr ⟨_, _, entry, rfl, rfl⟩))))
  | @ofBody name a body q activity given entry =>
    have member : (name, q) ∈ a.requestBody.getD [] := by rwa [given]
    exact (standsIn_activity activity).part (List.mem_append_left _ (List.mem_append_right _
      (mem_entries.mpr ⟨_, _, member, rfl, rfl⟩)))
  | ofShared shared => exact (standsIn_shared shared).part List.mem_cons_self
  | generated _ given entry ih =>
    exact (standsIn_generate ih given).part (mem_entries.mpr ⟨_, _, entry, rfl, rfl⟩)

theorem standsIn_sequence {s : Sequence} (h : p.HasSequence s) : (Node.sequence s).StandsIn p := by
  cases h with
  | ofService declared entry =>
    exact (standsIn_service declared).part (List.mem_append_left _ (List.mem_append_left _
      (List.mem_append_right _ (mem_entries.mpr ⟨_, _, entry, rfl, rfl⟩))))
  | ofCommon entry =>
    exact standsIn_process.part (List.mem_append_left _ (List.mem_append_right _
      (mem_entries.mpr ⟨_, _, entry, rfl, rfl⟩)))

theorem standsIn_bridgeOrigin {b : Binding} (h : p.HasBinding b) :
    (Node.bridgeOrigin b.source).StandsIn p := by
  obtain ⟨declared, given⟩ := h
  have binding : (Node.binding b).StandsIn p := (standsIn_service declared).part
    (List.mem_append_right _ (mem_single.mpr ⟨b, given, rfl, rfl⟩))
  exact binding.part List.mem_cons_self

theorem standsIn_bridge {b : Binding} {d : Bridge} (h : p.HasBinding b)
    (given : b.source.inline = some d) : (Node.bridge d).StandsIn p :=
  (standsIn_bridgeOrigin h).part (mem_single.mpr ⟨d, given, rfl, rfl⟩)

/-! ## §4. Nodes that break no rule -/

/-- The node breaks no rule. -/
def Sound (n : Node) : Prop := ∀ rule, ¬ n.Breaks rule

theorem sound_text {s : String} : (Node.text s).Sound ↔ NotBlank s := by
  simp [Sound, Breaks, NotBlank, Text.isBlank]

theorem sound_texts {l : List String} : (Node.texts l).Sound ↔ l ≠ [] := by
  simp [Sound, Breaks]

theorem sound_activity {a : Activity} :
    (Node.activity a).Sound ↔ ExactlyOne a.bridgeCapability a.moduleFunction := by
  cases h : a.bridgeCapability <;> cases h' : a.moduleFunction <;>
    simp [Sound, Breaks, ExactlyOne, h, h']

theorem sound_generate {g : Generate} :
    (Node.generate g).Sound ↔ ExactlyOne g.bridgeCapability g.moduleFunction := by
  cases h : g.bridgeCapability <;> cases h' : g.moduleFunction <;>
    simp [Sound, Breaks, ExactlyOne, h, h']

theorem sound_bridgeOrigin {o : Origin Bridge} :
    (Node.bridgeOrigin o).Sound ↔ o.uri ≠ none ∨ o.inline ≠ none := by
  cases h : o.uri <;> cases h' : o.inline <;> simp [Sound, Breaks, h, h']

theorem sound_backend {b : Backend} : (Node.backend b).Sound
    ↔ b.openApi ≠ none ∨ b.openApiUri ≠ none ∨ b.clientModuleUri ≠ none := by
  cases h : b.openApi <;> cases h' : b.openApiUri <;> cases h'' : b.clientModuleUri <;>
    simp [Sound, Breaks, h, h', h'']

theorem sound_capability {c : Capability} :
    (Node.capability c).Sound ↔ c.operation ≠ none ∨ c.functionName ≠ none := by
  cases h : c.operation <;> cases h' : c.functionName <;> simp [Sound, Breaks, h, h']

theorem sound_selector {s : Selector} : (Node.selector s).Sound
    ↔ s.operationId ≠ none ∨ s.path ≠ none ∧ s.method ≠ none := by
  cases h : s.operationId <;> cases h' : s.path <;> cases h'' : s.method <;>
    simp [Sound, Breaks, h, h', h'']

/-- A process that does what is asked has only nodes that break no rule. -/
theorem PartOf.sound {n : Node} (obeys : p.Obeys) (h : n.PartOf p) : n.Sound := by
  cases n with
  | page | pageService | processOrigin => exact h.elim
  | process | service | shared | commonActivity | parameter | sequence | binding | bridge =>
    exact fun _ broken => broken.elim
  | activity a => exact sound_activity.mpr (obeys.activities a h).execution
  | generate g =>
    obtain ⟨q, has, given⟩ := h
    exact sound_generate.mpr ((obeys.parameters q has).generate g given)
  | bridgeOrigin o =>
    obtain ⟨b, has, rfl⟩ := h
    exact sound_bridgeOrigin.mpr (obeys.bindings b has).source
  | backend e =>
    obtain ⟨b, d, has, given, rfl⟩ := h
    exact sound_backend.mpr ((obeys.bindings b has).inline d given).backend
  | capability c =>
    obtain ⟨b, d, name, has, given, entry⟩ := h
    exact sound_capability.mpr
      (((obeys.bindings b has).inline d given).capabilities name c entry).target
  | selector s =>
    obtain ⟨b, d, name, c, has, given, entry, named⟩ := h
    exact sound_selector.mpr
      ((((obeys.bindings b has).inline d given).capabilities name c entry).selector s named)
  | text s =>
    obtain ⟨a, target, has, given, rfl⟩ | ⟨a, r, has, mem, rfl⟩ | ⟨q, target, has, given, rfl⟩ := h
    · exact sound_text.mpr ((obeys.activities a has).storeResult target given)
    · exact sound_text.mpr ((obeys.activities a has).required r mem)
    · exact sound_text.mpr ((obeys.parameters q has).store target given)
  | texts l =>
    obtain ⟨s, has, rfl⟩ := h
    exact sound_texts.mpr (obeys.sequences s has)

/-! ## §5. Processes whose nodes break no rule -/

section Obeying

variable (sound : ∀ n : Node, n.StandsIn p → n.Sound)
include sound

theorem obeys_activity {a : Activity} (has : p.HasActivity a) : a.Obeys where
  execution := sound_activity.mp (sound _ (standsIn_activity has))
  storeResult target given := sound_text.mp (sound _ ((standsIn_activity has).part
    (List.mem_append_left _ (List.mem_append_left _ (List.mem_append_left _
      (List.mem_append_left _ (mem_single.mpr ⟨target, given, rfl, rfl⟩)))))))
  required r mem := by
    obtain ⟨i, at_i⟩ := List.getElem?_of_mem mem
    exact sound_text.mp (sound _ ((standsIn_activity has).part
      (List.mem_append_left _ (List.mem_append_left _ (List.mem_append_left _
        (List.mem_append_right _ (mem_requiredNames.mpr ⟨i, r, at_i, rfl, rfl⟩)))))))

theorem obeys_parameter {q : Parameter} (has : p.HasParameter q) : q.Obeys where
  store target given := sound_text.mp (sound _ ((standsIn_parameter has).part
    (List.mem_append_left _ (mem_single.mpr ⟨target, given, rfl, rfl⟩))))
  generate _ given := sound_generate.mp (sound _ (standsIn_generate (standsIn_parameter has) given))

theorem obeys_capability {b : Binding} {d : Bridge} {name : String} {c : Capability}
    (has : p.HasBinding b) (given : b.source.inline = some d) (entry : (name, c) ∈ d.capabilities) :
    c.Obeys := by
  have stands : (Node.capability c).StandsIn p := (standsIn_bridge has given).part
    (List.mem_cons_of_mem _ (mem_entries.mpr ⟨name, c, entry, rfl, rfl⟩))
  refine ⟨sound_capability.mp (sound _ stands), fun s named => ?_⟩
  exact sound_selector.mp (sound _ (stands.part (mem_single.mpr ⟨s, named, rfl, rfl⟩)))

theorem obeys_binding {b : Binding} (has : p.HasBinding b) : b.Obeys where
  source := sound_bridgeOrigin.mp (sound _ (standsIn_bridgeOrigin has))
  inline _ given :=
    { backend := sound_backend.mp (sound _ ((standsIn_bridge has given).part List.mem_cons_self))
      capabilities := fun _ _ entry => obeys_capability sound has given entry }

theorem obeys_process : p.Obeys where
  activities _ has := obeys_activity sound has
  parameters _ has := obeys_parameter sound has
  sequences _ has := sound_texts.mp (sound _ ((standsIn_sequence has).part List.mem_cons_self))
  bindings _ has := obeys_binding sound has

end Obeying

end Node

open Node

/-! ## §6. What the validator decides -/

/-- Nothing is reported on a process if no node of its tree breaks a rule. -/
theorem validateProcess_eq_nil_iff_sound {p : Process} :
    validateProcess p = [] ↔ ∀ n : Node, n.StandsIn p → n.Sound := by
  rw [List.eq_nil_iff_forall_not_mem]
  constructor
  · rintro none_reported n ⟨place, holds⟩ rule broken
    exact none_reported ⟨place, rule⟩ (mem_validateProcess.mpr ⟨place, n, holds, broken, rfl⟩)
  · rintro sound v reported
    obtain ⟨rest, n, holds, broken, -⟩ := mem_validateProcess.mp reported
    exact sound n ⟨rest, holds⟩ v.rule broken

/-- **The validator of process documents decides its rules**: it reports nothing if and only if
every activity of the process names exactly one of a capability and a function, and no blank store
key or required activity; every parameter has no blank store key, and each generated value exactly
one source; no sequence is empty; and every bridge of a service has a source, with a backend and
complete capabilities if it is spelled out. -/
theorem validateProcess_eq_nil_iff (p : Process) : validateProcess p = [] ↔ p.Obeys := by
  rw [validateProcess_eq_nil_iff_sound]
  constructor
  · exact obeys_process
  -- a node of the tree is something of the process, and obeys as such
  · rintro obeys n ⟨place, holds⟩
    have root : (Node.process p).PartOf p := rfl
    exact (root.holds holds).sound obeys

end Pageflow.Document
