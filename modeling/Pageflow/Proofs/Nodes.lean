/-
  Pageflow.Proofs.Nodes — where the parts of a document stand, and which of them break a rule.

  A document is a tree.  Every node has parts, each at a place below it: member names and item
  numbers.  A node breaks a rule or not, whatever stands around it.  A validator of documents
  finds the nodes of the whole tree that break a rule, each at its place:

      v ∈ validateProcess p  ↔  a node at `v.place` in `p` breaks `v.rule`

  Every checking function has such a lemma.  Both directions follow one equation: what a node
  reports is what it breaks itself and what its parts report from their own places.

  Main definitions: `Node.parts`, `Node.Holds`, `Node.Breaks` and `Node.Reports`.
  Main statements: `mem_validateBridge`, `mem_validateProcess` and `mem_validatePage`.
-/
import Mathlib.Data.List.Basic
import Pageflow.Document.Validation
import Pageflow.Document.Writing

namespace Pageflow.Document

/-! ## §1. The tree of a document -/

/-- A part of a document that a rule is about or that such parts stand in. -/
inductive Node where
  | page (p : Page)
  | processOrigin (o : Origin Process)
  | pageService (s : PageService)
  | process (p : Process)
  | service (s : Service)
  | shared (s : SharedParameter)
  | commonActivity (a : CommonActivity)
  | activity (a : Activity)
  | parameter (p : Parameter)
  | generate (g : Generate)
  | sequence (s : Sequence)
  | binding (b : Binding)
  | bridgeOrigin (o : Origin Bridge)
  | bridge (b : Bridge)
  | backend (b : Backend)
  | capability (c : Capability)
  | selector (s : Selector)
  | text (s : String)
  | texts (l : List String)

namespace Node

/-- The entries of a dictionary, each under its name. -/
def entries {α : Type} (field : List String) (node : α → Node) (d : Dict α) :
    List (List String × Node) :=
  d.map fun (name, a) => (field ++ [name], node a)

/-- A part that may be missing. -/
def single {α : Type} (field : List String) (node : α → Node) (a : Option α) :
    List (List String × Node) :=
  a.toList.map fun a => (field, node a)

/-- The names of required activities, each under its number. -/
def requiredNames (l : List Required) : List (List String × Node) :=
  l.zipIdx.map fun (r, i) => (["requiredActivities", toString i, "activityName"],
    .text r.activityName)

/-- The parts of a node, with their places below it. -/
def parts : Node → List (List String × Node)
  | .page p =>
    (["process"], .processOrigin p.process) :: (entries ["services"] .pageService p.services
      ++ entries ["common", "parameters"] .shared p.common.parameters)
  | .processOrigin o => single ["instance"] .process o.inline
  | .pageService s =>
    single ["bridge"] .binding s.bridge ++ entries ["parameters"] .shared s.parameters
  | .process p =>
    entries ["services"] .service p.services
      ++ entries ["common", "activities"] .commonActivity p.common.activities
      ++ entries ["common", "sequences"] .sequence p.common.sequences
      ++ entries ["common", "parameters"] .shared p.common.parameters
  | .service s =>
    entries ["activities"] .activity s.activities ++ entries ["sequences"] .sequence s.sequences
      ++ entries ["parameters"] .shared s.parameters ++ single ["bridge"] .binding s.bridge
  -- what is shared or common is written as the definition itself
  | .shared (.field _) => []
  | .shared (.definition p) => [([], .parameter p)]
  | .commonActivity (.definition a) => [([], .activity a)]
  | .commonActivity (.reference r) => entries ["subActivities"] .activity r.subActivities
  | .activity a =>
    single ["storeResult", "key"] (fun t => .text t.key) a.storeResult
      ++ requiredNames a.requiredActivities
      ++ entries ["parameters"] .parameter a.parameters
      ++ entries ["requestBody"] .parameter (a.requestBody.getD [])
      ++ entries ["subActivities"] .activity a.subActivities
  | .parameter p =>
    single ["store", "key"] (fun t => .text t.key) p.store
      ++ single ["generate"] .generate p.generate
  | .generate g => entries ["parameters"] .parameter g.parameters
  | .sequence s => [(["activities"], .texts s.activities)]
  | .binding b => [(["source"], .bridgeOrigin b.source)]
  | .bridgeOrigin o => single ["instance"] .bridge o.inline
  | .bridge b =>
    (["execute"], .backend b.execute) :: entries ["capabilities"] .capability b.capabilities
  | .capability c => single ["operation"] .selector c.operation
  | .backend _ | .selector _ | .text _ | .texts _ => []

theorem mem_entries {α : Type} {field place : List String} {node : α → Node} {d : Dict α}
    {m : Node} : (place, m) ∈ entries field node d
      ↔ ∃ name a, (name, a) ∈ d ∧ field ++ [name] = place ∧ node a = m := by
  simp [entries]

theorem mem_single {α : Type} {field place : List String} {node : α → Node} {a : Option α}
    {m : Node} : (place, m) ∈ single field node a
      ↔ ∃ x, a = some x ∧ field = place ∧ node x = m := by
  simp [single]

theorem mem_requiredNames {l : List Required} {place : List String} {m : Node} :
    (place, m) ∈ requiredNames l ↔ ∃ (i : Nat) (r : Required), l[i]? = some r
      ∧ ["requiredActivities", toString i, "activityName"] = place
      ∧ .text r.activityName = m := by
  simp only [requiredNames, List.mem_map, Prod.exists, List.mem_zipIdx_iff_getElem?, Prod.mk.injEq]
  exact exists_comm

/-- `n.Holds place m`: in the tree below `n`, the node `m` stands at `place`. -/
inductive Holds : Node → List String → Node → Prop
  | here (n : Node) : Holds n [] n
  | inside {n m l : Node} {first rest : List String} (part : (first, m) ∈ n.parts)
      (below : Holds m rest l) : Holds n (first ++ rest) l

theorem Holds.of_part {n m : Node} {place : List String} (part : (place, m) ∈ n.parts) :
    n.Holds place m := by
  simpa using Holds.inside part (.here m)

/-- What stands in a part of a part stands in the whole. -/
theorem Holds.trans {n m l : Node} {first rest : List String} (h : n.Holds first m)
    (below : m.Holds rest l) : n.Holds (first ++ rest) l := by
  induction h with
  | here n => exact below
  | inside part _ ih =>
    rw [List.append_assoc]
    exact .inside part (ih below)

/-! ## §2. Rules -/

/-- Whether the node itself breaks the rule. -/
def Breaks : Node → Rule → Prop
  | .processOrigin o, rule => rule = .originGiven ∧ o.uri = none ∧ o.inline = none
  | .bridgeOrigin o, rule => rule = .originGiven ∧ o.uri = none ∧ o.inline = none
  | .backend b, rule =>
    rule = .backendGiven ∧ b.openApiUri = none ∧ b.openApi = none ∧ b.clientModuleUri = none
  | .capability c, rule => rule = .targetGiven ∧ c.operation = none ∧ c.functionName = none
  | .selector s, rule =>
    rule = .selectorComplete ∧ s.operationId = none ∧ (s.path = none ∨ s.method = none)
  | .activity a, rule =>
    rule = .oneExecution ∧ a.bridgeCapability ≠ none ∧ a.moduleFunction ≠ none
      ∨ rule = .executionGiven ∧ a.bridgeCapability = none ∧ a.moduleFunction = none
  | .generate g, rule =>
    rule = .oneGenerator ∧ (g.bridgeCapability = none ↔ g.moduleFunction = none)
  | .text s, rule => rule = .notEmpty ∧ Text.isBlank s = true
  | .texts l, rule => rule = .notEmpty ∧ l = []
  | .page _, _ | .pageService _, _ | .process _, _ | .service _, _ | .shared _, _
  | .commonActivity _, _ | .parameter _, _ | .sequence _, _ | .binding _, _ | .bridge _, _ =>
    False

/-- `n.Reports place v`: with `n` at `place`, the violation is about a node in the tree of `n`
that breaks its rule, and names the place of that node. -/
def Reports (n : Node) (place : List String) (v : Violation) : Prop :=
  ∃ rest m, n.Holds rest m ∧ m.Breaks v.rule ∧ v.place = place ++ rest

/-- One of the parts reports the violation, from its place below `place`. -/
def PartsReport (parts : List (List String × Node)) (place : List String) (v : Violation) : Prop :=
  ∃ part ∈ parts, part.2.Reports (place ++ part.1) v

variable {v : Violation} {place : List String}

/-- A node reports what it breaks itself and what its parts report. -/
theorem reports_iff (n : Node) :
    n.Reports place v ↔ (n.Breaks v.rule ∧ v.place = place) ∨ PartsReport n.parts place v := by
  constructor
  · rintro ⟨rest, m, h, broken, at_place⟩
    cases h with
    | here => exact .inl ⟨broken, by simpa using at_place⟩
    -- the first part on the way to the node reports it
    | inside part below => exact .inr ⟨_, part, _, m, below, broken, by simpa using at_place⟩
  · rintro (⟨broken, at_place⟩ | ⟨part, mem, rest, m, below, broken, at_place⟩)
    · exact ⟨[], n, .here n, broken, by simpa using at_place⟩
    · exact ⟨part.1 ++ rest, m, .inside mem below, broken, by simpa using at_place⟩

@[simp] theorem partsReport_nil : PartsReport [] place v ↔ False := by
  simp [PartsReport]

@[simp] theorem partsReport_cons {part : List String × Node} {rest : List (List String × Node)} :
    PartsReport (part :: rest) place v
      ↔ part.2.Reports (place ++ part.1) v ∨ PartsReport rest place v :=
  List.exists_mem_cons_iff ..

@[simp] theorem partsReport_append {l₁ l₂ : List (List String × Node)} :
    PartsReport (l₁ ++ l₂) place v ↔ PartsReport l₁ place v ∨ PartsReport l₂ place v := by
  simp only [PartsReport, List.mem_append, or_and_right, exists_or]

theorem partsReport_entries {α : Type} {field : List String} {node : α → Node} {d : Dict α} :
    PartsReport (entries field node d) place v
      ↔ ∃ e ∈ d, (node e.2).Reports (place ++ field ++ [e.1]) v := by
  simp [PartsReport, entries]

@[simp] theorem partsReport_single_none {α : Type} {field : List String} {node : α → Node} :
    PartsReport (single field node none) place v ↔ False := partsReport_nil

@[simp] theorem partsReport_single_some {α : Type} {field : List String} {node : α → Node}
    {a : α} : PartsReport (single field node (some a)) place v
      ↔ (node a).Reports (place ++ field) v := by
  simp [single]

theorem partsReport_requiredNames {l : List Required} :
    PartsReport (requiredNames l) place v ↔ ∃ (i : Nat) (r : Required), l[i]? = some r
      ∧ (Node.text r.activityName).Reports
        (place ++ ["requiredActivities", toString i, "activityName"]) v := by
  constructor
  · rintro ⟨⟨_, _⟩, mem, reports⟩
    obtain ⟨i, r, at_i, rfl, rfl⟩ := mem_requiredNames.mp mem
    exact ⟨i, r, at_i, reports⟩
  · rintro ⟨i, r, at_i, reports⟩
    exact ⟨_, mem_requiredNames.mpr ⟨i, r, at_i, rfl, rfl⟩, reports⟩

end Node

open Node

variable {v : Violation} {place : List String}

/-! ## §3. Small checks -/

theorem mem_demand {ok : Bool} {rule : Rule} :
    v ∈ demand ok place rule ↔ v.rule = rule ∧ ok = false ∧ v.place = place := by
  obtain ⟨at_place, broken⟩ := v
  cases ok <;> simp [demand, and_comm]

/-- A check of every entry of a dictionary, by what the check of one entry finds. -/
theorem mem_checkEntries {α : Type} {check : List String → α → List Violation} {node : α → Node}
    (sound : ∀ place a, v ∈ check place a ↔ (node a).Reports place v) (field : List String)
    (d : Dict α) : v ∈ checkEntries check (place ++ field) d
      ↔ PartsReport (entries field node d) place v := by
  simp only [checkEntries, List.mem_flatMap, partsReport_entries, sound]

/-- The same at the root of a document. -/
theorem mem_checkEntries_root {α : Type} {check : List String → α → List Violation}
    {node : α → Node} (sound : ∀ place a, v ∈ check place a ↔ (node a).Reports place v)
    (field : List String) (d : Dict α) :
    v ∈ checkEntries check field d ↔ PartsReport (entries field node d) [] v := by
  simpa using @mem_checkEntries v [] α check node sound field d

/-- A text that must not be blank. -/
theorem reports_text {s : String} : (Node.text s).Reports place v
    ↔ v.rule = .notEmpty ∧ Text.isBlank s = true ∧ v.place = place := by
  simp [reports_iff (.text s), Breaks, parts, and_assoc]

theorem mem_checkStore {field : String} {store : Option StoreTarget} :
    v ∈ checkStore (place ++ [field]) store
      ↔ PartsReport (single [field, "key"] (fun t => .text t.key) store) place v := by
  cases store <;> simp [checkStore, mem_demand, reports_text]

/-! ## §4. Parameters -/

-- The four lemmas recurse as the four checks do: a generated value stands in a parameter, its
-- dictionary of parameters in it, and each of these is a parameter again.
mutual

/-- The walk over a parameter finds what breaks a rule in it, at its place, and nothing else. -/
theorem mem_checkParameter (p : Parameter) (place : List String) :
    v ∈ checkParameter place p ↔ (Node.parameter p).Reports place v := by
  obtain ⟨_, _, _, _, _, store, _, generate, _, _⟩ := p
  rw [checkParameter, List.mem_append, mem_checkStore, mem_checkGenerate?, reports_iff]
  simp [Breaks, parts]

theorem mem_checkGenerate? (generate : Option (GenerateOf Parameter)) (place : List String)
    (field : List String) : v ∈ checkGenerate? (place ++ field) generate
      ↔ PartsReport (single field .generate generate) place v := by
  cases generate with
  | none => simp [checkGenerate?]
  | some g => simp [checkGenerate?, mem_checkGenerate]

theorem mem_checkGenerate (g : GenerateOf Parameter) (place : List String) :
    v ∈ checkGenerate place g ↔ (Node.generate g).Reports place v := by
  obtain ⟨capability, function, parameters⟩ := g
  rw [checkGenerate, List.mem_append, mem_demand, mem_checkParameters, reports_iff]
  cases capability <;> cases function <;> simp [Breaks, parts]

theorem mem_checkParameters (ps : List (String × Parameter)) (place field : List String) :
    v ∈ checkParameters (place ++ field) ps
      ↔ PartsReport (entries field .parameter ps) place v := by
  rw [partsReport_entries]
  cases ps with
  | nil => simp [checkParameters]
  | cons e rest =>
    obtain ⟨name, p⟩ := e
    rw [checkParameters, List.mem_append, mem_checkParameter p, mem_checkParameters rest,
      partsReport_entries, List.exists_mem_cons_iff]

end

theorem mem_checkShared (place : List String) (s : SharedParameter) :
    v ∈ checkShared place s ↔ (Node.shared s).Reports place v := by
  rw [reports_iff]
  cases s with
  | field name => simp [checkShared, Breaks, parts]
  | definition p => simp [checkShared, Breaks, parts, mem_checkParameter]

/-! ## §5. Activities and sequences -/

theorem mem_checkExecution {a : Activity} :
    v ∈ checkExecution place a.bridgeCapability a.moduleFunction
      ↔ (Node.activity a).Breaks v.rule ∧ v.place = place := by
  obtain ⟨at_place, broken⟩ := v
  cases h : a.bridgeCapability <;> cases h' : a.moduleFunction <;>
    simp [checkExecution, Breaks, h, h', and_comm]

/-- Names are numbered on from `index`. -/
theorem mem_checkRequired {l : List Required} {index : Nat} : v ∈ checkRequired place index l
    ↔ ∃ (i : Nat) (r : Required), l[i]? = some r ∧ (Node.text r.activityName).Reports
        (place ++ ["requiredActivities", toString (index + i), "activityName"]) v := by
  induction l generalizing index with
  | nil => simp [checkRequired]
  | cons r rest ih =>
    rw [checkRequired, List.mem_append, mem_demand, ih]
    -- the name at position `i + 1` is the one at position `i` of the rest
    constructor
    · rintro (here | ⟨i, r', at_i, reports⟩)
      · exact ⟨0, r, rfl, reports_text.mpr (by simpa using here)⟩
      · exact ⟨i + 1, r', at_i, by rwa [Nat.add_assoc, Nat.add_comm 1] at reports⟩
    · rintro ⟨i, r', at_i, reports⟩
      cases i with
      | zero =>
        obtain rfl : r = r' := Option.some.inj at_i
        exact .inl (by simpa using reports_text.mp reports)
      | succ i => exact .inr ⟨i, r', at_i, by rwa [Nat.add_assoc, Nat.add_comm 1]⟩

mutual

/-- The walk over an activity finds what breaks a rule in it, at its place, and nothing else. -/
theorem mem_checkActivity (a : Activity) (place : List String) :
    v ∈ checkActivity place a ↔ (Node.activity a).Reports place v := by
  obtain ⟨title, preProcess, capability, function, parameters, requestBody, required, inside,
    storeResult, priority, ui, debug⟩ := a
  -- the check goes through the parts of the activity in their order
  simp only [checkActivity, List.mem_append, mem_checkStore, mem_checkRequired,
    mem_checkParameters, mem_checkActivities inside, Nat.zero_add]
  simp only [reports_iff (.activity _), ← mem_checkExecution, parts, partsReport_append,
    partsReport_requiredNames, or_assoc]

theorem mem_checkActivities (as : List (String × Activity)) (place field : List String) :
    v ∈ checkActivities (place ++ field) as
      ↔ PartsReport (entries field .activity as) place v := by
  rw [partsReport_entries]
  cases as with
  | nil => simp [checkActivities]
  | cons e rest =>
    obtain ⟨name, a⟩ := e
    rw [checkActivities, List.mem_append, mem_checkActivity a, mem_checkActivities rest,
      partsReport_entries, List.exists_mem_cons_iff]

end

theorem mem_checkCommonActivity (place : List String) (a : CommonActivity) :
    v ∈ checkCommonActivity place a ↔ (Node.commonActivity a).Reports place v := by
  rw [reports_iff]
  cases a with
  | reference r => simp [checkCommonActivity, Breaks, parts, mem_checkActivities]
  | definition a => simp [checkCommonActivity, Breaks, parts, mem_checkActivity]

theorem mem_checkSequence (place : List String) (s : Sequence) :
    v ∈ checkSequence place s ↔ (Node.sequence s).Reports place v := by
  rw [checkSequence, mem_demand, reports_iff]
  simp [parts, reports_iff (.texts _), Breaks, and_assoc]

/-! ## §6. Bridges -/

theorem mem_checkCapability (place : List String) (c : Capability) :
    v ∈ checkCapability place c ↔ (Node.capability c).Reports place v := by
  obtain ⟨at_place, broken⟩ := v
  obtain ⟨operation, function, postProcess⟩ := c
  rw [reports_iff]
  cases operation with
  | none => cases function <;> simp [checkCapability, Breaks, parts, and_comm]
  | some s =>
    obtain ⟨path, method, identifier⟩ := s
    cases path <;> cases method <;> cases identifier <;>
      simp [checkCapability, mem_demand, Breaks, parts, reports_iff (.selector _)]

/-- **The validator of bridge documents finds what breaks a rule, and nothing else.** -/
theorem mem_validateBridge {b : Bridge} :
    v ∈ validateBridge b ↔ (Node.bridge b).Reports [] v := by
  rw [validateBridge, List.mem_append, mem_demand,
    mem_checkEntries_root mem_checkCapability, reports_iff]
  cases h : b.execute.openApi <;> cases h' : b.execute.openApiUri <;>
    cases h'' : b.execute.clientModuleUri <;>
    simp [Breaks, parts, reports_iff (.backend _), Backend.isOpenApi, h, h', h'']

/-- What a document inside another one reports, seen from the outer one. -/
theorem mem_map_under {n : Node} {vs : List Violation} (sound : ∀ w, w ∈ vs ↔ n.Reports [] w) :
    v ∈ vs.map (·.under place) ↔ n.Reports place v := by
  rw [List.mem_map]
  constructor
  · rintro ⟨w, mem, rfl⟩
    obtain ⟨rest, m, h, broken, at_place⟩ := (sound w).mp mem
    exact ⟨rest, m, h, broken, by rw [Violation.under, at_place, List.nil_append]⟩
  · rintro ⟨rest, m, h, broken, at_place⟩
    exact ⟨⟨rest, v.rule⟩, (sound _).mpr ⟨rest, m, h, broken, rfl⟩,
      by rw [Violation.under, ← at_place]⟩

theorem mem_checkBinding {field : List String} {b : Option Binding} :
    v ∈ checkBinding (place ++ field) b ↔ PartsReport (single field .binding b) place v := by
  cases b with
  | none => simp [checkBinding]
  | some b =>
    obtain ⟨server, authorization, ⟨uri, inline⟩⟩ := b
    cases uri <;> cases inline <;>
      simp [checkBinding, mem_demand, reports_iff (.binding _), reports_iff (.bridgeOrigin _),
        Breaks, parts, Origin.isEmpty, mem_map_under fun w => mem_validateBridge]

/-! ## §7. Processes and pages -/

theorem mem_checkService (place : List String) (s : Service) :
    v ∈ checkService place s ↔ (Node.service s).Reports place v := by
  simp only [checkService, List.mem_append, mem_checkActivities, mem_checkBinding,
    mem_checkEntries mem_checkSequence, mem_checkEntries mem_checkShared, reports_iff (.service _),
    Breaks, parts, partsReport_append, false_and, false_or]

/-- **The validator of process documents finds what breaks a rule, and nothing else.** -/
theorem mem_validateProcess {p : Process} :
    v ∈ validateProcess p ↔ (Node.process p).Reports [] v := by
  simp only [validateProcess, List.mem_append, mem_checkEntries_root mem_checkService,
    mem_checkEntries_root mem_checkCommonActivity, mem_checkEntries_root mem_checkSequence,
    mem_checkEntries_root mem_checkShared, reports_iff (.process _), Breaks, parts,
    partsReport_append, false_and, false_or]

theorem mem_checkPageService (place : List String) (s : PageService) :
    v ∈ checkPageService place s ↔ (Node.pageService s).Reports place v := by
  simp only [checkPageService, List.mem_append, mem_checkBinding, mem_checkEntries mem_checkShared,
    reports_iff (.pageService _), Breaks, parts, partsReport_append, false_and, false_or]

/-- **The validator of page documents finds what breaks a rule, and nothing else.** -/
theorem mem_validatePage {p : Page} : v ∈ validatePage p ↔ (Node.page p).Reports [] v := by
  obtain ⟨title, description, ⟨uri, inline⟩, services, script, common⟩ := p
  simp only [validatePage, List.mem_append, mem_checkEntries_root mem_checkPageService,
    mem_checkEntries_root mem_checkShared, reports_iff (.page _), Breaks, parts,
    partsReport_append, partsReport_cons, List.nil_append, false_and, false_or]
  -- the process comes last in the report, and beside its origin in the document
  rw [or_right_comm, or_congr_left or_right_comm, or_assoc]
  refine or_congr ?_ Iff.rfl
  rw [reports_iff, mem_demand]
  cases uri <;> cases inline <;>
    simp [Breaks, parts, Origin.isEmpty, mem_map_under fun w => mem_validateProcess]

end Pageflow.Document
