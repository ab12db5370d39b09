/-
  Pageflow.Proofs.Pointers — violations point at the nodes that break the rules.

  Every document is written as JSON along its tree: the place of a node leads to the node.  So the
  place that a violation carries leads to a node that breaks its rule.  The pointer shown to the
  author puts a slash before every name on the way and escapes nothing; it is the pointer of that
  place if and only if no name on the way has a slash or a tilde in it.

  Main definitions: `Node.toJson` and `Checked`.
  Main statements: `along_holds` and `violations_point_at_their_nodes`.
-/
import Pageflow.Proofs.Nodes
import Pageflow.Proofs.Tokens

namespace Pageflow.Document

/-! ## §1. Nodes as JSON -/

/-- The node as it is written. -/
def Node.toJson : Node → Json
  | .page p => p.toJson
  | .processOrigin o => o.toJson Process.toJson
  | .pageService s => s.toJson
  | .process p => p.toJson
  | .service s => s.toJson
  | .shared s => s.toJson
  | .commonActivity a => a.toJson
  | .activity a => a.toJson
  | .parameter p => p.toJson
  | .generate g => writeGenerate g
  | .sequence s => s.toJson
  | .binding b => b.toJson
  | .bridgeOrigin o => o.toJson Bridge.toJson
  | .bridge b => b.toJson
  | .backend b => b.toJson
  | .capability c => c.toJson
  | .selector s => s.toJson
  | .text s => .string s
  | .texts l => writeTexts l

namespace Node

open Json (along along_append isProper_of_tokenWalk tokenStep_member tokenStep_item)

/-- An entry of a dictionary is found under its name. -/
theorem along_entry {α : Type} {value : Json} {field : List String} {d : Dict α}
    {write : α → Json} (proper : value.isProper = true)
    (found : value.along field = some (writeDict write d)) {name : String} {a : α}
    (entry : (name, a) ∈ d) : value.along (field ++ [name]) = some (write a) := by
  have inner := isProper_of_tokenWalk proper found
  have member : (name, write a) ∈ d.mapValues write :=
    List.mem_map.mpr ⟨(name, a), entry, rfl⟩
  rw [along_append, found]
  show ((writeDict write d).tokenStep name.toList).bind _ = _
  rw [writeDict, tokenStep_member inner member]
  rfl

/-- The parts among entries are found where they stand. -/
theorem along_entries {α : Type} {value : Json} {field place : List String} {node : α → Node}
    {d : Dict α} {m : Node} (proper : value.isProper = true)
    (found : value.along field = some (writeDict (fun a => (node a).toJson) d))
    (part : (place, m) ∈ entries field node d) : value.along place = some m.toJson := by
  obtain ⟨name, a, entry, rfl, rfl⟩ := mem_entries.mp part
  exact along_entry proper found entry

/-- A part that may be missing is found where it stands. -/
theorem along_single {α : Type} {value : Json} {field place : List String} {node : α → Node}
    {a : Option α} {m : Node}
    (found : ∀ x, a = some x → value.along field = some (node x).toJson)
    (part : (place, m) ∈ single field node a) : value.along place = some m.toJson := by
  obtain ⟨x, given, rfl, rfl⟩ := mem_single.mp part
  exact found x given

/-- The name of a required activity is found in the entry of its number. -/
theorem along_requiredNames {value : Json} {l : List Required} {place : List String} {m : Node}
    (proper : value.isProper = true)
    (found : value.along ["requiredActivities"] = some (.array (l.map Required.toJson)))
    (part : (place, m) ∈ requiredNames l) : value.along place = some m.toJson := by
  obtain ⟨i, r, at_i, rfl, rfl⟩ := mem_requiredNames.mp part
  have inner := isProper_of_tokenWalk proper found
  have item : (l.map Required.toJson)[i]? = some r.toJson := by rw [List.getElem?_map, at_i]; rfl
  show value.along (["requiredActivities"] ++ [toString i, "activityName"]) = _
  rw [along_append, found]
  show ((Json.array (l.map Required.toJson)).tokenStep (toString i).toList).bind _ = _
  rw [tokenStep_item inner item]
  rfl

theorem along_page {p : Page} {m : Node} {place : List String} (proper : p.toJson.isProper = true)
    (part : (place, m) ∈ (Node.page p).parts) : p.toJson.along place = some m.toJson := by
  simp only [parts, List.mem_cons, List.mem_append, Prod.mk.injEq] at part
  obtain ⟨rfl, rfl⟩ | part | part := part
  · rfl
  · exact along_entries proper rfl part
  · exact along_entries proper rfl part

theorem along_process {p : Process} {m : Node} {place : List String}
    (proper : p.toJson.isProper = true) (part : (place, m) ∈ (Node.process p).parts) :
    p.toJson.along place = some m.toJson := by
  simp only [parts, List.mem_append] at part
  obtain ((part | part) | part) | part := part
  · exact along_entries proper rfl part
  · exact along_entries proper rfl part
  · exact along_entries proper rfl part
  · exact along_entries proper rfl part

theorem along_service {s : Service} {m : Node} {place : List String}
    (proper : s.toJson.isProper = true) (part : (place, m) ∈ (Node.service s).parts) :
    s.toJson.along place = some m.toJson := by
  simp only [parts, List.mem_append] at part
  obtain ((part | part) | part) | part := part
  · exact along_entries proper rfl part
  · exact along_entries proper rfl part
  · exact along_entries proper rfl part
  · exact along_single (fun b given => by rw [Service.toJson, given]; rfl) part

theorem along_activity {a : Activity} {m : Node} {place : List String}
    (proper : a.toJson.isProper = true) (part : (place, m) ∈ (Node.activity a).parts) :
    a.toJson.along place = some m.toJson := by
  obtain ⟨title, preProcess, capability, function, parameters, requestBody, required, inside,
    storeResult, priority, ui, debug⟩ := a
  simp only [parts, List.mem_append] at part
  obtain (((part | part) | part) | part) | part := part
  · exact along_single (fun target given => by subst given; rfl) part
  · exact along_requiredNames proper rfl part
  · exact along_entries proper rfl part
  · cases requestBody with
    | none => exact absurd part List.not_mem_nil
    | some body => exact along_entries proper rfl part
  · exact along_entries proper (by rw [Activity.toJson, writeActivities_eq]; rfl) part

theorem along_parameter {p : Parameter} {m : Node} {place : List String}
    (part : (place, m) ∈ (Node.parameter p).parts) : p.toJson.along place = some m.toJson := by
  obtain ⟨type, field, parent, previous, constant, store, queryParam, generate, fileInput,
    isDynamic⟩ := p
  simp only [parts, List.mem_append] at part
  obtain part | part := part
  · exact along_single (fun target given => by subst given; rfl) part
  · exact along_single (fun g given => by subst given; rfl) part

theorem along_bridge {b : Bridge} {m : Node} {place : List String}
    (proper : b.toJson.isProper = true) (part : (place, m) ∈ (Node.bridge b).parts) :
    b.toJson.along place = some m.toJson := by
  simp only [parts, List.mem_cons, Prod.mk.injEq] at part
  obtain ⟨rfl, rfl⟩ | part := part
  · rfl
  · exact along_entries proper rfl part

/-- Every part of a node is written where it stands. -/
theorem along_part {n m : Node} {place : List String} (proper : n.toJson.isProper = true)
    (part : (place, m) ∈ n.parts) : n.toJson.along place = some m.toJson := by
  cases n with
  | page p => exact along_page proper part
  | process p => exact along_process proper part
  | service s => exact along_service proper part
  | activity a => exact along_activity proper part
  | parameter p => exact along_parameter part
  | bridge b => exact along_bridge proper part
  | processOrigin o =>
    exact along_single (fun p given => by rw [toJson, Origin.toJson, given]; rfl) part
  | bridgeOrigin o =>
    exact along_single (fun b given => by rw [toJson, Origin.toJson, given]; rfl) part
  | pageService s =>
    rcases List.mem_append.mp part with part | part
    · exact along_single (fun b given => by rw [toJson, PageService.toJson, given]; rfl) part
    · exact along_entries proper rfl part
  | shared s =>
    cases s with
    | field name => exact absurd part List.not_mem_nil
    | definition p =>
      obtain ⟨rfl, rfl⟩ := Prod.mk.inj (List.mem_singleton.mp part)
      rfl
  | commonActivity a =>
    cases a with
    | reference r => exact along_entries proper rfl part
    | definition a =>
      obtain ⟨rfl, rfl⟩ := Prod.mk.inj (List.mem_singleton.mp part)
      rfl
  | generate g =>
    obtain ⟨capability, function, parameters⟩ := g
    exact along_entries proper (by rw [toJson, writeGenerate, writeParameters_eq]; rfl) part
  | sequence s =>
    obtain ⟨rfl, rfl⟩ := Prod.mk.inj (List.mem_singleton.mp part)
    rfl
  | binding b =>
    obtain ⟨rfl, rfl⟩ := Prod.mk.inj (List.mem_singleton.mp part)
    rfl
  | capability c =>
    exact along_single (fun s given => by rw [toJson, Capability.toJson, given]; rfl) part
  | backend | selector | text | texts => exact absurd part List.not_mem_nil

/-- **The place of a node leads to the node** in what is written of the document. -/
theorem along_holds {n m : Node} {place : List String} (proper : n.toJson.isProper = true)
    (holds : n.Holds place m) : n.toJson.along place = some m.toJson := by
  induction holds with
  | here => rfl
  | inside part _ ih =>
    have found := along_part proper part
    rw [along_append, found]
    exact ih (isProper_of_tokenWalk proper found)

end Node

/-! ## §2. Documents that are validated -/

/-- A document that has a validator. -/
inductive Checked where
  | page (p : Page)
  | process (p : Process)
  | bridge (b : Bridge)

namespace Checked

/-- The tree of the document. -/
def root : Checked → Node
  | .page p => .page p
  | .process p => .process p
  | .bridge b => .bridge b

/-- What the validator reports. -/
def violations : Checked → List Violation
  | .page p => validatePage p
  | .process p => validateProcess p
  | .bridge b => validateBridge b

theorem mem_violations {d : Checked} {v : Violation} :
    v ∈ d.violations ↔ d.root.Reports [] v := by
  cases d with
  | page p => exact mem_validatePage
  | process p => exact mem_validateProcess
  | bridge b => exact mem_validateBridge

end Checked

/-- The pointer of a violation puts a slash before every name on the way. -/
theorem Violation.pointer_eq_slashed (v : Violation) : v.pointer = Json.slashed v.place := rfl

/-- **Violations point at the nodes that break the rules.**  The place of a violation leads to a
node of the document that breaks its rule, there and in what is written of the document.  Its
pointer is the pointer of that place if and only if no name on the way has a slash or a tilde,
and then it finds the node. -/
theorem violations_point_at_their_nodes (d : Checked) (proper : d.root.toJson.isProper = true)
    (v : Violation) (reported : v ∈ d.violations) :
    ∃ node, d.root.Holds v.place node ∧ node.Breaks v.rule
      ∧ d.root.toJson.along v.place = some node.toJson
      ∧ (Json.pointerTokens? v.pointer = some v.place ↔ ∀ name ∈ v.place, Json.IsPlain name)
      ∧ ((∀ name ∈ v.place, Json.IsPlain name) →
          d.root.toJson.resolve? v.pointer = some node.toJson) := by
  obtain ⟨rest, node, holds, broken, at_place⟩ := Checked.mem_violations.mp reported
  obtain rfl : rest = v.place := at_place.symm
  have found := Node.along_holds proper holds
  have reads := Json.pointerTokens?_slashed_iff v.place
  rw [← v.pointer_eq_slashed] at reads
  refine ⟨node, holds, broken, found, reads, fun plain => ?_⟩
  rw [Json.resolve?_eq_along (reads.mpr plain), found]

/-- An activity that runs a function of its own name. -/
def fine (name : String) (inside : Dict Activity) : Activity :=
  { moduleFunction := some name, subActivities := inside }

/-- A process with one service, `shop`. -/
def shopOf (activities : Dict Activity) : Checked :=
  .process { services := [("shop", { activities })] }

/-- A till whose activity `count` keeps its result under a blank key. -/
def till : Checked :=
  let count := { fine "count" [] with storeResult := some { key := " " } }
  shopOf [("pay", fine "pay" [("count", count)])]

/-- The violation in the till is found by its pointer. -/
theorem violations_point_at_their_nodes_till :
    let v : Violation :=
      ⟨["services", "shop", "activities", "pay", "subActivities", "count", "storeResult", "key"],
        .notEmpty⟩
    till.root.toJson.isProper = true ∧ v ∈ till.violations ∧ ∃ node : Node,
      node.Breaks v.rule ∧ till.root.toJson.resolve? v.pointer = some node.toJson := by
  intro v
  have proper : till.root.toJson.isProper = true := by decide +kernel
  have reported : v ∈ till.violations := by decide +kernel
  have plain : ∀ name ∈ v.place, Json.IsPlain name := by decide +kernel
  obtain ⟨node, -, broken, -, -, found⟩ :=
    violations_point_at_their_nodes till proper v reported
  exact ⟨proper, reported, node, broken, found plain⟩

/-- An activity that runs nothing. -/
def idle : Activity := {}

/-- A process with a fine activity `check` inside `pay`, and an idle one whose name spells the way
from `pay` to `check`. -/
def crossing : Checked :=
  shopOf [("pay", fine "pay" [("check", fine "check" [])]), ("pay/subActivities/check", idle)]

/-- Nothing is escaped in a pointer: the violation of the idle activity points at the fine one. -/
theorem slash_in_name_points_elsewhere :
    ∃ v ∈ crossing.violations, crossing.root.toJson.isProper = true
      ∧ crossing.root.toJson.resolve? v.pointer = some (fine "check" []).toJson
      ∧ (∀ rule, ¬ (Node.activity (fine "check" [])).Breaks rule)
      ∧ ¬ ∃ node, crossing.root.Holds v.place node ∧ node.Breaks v.rule
        ∧ crossing.root.toJson.resolve? v.pointer = some node.toJson := by
  have proper : crossing.root.toJson.isProper = true := by decide +kernel
  refine ⟨⟨["services", "shop", "activities", "pay/subActivities/check"], .executionGiven⟩,
    by decide +kernel, proper, by decide +kernel, by simp [Node.Breaks, fine], ?_⟩
  rintro ⟨node, holds, -, found⟩
  -- the place leads to the idle activity, the pointer to the fine one
  have place := Node.along_holds proper holds
  have idleThere : crossing.root.toJson.along
      ["services", "shop", "activities", "pay/subActivities/check"] = some idle.toJson := by
    decide +kernel
  have fineThere : crossing.root.toJson.resolve?
      "/services/shop/activities/pay/subActivities/check" = some (fine "check" []).toJson := by
    decide +kernel
  have same : idle.toJson = (fine "check" []).toJson :=
    Option.some.inj ((idleThere.symm.trans place).trans (found.symm.trans fineThere))
  exact absurd same (by decide +kernel)

end Pageflow.Document
