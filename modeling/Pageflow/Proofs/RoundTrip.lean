/-
  Pageflow.Proofs.RoundTrip — every type of document is read back as it was read.

  Bridges, processes and pages follow the scheme of `Proofs.Restoring`.  At the end all types of
  documents are one family: a kind has a type of values, a reader and a written form.

      k.read x = .ok d  →  k.read (k.write d) = .ok d

  So a value that was read once is the same value after any number of ways through JSON, with its
  dictionaries in the same order, and is written the same every time.

  Main definition: `Kind`.
  Main statement: `documents_round_trip`.
-/
import Pageflow.Proofs.Restoring

namespace Pageflow.Document

/-! ## §1. Bridges -/

theorem restores_origin {α : Type} {inline : Reader α} {write : α → Json}
    (h : Restores inline write) (notNull : ∀ a, write a ≠ .null) :
    Restores (readOrigin inline) (Origin.toJson write) := by
  refine yields_record (.seq (.map ?_ (yields_field restores_text? rfl))
    (yields_field (restores_optional h notNull) rfl))
  intro _ uri _ document
  exact record_object (.seq (.map (rereads_fieldAs uri rfl)) (rereads_fieldAs document rfl))

theorem restores_backend : Restores readBackend Backend.toJson := by
  refine yields_record (.seq (.seq (.map ?_ (yields_field restores_text? rfl))
    (yields_field restores_json? rfl)) (yields_field restores_text? rfl))
  intro _ uri _ openApi _ client
  exact record_object (.seq (.seq (.map (rereads_fieldAs uri rfl)) (rereads_fieldAs openApi rfl))
    (rereads_fieldAs client rfl))

theorem restores_selector : Restores readSelector Selector.toJson := by
  refine yields_record (.seq (.seq (.map ?_ (yields_field restores_text? rfl))
    (yields_field restores_text? rfl)) (yields_field restores_text? rfl))
  intro _ path _ method _ identifier
  exact record_object (.seq (.seq (.map (rereads_fieldAs path rfl)) (rereads_fieldAs method rfl))
    (rereads_fieldAs identifier rfl))

theorem restores_capability : Restores readCapability Capability.toJson := by
  refine yields_record (.seq (.seq (.map ?_
    (yields_field (restores_optional restores_selector nofun) rfl))
    (yields_field restores_text? rfl)) (yields_field restores_text? rfl))
  intro _ operation _ function _ postProcess
  exact record_object (.seq (.seq (.map (rereads_fieldAs operation rfl))
    (rereads_fieldAs function rfl)) (rereads_fieldAs postProcess rfl))

theorem restores_bridge : Restores readBridge Bridge.toJson := by
  refine yields_record (.seq (.seq (.seq (.map ?_ (yields_field restores_backend rfl))
    (yields_field (restores_dict restores_capability) rfl)) (yields_field restores_text? rfl))
    (yields_field restores_text? rfl))
  intro _ execute _ capabilities _ support _ message
  exact record_object (.seq (.seq (.seq (.map (rereads_fieldAs execute rfl))
    (rereads_fieldAs capabilities rfl)) (rereads_fieldAs support rfl))
    (rereads_fieldAs message rfl))

/-- What is written of one source is refused by the alternatives that stand before its own. -/
theorem restores_valueSource : Restores readValueSource ValueSource.toJson := by
  have any (name : String) : Yields (readTagged name) fun _ => True := fun _ _ _ => trivial
  refine yields_oneOf ?_
  rintro read mem
  simp only [List.mem_cons, List.not_mem_nil, or_false] at mem
  rcases mem with rfl | rfl | rfl | rfl
  · exact yields_map restores_text fun _ _ => rfl
  · exact yields_map (any "constant") fun _ _ => rfl
  · exact yields_map (any "queryParam") fun _ _ => rfl
  · exact yields_map (any "field") fun _ _ => rfl

theorem restores_binding : Restores readBinding Binding.toJson := by
  have notNull : ∀ s : ValueSource, s.toJson ≠ .null := by
    intro s
    cases s <;> exact nofun
  refine yields_record (.seq (.seq (.map ?_
    (yields_field (restores_optional restores_valueSource notNull) rfl))
    (yields_field (restores_dict restores_valueSource) rfl))
    (yields_field (restores_origin restores_bridge nofun) rfl))
  intro _ server _ authorization _ source
  exact record_object (.seq (.seq (.map (rereads_fieldAs server rfl))
    (rereads_fieldAs authorization rfl)) (rereads_fieldAs source rfl))

theorem restores_binding? : Restores (optional readBinding) (writeOption Binding.toJson) := by
  refine restores_optional restores_binding fun b => ?_
  rw [Binding.toJson]
  exact Json.noConfusion

/-! ## §2. Processes and pages -/

/-- One name is written as a list of one name. -/
theorem restores_autostart : Restores readAutostart writeTexts := by
  have texts {l : Autostart} (h : list text (writeTexts l) = .ok l) :
      readAutostart (writeTexts l) = .ok l := by
    rw [readAutostart, oneOf_of_error rfl]
    exact oneOf_of_ok h
  refine yields_oneOf (List.forall_mem_cons.mpr ⟨?_, List.forall_mem_singleton.mpr ?_⟩)
  · exact yields_map restores_text fun _ _ => texts rfl
  · exact (restores_list restores_text).imp fun _ => texts

theorem restores_service : Restores readService Service.toJson := by
  refine yields_record (.seq (.seq (.seq (.seq (.seq (.seq (.seq (.map ?_
    (yields_field restores_text rfl)) (yields_field restores_text? rfl))
    (yields_field restores_ui rfl)) (yields_field (restores_dict restores_activity) rfl))
    (yields_field (restores_dict restores_sequence) rfl))
    (yields_field (restores_dict restores_shared) rfl)) (yields_field restores_autostart rfl))
    (yields_field restores_binding? rfl))
  intro _ title _ description _ ui _ activities _ sequences _ parameters _ autostart _ bridge
  exact record_object (.seq (.seq (.seq (.seq (.seq (.seq (.seq (.map
    (rereads_fieldAs title rfl)) (rereads_fieldAs description rfl)) (rereads_fieldAs ui rfl))
    (rereads_fieldAs activities rfl)) (rereads_fieldAs sequences rfl))
    (rereads_fieldAs parameters rfl)) (rereads_fieldAs autostart rfl))
    (rereads_fieldAs bridge rfl))

theorem restores_common : Restores readCommon Common.toJson := by
  refine yields_record (.seq (.seq (.seq (.seq (.map ?_ (yields_field restores_ui rfl))
    (yields_field (restores_dict restores_commonActivity) rfl))
    (yields_field (restores_dict restores_sequence) rfl))
    (yields_field (restores_dict restores_shared) rfl))
    (yields_fieldAs restores_autostart fun _ same => Option.some.inj same ▸ rfl))
  intro _ ui _ activities _ sequences _ parameters _ autostart
  exact record_object (.seq (.seq (.seq (.seq (.map (rereads_fieldAs ui rfl))
    (rereads_fieldAs activities rfl)) (rereads_fieldAs sequences rfl))
    (rereads_fieldAs parameters rfl)) (rereads_fieldAs autostart rfl))

theorem restores_process : Restores readProcess Process.toJson := by
  refine yields_record (.seq (.seq (.seq (.seq (.map ?_ (yields_field restores_text rfl))
    (yields_field restores_text? rfl)) (yields_field (restores_dict restores_service) rfl))
    (yields_field restores_common rfl)) (yields_field restores_text? rfl))
  intro _ title _ description _ services _ common _ script
  exact record_object (.seq (.seq (.seq (.seq (.map (rereads_fieldAs title rfl))
    (rereads_fieldAs description rfl)) (rereads_fieldAs services rfl))
    (rereads_fieldAs common rfl)) (rereads_fieldAs script rfl))

theorem restores_pageService : Restores readPageService PageService.toJson := by
  refine yields_record (.seq (.seq (.seq (.seq (.map ?_ (yields_field restores_text? rfl))
    (yields_field restores_text? rfl)) (yields_field restores_binding? rfl))
    (yields_field (restores_dict restores_shared) rfl)) (yields_field restores_autostart rfl))
  intro _ title _ description _ bridge _ parameters _ autostart
  exact record_object (.seq (.seq (.seq (.seq (.map (rereads_fieldAs title rfl))
    (rereads_fieldAs description rfl)) (rereads_fieldAs bridge rfl))
    (rereads_fieldAs parameters rfl)) (rereads_fieldAs autostart rfl))

theorem restores_pageCommon : Restores readPageCommon PageCommon.toJson := by
  refine yields_record (.seq (.seq (.map ?_ (yields_field restores_text? rfl))
    (yields_field (restores_dict restores_shared) rfl))
    (yields_fieldAs restores_autostart fun _ same => Option.some.inj same ▸ rfl))
  intro _ description _ parameters _ autostart
  exact record_object (.seq (.seq (.map (rereads_fieldAs description rfl))
    (rereads_fieldAs parameters rfl)) (rereads_fieldAs autostart rfl))

theorem restores_page : Restores readPage Page.toJson := by
  refine yields_record (.seq (.seq (.seq (.seq (.seq (.map ?_ (yields_field restores_text rfl))
    (yields_field restores_text? rfl))
    (yields_field (restores_origin restores_process nofun) rfl))
    (yields_field (restores_dict restores_pageService) rfl)) (yields_field restores_text? rfl))
    (yields_field restores_pageCommon rfl))
  intro _ title _ description _ process _ services _ script _ common
  exact record_object (.seq (.seq (.seq (.seq (.seq (.map (rereads_fieldAs title rfl))
    (rereads_fieldAs description rfl)) (rereads_fieldAs process rfl))
    (rereads_fieldAs services rfl)) (rereads_fieldAs script rfl)) (rereads_fieldAs common rfl))

/-! ## §3. All documents -/

/-- The types of documents. -/
inductive Kind where
  | page
  | process
  | service
  | bridge
  | binding
  | activity
  | reference
  | commonActivity
  | parameter
  | sharedParameter
  | generate
  | storeResult
  | autostart
  | openInput
  | valueSource
  | inputs
  | presentation

namespace Kind

/-- The documents of a kind. -/
def Value : Kind → Type
  | .page => Page
  | .process => Process
  | .service => Service
  | .bridge => Bridge
  | .binding => Binding
  | .activity => Activity
  | .reference => Reference
  | .commonActivity => CommonActivity
  | .parameter => Parameter
  | .sharedParameter => SharedParameter
  | .generate => Generate
  | .storeResult => StoreTarget
  | .autostart => Autostart
  | .openInput => OpenInput
  | .valueSource => ValueSource
  | .inputs => Ui
  | .presentation => Presentation

/-- The reader of a kind. -/
def read : (k : Kind) → Reader k.Value
  | .page => readPage
  | .process => readProcess
  | .service => readService
  | .bridge => readBridge
  | .binding => readBinding
  | .activity => readActivity
  | .reference => readReference
  | .commonActivity => readCommonActivity
  | .parameter => readParameter
  | .sharedParameter => readSharedParameter
  | .generate => readGenerate
  | .storeResult => readStoreTarget
  | .autostart => readAutostart
  | .openInput => readOpenInput
  | .valueSource => readValueSource
  | .inputs => readUi
  | .presentation => readPresentation

/-- The written form of a document. -/
def write : (k : Kind) → k.Value → Json
  | .page => Page.toJson
  | .process => Process.toJson
  | .service => Service.toJson
  | .bridge => Bridge.toJson
  | .binding => Binding.toJson
  | .activity => Activity.toJson
  | .reference => Reference.toJson
  | .commonActivity => CommonActivity.toJson
  | .parameter => Parameter.toJson
  | .sharedParameter => SharedParameter.toJson
  | .generate => Generate.toJson
  | .storeResult => StoreTarget.toJson
  | .autostart => writeTexts
  | .openInput => OpenInput.toJson
  | .valueSource => ValueSource.toJson
  | .inputs => Ui.toJson
  | .presentation => Presentation.toJson

theorem restores : (k : Kind) → Restores k.read k.write
  | .page => restores_page
  | .process => restores_process
  | .service => restores_service
  | .bridge => restores_bridge
  | .binding => restores_binding
  | .activity => restores_activity
  | .reference => restores_reference
  | .commonActivity => restores_commonActivity
  | .parameter => restores_parameter
  | .sharedParameter => restores_shared
  | .generate => restores_generate
  | .storeResult => restores_storeTarget
  | .autostart => restores_autostart
  | .openInput => restores_openInput
  | .valueSource => restores_valueSource
  | .inputs => restores_ui
  | .presentation => restores_presentation

end Kind

/-- **Documents round trip.**  What was read from any JSON value as a document of any kind is read
back from its written form, with its dictionaries in the same order; and what is read back is
written the same again. -/
theorem documents_round_trip (k : Kind) (x : Json) (d : k.Value) (read : k.read x = .ok d) :
    k.read (k.write d) = .ok d ∧ (k.read (k.write d)).map k.write = .ok (k.write d) := by
  have back : k.read (k.write d) = .ok d := k.restores x d read
  refine ⟨back, ?_⟩
  rw [back]
  rfl

/-- An activity that closes a till and prints the total. -/
def closing : CommonActivity := .definition
  { title := "Close", moduleFunction := some "close",
    parameters := [("total", { store := some { scope := .activity, key := "total" } })],
    subActivities := [("print", { moduleFunction := some "print" })] }

/-- The same as an author may write it: fields in another order or left out, the older name of a
scope, and the inner activity as an array. -/
def closingAsWritten : Json := .object
  [("moduleFunction", .string "close"), ("title", .string "Close"),
    ("subActivities", .object
      [("print", .array [.string "", .null, .null, .string "print"])]),
    ("parameters", .object
      [("total", .object
        [("store", .object [("scope", .string "activit"), ("key", .string "total")])])])]

theorem documents_round_trip_closing :
    Kind.commonActivity.read closingAsWritten = .ok closing
      ∧ Kind.commonActivity.read (Kind.commonActivity.write closing) = .ok closing
      ∧ closingAsWritten ≠ Kind.commonActivity.write closing := by
  have read : Kind.commonActivity.read closingAsWritten = .ok closing := rfl
  obtain ⟨back, -⟩ := documents_round_trip .commonActivity closingAsWritten closing read
  exact ⟨read, back, by decide +kernel⟩

end Pageflow.Document
