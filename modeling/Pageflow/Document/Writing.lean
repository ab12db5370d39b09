/-
  Pageflow.Document.Writing — the documents as JSON.

  Every field is written, under its own name and in the order of its declaration; a missing value
  is `null`.
-/
import Pageflow.Document.Page

namespace Pageflow.Document

/-! ## §1. Small values -/

/-- An optional value; its absence is `null`. -/
def writeOption {α : Type} (write : α → Json) : Option α → Json
  | some a => write a
  | none => .null

def writeText? : Option String → Json := writeOption .string

def writeBool? : Option Bool → Json := writeOption .bool

def writeTexts (l : List String) : Json := .array (l.map .string)

/-- A dictionary as an object. -/
def writeDict {α : Type} (write : α → Json) (d : Dict α) : Json := .object (d.mapValues write)

/-! ## §2. Inputs -/

def InputField.toJson (f : InputField) : Json :=
  .object [("label", .string f.label), ("default", writeText? f.default?),
    ("fromQueryParam", writeText? f.fromQueryParam), ("textArea", .bool f.textArea)]

def SelectOption.toJson (o : SelectOption) : Json :=
  .object [("label", .string o.label), ("value", .string o.value)]

def Select.toJson (s : Select) : Json :=
  .object [("label", .string s.label), ("options", .array (s.options.map SelectOption.toJson)),
    ("default", writeText? s.default?)]

def CheckBox.toJson (c : CheckBox) : Json :=
  .object [("label", .string c.label), ("default", .bool c.checked)]

def Button.toJson (b : Button) : Json :=
  .object [("label", .string b.label), ("triggerActivity", writeText? b.triggerActivity),
    ("triggerSequence", writeText? b.triggerSequence),
    ("activityService", writeText? b.activityService)]

def FileInput.toJson (f : FileInput) : Json :=
  .object [("label", .string f.label), ("accept", writeText? f.accept),
    ("binary", .bool f.binary), ("readImmediately", .bool f.readImmediately),
    ("keepAsFile", .bool f.keepAsFile)]

def Ui.toJson (ui : Ui) : Json :=
  .object [("inputFields", writeDict InputField.toJson ui.inputFields),
    ("selects", writeDict Select.toJson ui.selects),
    ("checkBoxes", writeDict CheckBox.toJson ui.checkBoxes),
    ("buttons", writeDict Button.toJson ui.buttons),
    ("fileInputs", writeDict FileInput.toJson ui.fileInputs)]

/-! ## §3. Parameters -/

def StoreTarget.toJson (t : StoreTarget) : Json :=
  .object [("context", .string t.scope.label), ("key", .string t.key)]

mutual

def Parameter.toJson : Parameter → Json
  | ⟨valueType, field, parent, previous, constant, store, queryParam, generate, fileInput,
      isDynamic⟩ =>
    .object [("type", writeText? valueType), ("field", writeText? field),
      ("parent", .bool parent), ("previous", .bool previous),
      ("constant", constant.getD .null), ("store", writeOption StoreTarget.toJson store),
      ("queryParam", writeText? queryParam), ("generate", writeGenerate? generate),
      ("fileInput", writeText? fileInput), ("dynamic", .bool isDynamic)]

/-- An optional generated value. -/
def writeGenerate? : Option (GenerateOf Parameter) → Json
  | none => .null
  | some g => writeGenerate g

/-- A generated value. -/
def writeGenerate : GenerateOf Parameter → Json
  | ⟨bridgeCapability, moduleFunction, parameters⟩ =>
    .object [("bridgeCapability", writeText? bridgeCapability),
      ("moduleFunction", writeText? moduleFunction),
      ("parameters", .object (writeParameters parameters))]

/-- The members of a dictionary of parameters. -/
def writeParameters : List (String × Parameter) → List (String × Json)
  | [] => []
  | (name, p) :: rest => (name, p.toJson) :: writeParameters rest

end

theorem writeParameters_eq (ps : List (String × Parameter)) :
    writeParameters ps = Dict.mapValues Parameter.toJson ps := by
  induction ps with
  | nil => rfl
  | cons e rest ih =>
    obtain ⟨name, p⟩ := e
    rw [writeParameters, ih]
    rfl

def Generate.toJson (g : Generate) : Json := writeGenerate g

def SharedParameter.toJson : SharedParameter → Json
  | .field name => .string name
  | .definition p => p.toJson

/-! ## §4. Activities -/

def Required.toJson (r : Required) : Json :=
  .object [("serviceName", writeText? r.serviceName), ("activityName", .string r.activityName),
    ("errorMessage", writeText? r.errorMessage)]

def OpenInput.toJson : OpenInput → Json
  | .flag on => .bool on
  | .position p => .string p.label

def Presentation.toJson (p : Presentation) : Json :=
  .object [("resultAsOutputHtml", writeText? p.resultAsOutputHtml),
    ("resultAsDynamicUI", .bool p.resultAsDynamicUi),
    ("resultsAsOpenInput", writeOption OpenInput.toJson p.resultsAsOpenInput),
    ("alert", writeBool? p.alert), ("includeInStatus", writeBool? p.includeInStatus)]

def Overrides.toJson (o : Overrides) : Json :=
  .object [("execute", writeBool? o.execute), ("resultData", o.resultData.getD .null)]

/-- A double. -/
def writeBinary (x : Binary64) : Json := .number (.binary x)

mutual

def Activity.toJson : Activity → Json
  | ⟨title, preProcess, bridgeCapability, moduleFunction, parameters, requestBody,
      requiredActivities, subActivities, storeResult, priority, ui, debug⟩ =>
    .object [("title", .string title), ("preProcess", writeText? preProcess),
      ("bridgeCapability", writeText? bridgeCapability),
      ("moduleFunction", writeText? moduleFunction),
      ("parameters", writeDict Parameter.toJson parameters),
      ("requestBody", writeOption (writeDict Parameter.toJson) requestBody),
      ("requiredActivities", .array (requiredActivities.map Required.toJson)),
      ("subActivities", .object (writeActivities subActivities)),
      ("storeResult", writeOption StoreTarget.toJson storeResult),
      ("priority", writeOption writeBinary priority), ("ui", ui.toJson),
      ("debug", writeOption Overrides.toJson debug)]

/-- The members of a dictionary of activities. -/
def writeActivities : List (String × Activity) → List (String × Json)
  | [] => []
  | (name, a) :: rest => (name, a.toJson) :: writeActivities rest

end

theorem writeActivities_eq (as : List (String × Activity)) :
    writeActivities as = Dict.mapValues Activity.toJson as := by
  induction as with
  | nil => rfl
  | cons e rest ih =>
    obtain ⟨name, a⟩ := e
    rw [writeActivities, ih]
    rfl

def Reference.toJson (r : Reference) : Json :=
  .object [("serviceName", .string r.serviceName), ("activityName", .string r.activityName),
    ("title", writeText? r.title), ("subActivities", writeDict Activity.toJson r.subActivities),
    ("debug", writeOption Overrides.toJson r.debug)]

def CommonActivity.toJson : CommonActivity → Json
  | .reference r => r.toJson
  | .definition a => a.toJson

def Sequence.toJson (s : Sequence) : Json :=
  .object [("title", writeText? s.title), ("activities", writeTexts s.activities)]

def Executed.toJson (e : Executed) : Json :=
  .object [("serviceName", .string e.serviceName), ("activityName", .string e.activityName),
    ("title", .string e.title)]

/-! ## §5. Bridges -/

def Origin.toJson {α : Type} (write : α → Json) (o : Origin α) : Json :=
  .object [("uri", writeText? o.uri), ("instance", writeOption write o.inline)]

def Backend.toJson (b : Backend) : Json :=
  .object [("openapiSchemaUri", writeText? b.openApiUri),
    ("openapiSchema", b.openApi.getD .null),
    ("apiClientModuleUri", writeText? b.clientModuleUri)]

def Selector.toJson (s : Selector) : Json :=
  .object [("path", writeText? s.path), ("method", writeText? s.method),
    ("operationId", writeText? s.operationId)]

def Capability.toJson (c : Capability) : Json :=
  .object [("operation", writeOption Selector.toJson c.operation),
    ("functionName", writeText? c.functionName), ("postProcess", writeText? c.postProcess)]

def Bridge.toJson (b : Bridge) : Json :=
  .object [("execute", b.execute.toJson),
    ("capabilities", writeDict Capability.toJson b.capabilities),
    ("supportModuleUri", writeText? b.supportModuleUri),
    ("errorMessagePath", writeText? b.errorMessagePath)]

def ValueSource.toJson : ValueSource → Json
  | .literal s => .string s
  | .constant s => .object [("constant", .string s)]
  | .queryParam name => .object [("queryParam", .string name)]
  | .field name => .object [("field", .string name)]

def Binding.toJson (b : Binding) : Json :=
  .object [("server", writeOption ValueSource.toJson b.server),
    ("authorization", writeDict ValueSource.toJson b.authorization),
    ("source", b.source.toJson Bridge.toJson)]

/-! ## §6. Processes and pages -/

def Service.toJson (s : Service) : Json :=
  .object [("title", .string s.title), ("description", writeText? s.description),
    ("ui", s.ui.toJson), ("activities", writeDict Activity.toJson s.activities),
    ("sequences", writeDict Sequence.toJson s.sequences),
    ("parameters", writeDict SharedParameter.toJson s.parameters),
    ("autostart", writeTexts s.autostart), ("bridge", writeOption Binding.toJson s.bridge)]

def Common.toJson (c : Common) : Json :=
  .object [("ui", c.ui.toJson), ("activities", writeDict CommonActivity.toJson c.activities),
    ("sequences", writeDict Sequence.toJson c.sequences),
    ("parameters", writeDict SharedParameter.toJson c.parameters),
    ("autostart", writeTexts c.autostart)]

def Process.toJson (p : Process) : Json :=
  .object [("title", .string p.title), ("description", writeText? p.description),
    ("services", writeDict Service.toJson p.services), ("common", p.common.toJson),
    ("scriptUri", writeText? p.scriptUri)]

def PageService.toJson (s : PageService) : Json :=
  .object [("title", writeText? s.title), ("description", writeText? s.description),
    ("bridge", writeOption Binding.toJson s.bridge),
    ("parameters", writeDict SharedParameter.toJson s.parameters),
    ("autostart", writeTexts s.autostart)]

def PageCommon.toJson (c : PageCommon) : Json :=
  .object [("description", writeText? c.description),
    ("parameters", writeDict SharedParameter.toJson c.parameters),
    ("autoStart", writeTexts c.autostart)]

def Page.toJson (p : Page) : Json :=
  .object [("title", .string p.title), ("description", writeText? p.description),
    ("process", p.process.toJson Process.toJson),
    ("services", writeDict PageService.toJson p.services),
    ("scriptUri", writeText? p.scriptUri), ("common", p.common.toJson)]

end Pageflow.Document
