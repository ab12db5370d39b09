/-
  Pageflow.Document.Reading — the documents out of JSON.

  One reader per type of document.  Unknown members do not count, a missing field has its
  default, and `null` is a missing value where a value is optional.  Parameters and activities
  nest in themselves; their readers go as deep as the value does.
-/
import Pageflow.Document.Decode
import Pageflow.Document.Page

namespace Pageflow.Document

/-! ## §1. Inputs -/

def readInputField : Reader InputField :=
  record "InputFieldDefinition" 4
    (InputField.mk <$> field "label" "" text <*> field? "default" text
      <*> field? "fromQueryParam" text <*> field "textArea" false truth)

def readSelectOption : Reader SelectOption :=
  record "SelectOption" 2 (SelectOption.mk <$> required "label" text <*> required "value" text)

def readSelect : Reader Select :=
  record "SelectDefinition" 3
    (Select.mk <$> field "label" "" text <*> field "options" [] (list readSelectOption)
      <*> field? "default" text)

def readCheckBox : Reader CheckBox :=
  record "CheckBoxDefinition" 2
    (CheckBox.mk <$> field "label" "" text <*> field "default" false truth)

def readButton : Reader Button :=
  record "ButtonDefinition" 4
    (Button.mk <$> field "label" "" text <*> field? "triggerActivity" text
      <*> field? "triggerSequence" text <*> field? "activityService" text)

def readFileInput : Reader FileInput :=
  record "FileInputDefinition" 5
    (FileInput.mk <$> field "label" "" text <*> field? "accept" text
      <*> field "binary" false truth <*> field "readImmediately" false truth
      <*> field "keepAsFile" false truth)

def readUi : Reader Ui :=
  record "ServiceUi" 5
    (Ui.mk <$> field "inputFields" [] (dict readInputField)
      <*> field "selects" [] (dict readSelect) <*> field "checkBoxes" [] (dict readCheckBox)
      <*> field "buttons" [] (dict readButton) <*> field "fileInputs" [] (dict readFileInput))

/-! ## §2. Parameters -/

def readStoreScope : Reader StoreScope :=
  choice [("service", .service), ("process", .process), ("activit", .activity),
    ("activity", .activity)]

def readStoreTarget : Reader StoreTarget :=
  record "StoreResult" 2
    (StoreTarget.mk <$> fieldAs "context" ["scope"] (some .service) readStoreScope
      <*> required "key" text)

/-- A generated value, given a reader of the parameters inside. -/
def readGenerateWith (parameter : Reader Parameter) : Reader Generate :=
  record "GenerateDefinition" 3
    (GenerateOf.mk <$> field? "bridgeCapability" text <*> field? "moduleFunction" text
      <*> field "parameters" [] (dict parameter))

/-- A parameter, given a reader of generated values. -/
def readParameterWith (generate : Reader Generate) : Reader Parameter :=
  record "ParameterDefinition" 10
    (Parameter.mk <$> field? "type" text <*> field? "field" text <*> field "parent" false truth
      <*> field "previous" false truth <*> field? "constant" anything
      <*> field? "store" readStoreTarget <*> field? "queryParam" text
      <*> field? "generate" generate <*> field? "fileInput" text
      <*> field "dynamic" false truth)

/-- A parameter whose generated values nest no deeper than `n`. -/
def readParameterTo : Nat → Reader Parameter
  | 0 => readParameterWith fun v => .error (.wrongType v "struct GenerateDefinition")
  | n + 1 => readParameterWith (readGenerateWith (readParameterTo n))

def readParameter : Reader Parameter := fun v => readParameterTo (depth v) v

def readGenerate : Reader Generate := readGenerateWith readParameter

def readSharedParameter : Reader SharedParameter :=
  oneOf "SharedParameter"
    [fun v => (text v).map .field, fun v => (readParameter v).map .definition]

/-! ## §3. Activities -/

def readRequired : Reader Required :=
  record "RequiredActivity" 3
    (Required.mk <$> field? "serviceName" text <*> required "activityName" text
      <*> field? "errorMessage" text)

def readInsertPosition : Reader InsertPosition := choice [("start", .start), ("end", .finish)]

def readOpenInput : Reader OpenInput :=
  oneOf "OpenInputSetting"
    [fun v => (truth v).map .flag, fun v => (readInsertPosition v).map .position]

def readPresentation : Reader Presentation :=
  record "ActivityUi" 5
    (Presentation.mk <$> field? "resultAsOutputHtml" text
      <*> field "resultAsDynamicUI" false truth <*> field? "resultsAsOpenInput" readOpenInput
      <*> field? "alert" truth <*> field? "includeInStatus" truth)

def readOverrides : Reader Overrides :=
  record "ActivityDebug" 2
    (Overrides.mk <$> field? "execute" truth <*> field? "resultData" anything)

/-- An activity, given a reader of the activities inside. -/
def readActivityWith (activity : Reader Activity) : Reader Activity :=
  record "ActivityDefinition" 12
    (Activity.mk <$> field "title" "" text <*> field? "preProcess" text
      <*> field? "bridgeCapability" text <*> field? "moduleFunction" text
      <*> field "parameters" [] (dict readParameter) <*> field? "requestBody" (dict readParameter)
      <*> field "requiredActivities" [] (list readRequired)
      <*> field "subActivities" [] (dict activity) <*> field? "storeResult" readStoreTarget
      <*> field? "priority" binary <*> field "ui" {} readPresentation
      <*> field? "debug" readOverrides)

/-- An activity whose sub-activities nest no deeper than `n`. -/
def readActivityTo : Nat → Reader Activity
  | 0 => readActivityWith fun v => .error (.wrongType v "struct ActivityDefinition")
  | n + 1 => readActivityWith (readActivityTo n)

def readActivity : Reader Activity := fun v => readActivityTo (depth v) v

def readReference : Reader Reference :=
  record "ActivityReference" 5
    (Reference.mk <$> required "serviceName" text <*> required "activityName" text
      <*> field? "title" text <*> field "subActivities" [] (dict readActivity)
      <*> field? "debug" readOverrides)

/-- A reference if it has what a reference needs, else an activity. -/
def readCommonActivity : Reader CommonActivity :=
  oneOf "CommonActivity"
    [fun v => (readReference v).map .reference, fun v => (readActivity v).map .definition]

def readSequence : Reader Sequence :=
  record "SequenceDefinition" 2
    (Sequence.mk <$> field? "title" text <*> field "activities" [] (list text))

def readExecuted : Reader Executed :=
  record "ExecutedActivity" 3
    (Executed.mk <$> required "serviceName" text <*> required "activityName" text
      <*> required "title" text)

/-! ## §4. Bridges -/

/-- A document by its place or spelled out. -/
def readOrigin {α : Type} (inline : Reader α) : Reader (Origin α) :=
  record "DocumentSource" 2 (Origin.mk <$> field? "uri" text <*> field? "instance" inline)

def readBackend : Reader Backend :=
  record "BridgeExecute" 3
    (Backend.mk <$> field? "openapiSchemaUri" text <*> field? "openapiSchema" anything
      <*> field? "apiClientModuleUri" text)

def readSelector : Reader Selector :=
  record "OperationSelector" 3
    (Selector.mk <$> field? "path" text <*> field? "method" text <*> field? "operationId" text)

def readCapability : Reader Capability :=
  record "CapabilityDefinition" 3
    (Capability.mk <$> field? "operation" readSelector <*> field? "functionName" text
      <*> field? "postProcess" text)

def readBridge : Reader Bridge :=
  record "BridgeDocument" 4
    (Bridge.mk <$> field "execute" {} readBackend
      <*> field "capabilities" [] (dict readCapability) <*> field? "supportModuleUri" text
      <*> field? "errorMessagePath" text)

/-- The text of one member of an object. -/
def readTagged (name : String) : Reader String
  | .object members =>
    match ((required name text).run (.members members)).1 with
    | .ok s => .ok s
    | .error (_, e) => .error e
  | v => .error (.wrongType v "a map")

def readValueSource : Reader ValueSource :=
  oneOf "ValueSource"
    [fun v => (text v).map .literal, fun v => (readTagged "constant" v).map .constant,
      fun v => (readTagged "queryParam" v).map .queryParam,
      fun v => (readTagged "field" v).map .field]

def readBinding : Reader Binding :=
  record "ServiceBridge" 3
    (Binding.mk <$> field? "server" readValueSource
      <*> field "authorization" [] (dict readValueSource)
      <*> field "source" {} (readOrigin readBridge))

/-! ## §5. Processes and pages -/

/-- One name or a list of names. -/
def readAutostart : Reader Autostart :=
  oneOf "OneOrMany" [fun v => (text v).map fun s => [s], list text]

def readService : Reader Service :=
  record "ServiceDescription" 8
    (Service.mk <$> field "title" "" text <*> field? "description" text <*> field "ui" {} readUi
      <*> field "activities" [] (dict readActivity) <*> field "sequences" [] (dict readSequence)
      <*> field "parameters" [] (dict readSharedParameter)
      <*> field "autostart" [] readAutostart <*> field? "bridge" readBinding)

def readCommon : Reader Common :=
  record "ProcessCommon" 5
    (Common.mk <$> field "ui" {} readUi <*> field "activities" [] (dict readCommonActivity)
      <*> field "sequences" [] (dict readSequence)
      <*> field "parameters" [] (dict readSharedParameter)
      <*> fieldAs "autostart" ["autoStart"] (some []) readAutostart)

def readProcess : Reader Process :=
  record "ProcessDocument" 5
    (Process.mk <$> field "title" "" text <*> field? "description" text
      <*> field "services" [] (dict readService) <*> field "common" {} readCommon
      <*> field? "scriptUri" text)

def readPageService : Reader PageService :=
  record "PageServiceDescription" 5
    (PageService.mk <$> field? "title" text <*> field? "description" text
      <*> field? "bridge" readBinding <*> field "parameters" [] (dict readSharedParameter)
      <*> field "autostart" [] readAutostart)

def readPageCommon : Reader PageCommon :=
  record "PageCommon" 3
    (PageCommon.mk <$> field? "description" text
      <*> field "parameters" [] (dict readSharedParameter)
      <*> fieldAs "autoStart" ["autostart"] (some []) readAutostart)

def readPage : Reader Page :=
  record "PageDocument" 6
    (Page.mk <$> field "title" "" text <*> field? "description" text
      <*> field "process" {} (readOrigin readProcess)
      <*> field "services" [] (dict readPageService) <*> field? "scriptUri" text
      <*> field "common" {} readPageCommon)

end Pageflow.Document
