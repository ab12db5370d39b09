/-
  Pageflow.Flow.Writing — flows as JSON, to look at.

  Activities are listed by place, with what each of their parameters comes from; services with
  their activities and sequences.
-/
import Pageflow.Flow.Basic
import Pageflow.Json.Writing

namespace Pageflow.Flow

/-- A source: its kind and what it names. -/
def Source.toJson : Source → Json
  | input name => .ofTexts ["input", name]
  | parentResult => .ofTexts ["parent"]
  | previousResult => .ofTexts ["previous"]
  | constant value => .array [.string "constant", value]
  | store scope key path =>
    .array [.string "store", .string scope.label, .string key, .ofText? path]
  | queryParam name => .ofTexts ["queryParam", name]
  | generate activity => .array [.string "generate", .ofNat activity]
  | fileInput name => .ofTexts ["fileInput", name]

/-- Sources as they are shown, by parameter. -/
def sourceLabels (sources : Dict Source) : Json := .ofPairs (sources.mapValues Source.label)

/-- An activity among those of its flow. -/
def Activity.toJson (arena : List Activity) (a : Activity) : Json :=
  .object [("name", .string a.name), ("title", .string a.title), ("service", .string a.service),
    ("parent", .ofOption .ofNat a.parent),
    ("kind", .ofText? (a.strategy.map Strategy.label)),
    ("parameterNames", .ofOption (fun s => .ofTexts (s.parameterNames arena)) a.strategy),
    ("parameters", sourceLabels a.parameters),
    ("dynamic", .ofEntries (a.dynamicParameters.mapValues fun p =>
      .ofText? (p.source?.map Source.label))),
    ("requestBody", sourceLabels a.requestBody),
    ("preProcess", .ofText? (a.preProcess.map Function.name)),
    ("sub", .array (a.subActivities.map .ofNat)),
    ("generated", .bool a.isGenerated), ("skips", .bool a.skips)]

/-- A sequence by name. -/
def sequenceJson (name : String) (s : Document.Sequence) : Json :=
  .array [.string name, .ofText? s.title, .ofTexts s.activities]

/-- An input as it is listed. -/
def Input.label (i : Input) : String := if i.isFile then i.name ++ " (file)" else i.name

/-- A service with the name of its store and the inputs that are known by now. -/
def Service.toJson (s : Service) (store : String) (inputs : List Input) : Json :=
  .object [("name", .string s.name), ("title", .string s.title), ("store", .string store),
    ("autostart", .ofTexts s.autostart), ("inputs", .ofTexts (inputs.map Input.label)),
    ("sequences", .array (s.sequences.map fun (name, sequence) => sequenceJson name sequence)),
    ("activities", .ofEntries (s.activities.mapValues .ofNat)),
    ("hasBridge", .bool s.hasBridge)]

/-- The activities of a flow. -/
def activitiesJson (flow : Flow) : Json := .array (flow.arena.map (Activity.toJson flow.arena))

/-- The activities of a flow that cannot run. -/
def inactiveJson (flow : Flow) : Json :=
  .array (flow.inactive.map fun a => .ofTexts [a.service, a.name, a.title, a.label])

end Pageflow.Flow
