/-
  Pageflow.Load.Integrity — whether a page and its process fit together.

  Validation looks at one document at a time.  The checks here look across both: services known to
  both, activities that others require, stores that are read, and the entries of sequences.  All
  checks always run; only the problems of fatal ones prevent loading.

  Main definitions: `problems` and `fatalProblems`.
-/
import Pageflow.Document.Page
import Pageflow.Journal

namespace Pageflow.Load

open Document (StoreScope StoreTarget processService)

/-! ## §1. Problems -/

/-- The checks. -/
inductive Check where
  | pageServices
  | requiredActivities
  | storageAccess
  | sequences
deriving DecidableEq, Inhabited

/-- The name of a check. -/
def Check.label : Check → String
  | .pageServices => "pageServices"
  | .requiredActivities => "requiredActivities"
  | .storageAccess => "storageAccess"
  | .sequences => "sequences"

/-- All checks, in the order in which they run. -/
def Check.all : List Check := [.pageServices, .requiredActivities, .storageAccess, .sequences]

/-- What declares a parameter. -/
inductive Owner where
  | activity (service name : String)
  | shared (service name : String)
deriving DecidableEq, Inhabited

/-- The owner as it is named in a problem. -/
def Owner.label : Owner → String
  | .activity service name => "activity '" ++ service ++ ":" ++ name ++ "'"
  | .shared service name => "shared parameter '" ++ service ++ ":" ++ name ++ "'"

/-- A problem of two documents. -/
inductive Problem where
  | onlyInPage (service : String)
  | onlyInProcess (service : String)
  | unknownRequired (service name target required : String)
  | unwrittenStore (reader : Owner) (target : StoreTarget)
  | unknownStep (service sequence activity : String)
deriving DecidableEq, Inhabited

/-- The wording of a problem. -/
def Problem.message : Problem → String
  | .onlyInPage service =>
    "Service '" ++ service ++ "' from the page is not defined in the process"
  | .onlyInProcess service =>
    "Service '" ++ service ++ "' from the process is not defined in the page"
  | .unknownRequired service name target required =>
    "activity '" ++ service ++ ":" ++ name ++ "' requires unknown activity '" ++ target ++ ":"
      ++ required ++ "'"
  | .unwrittenStore reader target =>
    reader.label ++ " reads '" ++ target.key ++ "' from the " ++ target.scope.label
      ++ " store but no activity stores it"
  | .unknownStep service sequence activity =>
    "sequence '" ++ service ++ ":" ++ sequence ++ "' names unknown activity '" ++ activity ++ "'"

/-! ## §2. Declared activities -/

/-- An activity with its service and name. -/
structure Declared where
  service : String
  name : String
  activity : Document.Activity
deriving Inhabited

mutual

/-- An activity and every activity inside it. -/
def declaredIn (service name : String) (a : Document.Activity) : List Declared :=
  match a with
  | ⟨_, _, _, _, _, _, _, subActivities, _, _, _, _⟩ =>
    ⟨service, name, a⟩ :: declaredAll service subActivities

/-- Activities and every activity inside them. -/
def declaredAll (service : String) : List (String × Document.Activity) → List Declared
  | [] => []
  | (name, a) :: rest => declaredIn service name a ++ declaredAll service rest

end

/-- The activities of an entry of the process; a reference has only those inside it. -/
def declaredCommon (name : String) : Document.CommonActivity → List Declared
  | .definition a => declaredIn processService name a
  | .reference r => declaredAll processService r.subActivities

/-- Every activity of a process. -/
def declared (p : Document.Process) : List Declared :=
  (p.services.flatMap fun (service, s) => declaredAll service s.activities)
    ++ p.common.activities.flatMap fun (name, entry) => declaredCommon name entry

/-- The activities that a service has at its top, by service and name. -/
def topLevel (p : Document.Process) : List (String × String) :=
  (p.services.flatMap fun (service, s) => s.activities.keys.map fun name => (service, name))
    ++ p.common.activities.keys.map fun name => (processService, name)

/-- Every activity by service and name. -/
def names (p : Document.Process) : List (String × String) :=
  topLevel p ++ (declared p).map fun d => (d.service, d.name)

/-! ## §3. Services, required activities and sequences -/

/-- Services that one of the two documents lacks. -/
def serviceProblems (page : Document.Page) (p : Document.Process) : List Problem :=
  ((page.services.keys.filter fun name => !p.services.contains name).map .onlyInPage)
    ++ (p.services.keys.filter fun name => !page.services.contains name).map .onlyInProcess

/-- Required activities that do not exist. -/
def requiredProblems (p : Document.Process) : List Problem :=
  let known := names p
  (declared p).flatMap fun d =>
    d.activity.requiredActivities.filterMap fun r =>
      let target := r.serviceName.getD d.service
      if known.contains (target, r.activityName) then none
      else some (.unknownRequired d.service d.name target r.activityName)

/-- Entries of sequences that do not exist. -/
def sequenceProblems (p : Document.Process) : List Problem :=
  let known := topLevel p
  let sequences := (p.services.map fun (service, s) => (service, s.sequences))
    ++ [(processService, p.common.sequences)]
  sequences.flatMap fun (service, sequences) =>
    sequences.flatMap fun (name, s) =>
      s.activities.filterMap fun activity =>
        if known.contains (service, activity) then none
        else some (.unknownStep service name activity)

/-! ## §4. Stores -/

/-- A key of a store, with the service if the store belongs to one. -/
structure Slot where
  scope : StoreScope
  service : String
  key : String
deriving DecidableEq, Inhabited

/-- The slot that a service means; the service store of the process is the process store. -/
def slot (service : String) (t : StoreTarget) : Slot :=
  let key := t.splitKey.1
  match t.scope with
  | .service =>
    if service = processService then ⟨.process, "", key⟩ else ⟨.service, service, key⟩
  | .process => ⟨.process, "", key⟩
  | .activity => ⟨.activity, "", key⟩

/-- A read of a store. -/
structure StoreRead where
  owner : Owner
  service : String
  target : StoreTarget
deriving DecidableEq, Inhabited

mutual

/-- The stores that a parameter and the parameters of its generated value read. -/
def storeTargets : Document.Parameter → List StoreTarget
  | ⟨_, _, _, _, _, store, _, generate, _, _⟩ => store.toList ++ storeTargetsOfGenerate? generate

/-- The stores that a generated value reads. -/
def storeTargetsOfGenerate? : Option (Document.GenerateOf Document.Parameter) → List StoreTarget
  | none => []
  | some g => storeTargetsOfGenerate g

/-- The stores that a generated value reads. -/
def storeTargetsOfGenerate : Document.GenerateOf Document.Parameter → List StoreTarget
  | ⟨_, _, parameters⟩ => storeTargetsOfAll parameters

/-- The stores that parameters read. -/
def storeTargetsOfAll : List (String × Document.Parameter) → List StoreTarget
  | [] => []
  | (_, p) :: rest => storeTargets p ++ storeTargetsOfAll rest

end

/-- The reads of activities. -/
def activityReads (p : Document.Process) : List StoreRead :=
  (declared p).flatMap fun d =>
    (storeTargetsOfAll (d.activity.parameters ++ d.activity.requestBody.getD [])).map
      fun target => ⟨.activity d.service d.name, d.service, target⟩

/-- The reads of the shared parameters of a service. -/
def sharedReads (service : String) (shared : Dict Document.SharedParameter) : List StoreRead :=
  shared.flatMap fun (name, parameter) =>
    match parameter with
    | .field _ => []
    | .definition d =>
      (storeTargets d).map fun target => ⟨.shared service name, service, target⟩

/-- Every read. -/
def storeReads (page : Document.Page) (p : Document.Process) : List StoreRead :=
  activityReads p
    ++ (p.services.flatMap fun (service, s) => sharedReads service s.parameters)
    ++ (page.services.flatMap fun (service, s) => sharedReads service s.parameters)
    ++ sharedReads processService p.common.parameters
    ++ sharedReads processService page.common.parameters

/-- The slots that results are written to. -/
def writtenSlots (p : Document.Process) : List Slot :=
  (declared p).filterMap fun d => d.activity.storeResult.map (slot d.service)

/-- Reads of slots that nothing writes. -/
def storageProblems (page : Document.Page) (p : Document.Process) : List Problem :=
  let written := writtenSlots p
  (storeReads page p).filterMap fun r =>
    if written.contains (slot r.service r.target) then none
    else some (.unwrittenStore r.owner r.target)

/-! ## §5. All checks -/

/-- The problems that a check finds. -/
def Check.problems (page : Document.Page) (p : Document.Process) : Check → List Problem
  | .pageServices => serviceProblems page p
  | .requiredActivities => requiredProblems p
  | .storageAccess => storageProblems page p
  | .sequences => sequenceProblems p

/-- The problems of fatal checks. -/
def fatalProblems (fatal : List Check) (page : Document.Page) (p : Document.Process) :
    List Problem :=
  (Check.all.filter fatal.contains).flatMap (Check.problems page p)

/-- What is noted of the problems of other checks. -/
def problemNotes (fatal : List Check) (page : Document.Page) (p : Document.Process) :
    List Note :=
  (Check.all.filter fun check => !fatal.contains check).flatMap fun check =>
    (check.problems page p).map fun problem =>
      .warn "integrity check failed" [("check", check.label), ("problem", problem.message)]

end Pageflow.Load
