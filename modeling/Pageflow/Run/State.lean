/-
  Pageflow.Run.State — what a run can change.

  The host lends a run its inputs; the run keeps the stores, the inputs registered with each
  service, the log of executed activities, and what it shows, reports and notes.  A service that
  runs knows under which name it was started.

  Main statements: `isExecuted_recordExecuted` and `executed_recordFailed`.
-/
import Pageflow.Flow.Input
import Pageflow.Run.Trail
import Pageflow.Store

namespace Pageflow.Run

open Document (Executed InsertPosition Ui)
open Pageflow.Flow (Input inputsOf)

/-! ## §1. Services -/

/-- What changes about a service. -/
structure ServiceState where
  store : Store
  inputs : Dict Input := []
  /-- What the service was started for, while it runs. -/
  running : Option String := none
deriving DecidableEq, Inhabited

namespace ServiceState

/-- A service of this name before anything happens. -/
def new (name : String) : ServiceState := { store := { name := name ++ " store" } }

/-- Adds the inputs of a declaration; known names keep their places. -/
def register (s : ServiceState) (service : String) (ui : Ui) : ServiceState :=
  { s with inputs := s.inputs.insertAll (inputsOf service ui) }

end ServiceState

/-! ## §2. What the host sees -/

/-- Something that is shown. -/
inductive Display where
  | content (service target : String) (value : Json)
  | inputs (service : String) (names : List String)
  | openInput (service : String) (value : Json) (position : InsertPosition)
  | alert (message : String)
deriving DecidableEq, Inhabited

/-- The kinds of events. -/
inductive EventKind where
  | completed
  | failed
deriving DecidableEq, Inhabited

/-- Something that happened to an activity. -/
structure Event where
  kind : EventKind
  activity : Executed
deriving DecidableEq, Inhabited

/-- Whether somebody listens for events. -/
inductive Listener where
  | absent
  | listening
  | gone
deriving DecidableEq, Inhabited

/-! ## §3. The state -/

/-- The state of a run. -/
structure State where
  /-- The query parameters of the page. -/
  query : Dict String := []
  /-- The values that the host has set, by service and input. -/
  values : Dict (Dict Json) := []
  /-- The files that the host has selected, by service and input. -/
  files : Dict (Dict String) := []
  /-- The declared services. -/
  services : Dict ServiceState := []
  /-- The process itself. -/
  process : ServiceState := .new Document.processService
  /-- The store that lives as long as a run. -/
  scratch : Store := { name := "Activity store" }
  executed : List Executed := []
  listener : Listener := .absent
  events : List Event := []
  displays : List Display := []
  log : List Note := []
  /-- The stages that the runs of activities have reached; nothing reads them. -/
  trail : List Mark := []
deriving DecidableEq, Inhabited

namespace State

instance : Journal State where
  write note s := { s with log := s.log ++ [note] }

/-- The service of this name, the process itself included. -/
def service? (s : State) (name : String) : Option ServiceState :=
  if name = Document.processService then some s.process else s.services.get? name

/-- Changes the service of this name, if there is one. -/
def modifyService (s : State) (name : String) (f : ServiceState → ServiceState) : State :=
  if name = Document.processService then { s with process := f s.process }
  else
    match s.services.get? name with
    | some service => { s with services := s.services.insert name (f service) }
    | none => s

/-- The input of a service. -/
def input? (s : State) (service name : String) : Option Input :=
  (s.service? service).bind fun service => service.inputs.get? name

/-- Sets the value of an input. -/
def setValue (s : State) (service input : String) (value : Json) : State :=
  { s with values :=
      s.values.insert service (((s.values.get? service).getD []).insert input value) }

/-- Selects a file with an input. -/
def setFile (s : State) (service input path : String) : State :=
  { s with files :=
      s.files.insert service (((s.files.get? service).getD []).insert input path) }

/-- The value that the host has set. -/
def value? (s : State) (service input : String) : Option Json :=
  (s.values.get? service).bind fun values => values.get? input

/-- The file that the host has selected. -/
def file? (s : State) (service input : String) : Option String :=
  (s.files.get? service).bind fun files => files.get? input

/-- Adds to the trail. -/
def mark (place : Nat) (stage : Stage) (s : State) : State :=
  { s with trail := s.trail ++ [⟨place, stage⟩] }

/-- Shows something. -/
def display (d : Display) (s : State) : State := { s with displays := s.displays ++ [d] }

/-- Reports an event to whoever listens. -/
def emit (event : Event) (s : State) : State :=
  match s.listener with
  | .absent => s
  | .listening => { s with events := s.events ++ [event] }
  | .gone => Journal.write (.debug "event receiver dropped; event discarded" []) s

/-- Whether an activity has run. -/
def isExecuted (s : State) (service activity : String) : Bool :=
  s.executed.any fun e => e.isAbout service activity

/-- The log with an activity that has run; it is listed once. -/
def remember (e : Executed) (log : List Executed) : List Executed :=
  if log.any fun known => known.isAbout e.serviceName e.activityName then log else log ++ [e]

/-- Records that an activity has run: once in the log, every time as an event. -/
def recordExecuted (e : Executed) (s : State) : State :=
  emit ⟨.completed, e⟩ { s with executed := remember e s.executed }

/-- Reports that an activity has failed. -/
def recordFailed (e : Executed) (s : State) : State := emit ⟨.failed, e⟩ s

/-! ## §4. Laws of the services -/

theorem service?_modifyService (s : State) (name other : String)
    (f : ServiceState → ServiceState) : (s.modifyService name f).service? other
      = if other = name then (s.service? name).map f else s.service? other := by
  by_cases hp : name = Document.processService
  · subst hp
    by_cases ho : other = Document.processService <;> simp [modifyService, service?, ho]
  · cases hs : s.services.get? name with
    | none =>
      by_cases ho : other = name
      · simp [modifyService, service?, hp, hs, ho]
      · simp [modifyService, hp, hs, ho]
    | some service =>
      by_cases ho : other = name
      · simp [modifyService, service?, hp, hs, ho]
      · simp [modifyService, service?, hp, hs, ho, Dict.get?_insert_of_ne]

@[simp] theorem service?_emit (event : Event) (s : State) (name : String) :
    (emit event s).service? name = s.service? name := by
  cases h : s.listener <;> simp [emit, h, service?, Journal.write]

@[simp] theorem scratch_emit (event : Event) (s : State) :
    (emit event s).scratch = s.scratch := by
  cases h : s.listener <;> simp [emit, h, Journal.write]

@[simp] theorem scratch_modifyService (s : State) (name : String)
    (f : ServiceState → ServiceState) : (s.modifyService name f).scratch = s.scratch := by
  unfold modifyService
  split
  · rfl
  split <;> rfl

/-! ## §5. Laws of the trail -/

@[simp] theorem trail_mark (place : Nat) (stage : Stage) (s : State) :
    (s.mark place stage).trail = s.trail ++ [⟨place, stage⟩] := rfl

@[simp] theorem trail_write (n : Note) (s : State) : (Journal.write n s).trail = s.trail := rfl

@[simp] theorem trail_emit (event : Event) (s : State) : (emit event s).trail = s.trail := by
  cases h : s.listener <;> simp [emit, h]

@[simp] theorem trail_modifyService (s : State) (name : String)
    (f : ServiceState → ServiceState) : (s.modifyService name f).trail = s.trail := by
  unfold modifyService
  split
  · rfl
  split <;> rfl

/-! ## §6. Laws of the log -/

@[simp] theorem executed_write (n : Note) (s : State) :
    (Journal.write n s).executed = s.executed := rfl

@[simp] theorem executed_emit (event : Event) (s : State) :
    (emit event s).executed = s.executed := by
  cases h : s.listener <;> simp [emit, h]

@[simp] theorem executed_recordFailed (e : Executed) (s : State) :
    (recordFailed e s).executed = s.executed := by
  simp [recordFailed]

@[simp] theorem executed_modifyService (s : State) (name : String)
    (f : ServiceState → ServiceState) : (s.modifyService name f).executed = s.executed := by
  unfold modifyService
  split
  · rfl
  split <;> rfl

theorem any_remember (e : Executed) (log : List Executed) (service activity : String) :
    (remember e log).any (·.isAbout service activity)
      = (log.any (·.isAbout service activity) || e.isAbout service activity) := by
  unfold remember
  split
  next h =>
    by_cases ha : e.isAbout service activity = true
    · simp only [ha, Bool.or_true]
      rw [Executed.isAbout_iff] at ha
      rw [ha.1, ha.2] at h
      exact h
    · simp [ha]
  next => simp

/-- After recording an activity exactly it and what had run before count as executed. -/
theorem isExecuted_recordExecuted (e : Executed) (s : State) (service activity : String) :
    (recordExecuted e s).isExecuted service activity
      = (s.isExecuted service activity || e.isAbout service activity) := by
  simp only [recordExecuted, isExecuted, executed_emit]
  exact any_remember e s.executed service activity

end State

end Pageflow.Run
