/-
  Pageflow.Run.Trail — what activities have done.

  The trail of a process says which stages the runs of its activities have reached, in the order
  in which that happened.  It is a history: runs write it and nothing reads it, so that what an
  activity does never depends on it.
-/
import Pageflow.Json.Value

namespace Pageflow.Run

/-- The results before an activity: of the activity above it and of the one next to it. -/
structure Inherited where
  parent : Option Json := none
  previous : Option Json := none
deriving DecidableEq, Inhabited

/-- A stage that the run of an activity reaches. -/
inductive Stage where
  /-- It starts, after these results. -/
  | entered (before : Inherited)
  /-- The activity is active, and all that it requires has run. -/
  | admitted
  /-- Its strategy is called. -/
  | called
  /-- Its result is known, and stored if it is to be stored. -/
  | settled (result : Json)
  /-- It has ended with this result, and its sub-activities too. -/
  | completed (result : Json)
  /-- It has failed. -/
  | failed
deriving DecidableEq, Inhabited

/-- An entry of the trail: the place of an activity and the stage of its run. -/
structure Mark where
  place : Nat
  stage : Stage
deriving DecidableEq, Inhabited

end Pageflow.Run
