/-
  Pageflow.Store — named stores of values.

  One store belongs to each service, one to the process, and one lives as long as a run.  A store
  shows its entries in the order in which their keys were first written.

  Main statements: `read_write_self` and `read_write_of_ne`.
-/
import Pageflow.Journal
import Pageflow.Json.Value

namespace Pageflow

/-- A named store. -/
structure Store where
  name : String
  values : Dict Json := []
deriving DecidableEq, Inhabited

namespace Store

/-- The value under a key, if it was ever written. -/
def get? (s : Store) (key : String) : Option Json := s.values.get? key

/-- The value under a key; `null` if it was never written. -/
def read (s : Store) (key : String) : Json := (s.get? key).getD .null

/-- What is noted when a key is read that was never written. -/
def missNotes (s : Store) (key : String) : List Note :=
  match s.get? key with
  | some _ => []
  | none => [.error "store has no value for key" [("store", s.name), ("key", key)]]

/-- Writes a value under a key. -/
def write (s : Store) (key : String) (value : Json) : Store :=
  { s with values := s.values.insert key value }

/-- Whether a key was written. -/
def contains (s : Store) (key : String) : Bool := s.values.contains key

/-- Forgets every entry. -/
def clear (s : Store) : Store := { s with values := [] }

@[simp] theorem read_write_self (s : Store) (key : String) (value : Json) :
    (s.write key value).read key = value := by
  simp [read, get?, write]

theorem read_write_of_ne (s : Store) {key other : String} (value : Json) (h : other ≠ key) :
    (s.write key value).read other = s.read other := by
  simp [read, get?, write, Dict.get?_insert_of_ne _ _ h]

@[simp] theorem values_clear (s : Store) : s.clear.values = [] := rfl

end Store

end Pageflow
