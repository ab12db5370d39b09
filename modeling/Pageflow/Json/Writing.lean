/-
  Pageflow.Json.Writing — small values as JSON.
-/
import Pageflow.Json.Value
import Pageflow.Text.Utf8

namespace Pageflow.Json

/-- A number. -/
def ofNat (n : Nat) : Json := .integer n

/-- Texts in order. -/
def ofTexts (l : List String) : Json := .array (l.map .string)

/-- Pairs of texts in order. -/
def ofPairs (l : List (String × String)) : Json :=
  .array (l.map fun (a, b) => .array [.string a, .string b])

/-- Entries in order. -/
def ofEntries (l : List (String × Json)) : Json :=
  .array (l.map fun (name, v) => .array [.string name, v])

/-- An optional value; its absence is `null`. -/
def ofOption {α : Type} (write : α → Json) : Option α → Json
  | some a => write a
  | none => .null

/-- Bytes as a list of numbers. -/
def ofBytes (bytes : Bytes) : Json := .array (bytes.map fun b => .ofNat b.toNat)

end Pageflow.Json
