/-
  Pageflow.Document.Decode — reading typed values out of JSON.

  A reader takes a JSON value to a typed one or says why it cannot.  A record is read from an
  object, by the names of its fields, or from an array, by their order.  Every field knows the
  place where it was written; when several fields are wrong, the one written first is reported.

  Main definitions: `Reader`, `FieldReader`, `record` and `oneOf`.
-/
import Pageflow.Json.Printer
import Pageflow.Text.Quoted

namespace Pageflow

theorem exists_of_map_eq_ok {ε α β : Type} {x : Except ε α} {f : α → β} {b : β}
    (h : x.map f = .ok b) : ∃ a, x = .ok a ∧ f a = b := by
  cases x with
  | ok a => exact ⟨a, rfl, Except.ok.inj h⟩
  | error e => contradiction

namespace Document

/-! ## §1. What can be wrong with a value -/

/-- Why a value cannot be read. -/
inductive DecodeError where
  | wrongType (found : Json) (expected : String)
  | wrongValue (found : Json) (expected : String)
  | wrongLength (found : Nat) (expected : String)
  | missingField (name : String)
  | duplicateField (name : String)
  | unknownVariant (name : String) (known : List String)
  | noVariant (type : String)
deriving DecidableEq

/-- What a value is called in a refusal. -/
def describe : Json → String
  | .null => "null"
  | .bool true => "boolean `true`"
  | .bool false => "boolean `false`"
  | .number (.integer n) => s!"integer `{n}`"
  | .number (.binary x) => "floating point `" ++ Json.printBinary x ++ "`"
  | .string s => "string " ++ Text.quoted s
  | .array _ => "sequence"
  | .object _ => "map"

/-- Names between backquotes. -/
def alternatives : List String → String
  | [] => "there are no variants"
  | [a] => "expected `" ++ a ++ "`"
  | [a, b] => "expected `" ++ a ++ "` or `" ++ b ++ "`"
  | names => "expected one of " ++ Text.join ", " (names.map fun n => "`" ++ n ++ "`")

/-- The wording of a refusal. -/
def DecodeError.message : DecodeError → String
  | .wrongType found expected => "invalid type: " ++ describe found ++ ", expected " ++ expected
  | .wrongValue found expected => "invalid value: " ++ describe found ++ ", expected " ++ expected
  | .wrongLength found expected => s!"invalid length {found}, expected " ++ expected
  | .missingField name => "missing field `" ++ name ++ "`"
  | .duplicateField name => "duplicate field `" ++ name ++ "`"
  | .unknownVariant name known => "unknown variant `" ++ name ++ "`, " ++ alternatives known
  | .noVariant type => "data did not match any variant of untagged enum " ++ type

/-! ## §2. Readers of whole values -/

/-- A reader of typed values. -/
abbrev Reader (α : Type) := Json → Except DecodeError α

/-- Any value. -/
def anything : Reader Json := .ok

def text : Reader String
  | .string s => .ok s
  | v => .error (.wrongType v "a string")

def truth : Reader Bool
  | .bool b => .ok b
  | v => .error (.wrongType v "a boolean")

/-- Any number, as a double. -/
def binary : Reader Binary64
  | .number (.integer n) => .ok (.ofInt n)
  | .number (.binary x) => .ok x
  | v => .error (.wrongType v "f64")

/-- `null` for a missing value. -/
def optional {α : Type} (read : Reader α) : Reader (Option α)
  | .null => .ok none
  | v => (read v).map some

/-- Every item of an array. -/
def readAll {α : Type} (read : Reader α) : List Json → Except DecodeError (List α)
  | [] => .ok []
  | v :: rest =>
    match read v with
    | .error e => .error e
    | .ok a =>
      match readAll read rest with
      | .error e => .error e
      | .ok as => .ok (a :: as)

/-- An array. -/
def list {α : Type} (read : Reader α) : Reader (List α)
  | .array items => readAll read items
  | v => .error (.wrongType v "a sequence")

/-- Every member of an object. -/
def readMembers {α : Type} (read : Reader α) : List (String × Json) → Except DecodeError (Dict α)
  | [] => .ok []
  | (k, v) :: rest =>
    match read v with
    | .error e => .error e
    | .ok a =>
      match readMembers read rest with
      | .error e => .error e
      | .ok as => .ok ((k, a) :: as)

/-- An object whose keys are free. -/
def dict {α : Type} (read : Reader α) : Reader (Dict α)
  | .object members => readMembers read members
  | v => .error (.wrongType v "a map")

/-- One of several names; a name may also be the only member of an object, with `null`. -/
def choice {α : Type} (names : List (String × α)) : Reader α
  | .string s => named s
  | .object [(s, v)] =>
    match named s, v with
    | .ok a, .null => .ok a
    | .ok _, v => .error (.wrongType v "unit")
    | .error e, _ => .error e
  | v@(.object _) => .error (.wrongValue v "map with a single key")
  | v => .error (.wrongType v "string or map")
where
  /-- The alternative of this name. -/
  named (s : String) : Except DecodeError α :=
    match names.find? (·.1 = s) with
    | some (_, a) => .ok a
    | none => .error (.unknownVariant s (names.map Prod.fst))

/-- The first reader that accepts the value. -/
def oneOf {α : Type} (type : String) (readers : List (Reader α)) : Reader α := fun v =>
  match readers.findSome? fun read => (read v).toOption with
  | some a => .ok a
  | none => .error (.noVariant type)

/-! ## §3. Records -/

/-- The fields of a record that are still to be read: members of an object, or the items of an
array from the given place on, with what the array should have been. -/
inductive Source where
  | members (entries : List (String × Json))
  | items (place : Nat) (left : List Json) (shape : String)

/-- A result, or a refusal with the place where it arose. -/
abbrev Placed (α : Type) := Except (Nat × DecodeError) α

/-- Reads some fields of a record and leaves the others. -/
structure FieldReader (α : Type) where
  run : Source → Placed α × Source

/-- Both results; of two refusals the one written first. -/
def Placed.both {α β : Type} : Placed (α → β) → Placed α → Placed β
  | .ok f, .ok a => .ok (f a)
  | .ok _, .error e => .error e
  | .error e, .ok _ => .error e
  | .error e, .error d => .error (if d.1 < e.1 then d else e)

instance : Functor FieldReader where
  map f r := ⟨fun source =>
    let (a, rest) := r.run source
    (a.map f, rest)⟩

instance : Applicative FieldReader where
  pure a := ⟨fun source => (.ok a, source)⟩
  seq f r := ⟨fun source =>
    let (g, rest) := f.run source
    let (a, rest) := (r ()).run rest
    (g.both a, rest)⟩

/-- The members of the given names, with their places from `place` on. -/
def occurrences (names : List String) : Nat → List (String × Json) → List (Nat × Json)
  | _, [] => []
  | place, (k, v) :: rest =>
    if k ∈ names then (place, v) :: occurrences names (place + 1) rest
    else occurrences names (place + 1) rest

/-- Marks a refusal with its place. -/
def placed {α : Type} (place : Nat) : Except DecodeError α → Placed α
  | .ok a => .ok a
  | .error e => .error (place, e)

/-- A field known under `name` and other names.  `absent` is its value when it is not written;
without one it has to be. -/
def fieldAs {α : Type} (name : String) (others : List String) (absent : Option α)
    (read : Reader α) : FieldReader α :=
  ⟨fun source =>
    match source with
    | .members entries =>
      let result : Placed α :=
        match occurrences (name :: others) 0 entries, absent with
        | [], some a => .ok a
        | [], none => .error (entries.length, .missingField name)
        | [(place, v)], _ => placed place (read v)
        | (place, v) :: (again, _) :: _, _ =>
          match read v with
          | .error e => .error (place, e)
          | .ok _ => .error (again, .duplicateField name)
      (result, source)
    | .items place (v :: rest) shape => (placed place (read v), .items (place + 1) rest shape)
    | .items place [] shape =>
      match absent with
      | some a => (.ok a, .items (place + 1) [] shape)
      | none => (.error (place, .wrongLength place shape), .items (place + 1) [] shape)⟩

/-- A field that has to be written. -/
def required {α : Type} (name : String) (read : Reader α) : FieldReader α :=
  fieldAs name [] none read

/-- A field with a value for when it is not written. -/
def field {α : Type} (name : String) (absent : α) (read : Reader α) : FieldReader α :=
  fieldAs name [] (some absent) read

/-- A field that may be missing or `null`. -/
def field? {α : Type} (name : String) (read : Reader α) : FieldReader (Option α) :=
  field name none (optional read)

/-- A record of the given type name and number of fields. -/
def record {α : Type} (type : String) (size : Nat) (fields : FieldReader α) : Reader α
  | .object members =>
    match (fields.run (.members members)).1 with
    | .ok a => .ok a
    | .error (_, e) => .error e
  | .array items =>
    match fields.run (.items 0 items (s!"struct {type} with {size} elements")) with
    | (.error (_, e), _) => .error e
    | (.ok _, .items _ (_ :: _) _) =>
      .error (.wrongLength items.length "fewer elements in array")
    | (.ok a, _) => .ok a
  | v => .error (.wrongType v ("struct " ++ type))

/-! ## §4. Depth -/

mutual

/-- How deep containers nest in a value. -/
def depth : Json → Nat
  | .array items => depthItems items + 1
  | .object members => depthMembers members + 1
  | _ => 0

/-- The greatest depth among items. -/
def depthItems : List Json → Nat
  | [] => 0
  | v :: rest => max (depth v) (depthItems rest)

/-- The greatest depth among members. -/
def depthMembers : List (String × Json) → Nat
  | [] => 0
  | (_, v) :: rest => max (depth v) (depthMembers rest)

end

end Document

end Pageflow
