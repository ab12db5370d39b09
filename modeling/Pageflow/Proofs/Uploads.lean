/-
  Pageflow.Proofs.Uploads — files in multipart bodies.

  A file input gives the value of its file in one of three forms: a description of the file, the
  list of its bytes, or its text.  A multipart body is encoded from values alone, so each form has
  to be told from the others by its looks, and turned back into the bytes of the file.  That
  succeeds for every file but an empty one that is read as bytes: an empty list is taken for a
  text, and is sent as one.

  Main definitions: `Part.content`, `Serves`, `Gives` and `Readable`.
  Main statements: `gives_readFileInput`, `gives_part_read` and `upload_keeps_content`.
-/
import Mathlib.Data.List.Forall2
import Pageflow.Proofs.Task
import Pageflow.Proofs.Vouched
import Pageflow.Remote.Request

namespace Pageflow

open Document (FileInput)

/-! ## §1. Contents. -/

/-- The bytes that a part carries. -/
def Http.Part.content : Http.Part → Bytes
  | .text s => Utf8.encode s
  | .bytes _ data => data

/-- The answers give this content for the file at a path. -/
structure Serves {ω : Type} (environment : Task.Environment ω) (path : String)
    (content : Bytes) : Prop where
  bytes : ∀ world, (environment (.fileBytes path) world).1 = .ok content
  size : ∀ world, (environment (.fileSize path) world).1 = .ok content.length

/-- Answers from these files; nobody else answers. -/
def shelf (files : Dict Bytes) : Task.Environment Unit
  | .call _ _, world => (.error .cancelled, world)
  | .send _, world => (.error (.network ""), world)
  | .fileBytes path, world => ((files.get? path).elim (.error .notFound) .ok, world)
  | .fileSize path, world =>
    ((files.get? path).elim (.error .notFound) fun content => .ok content.length, world)
  | .fetch _, world => (.error "", world)

theorem serves_shelf {files : Dict Bytes} {path : String} {content : Bytes}
    (h : files.get? path = some content) : Serves (shelf files) path content where
  bytes _ := by
    simp only [shelf, h]
    rfl
  size _ := by
    simp only [shelf, h]
    rfl

/-- The content can be read as the declaration says: as a text it has to be one. -/
def Readable (f : FileInput) (content : Bytes) : Prop :=
  f.keepAsFile = true ∨ f.binary = true ∨ ∃ text, Utf8.decode? content = some text

namespace Run

open Pageflow.Flow (Input)
open Pageflow.Http (Part)
open Pageflow.Remote (Operation bytes? part parts)

variable {σ ε α β ω : Type} {environment : Task.Environment ω} {s : σ}

/-! ## §2. Runs that give a value. -/

/-- From this state the run gives the value and changes nothing, whatever has been answered
before. -/
def Gives (environment : Task.Environment ω) (r : Run σ ε α) (s : σ) (a : α) : Prop :=
  ∀ world, ∃ world', (r s).finish environment world = (some (.ok a, s), world')

theorem gives_pure (a : α) : Gives environment (Pure.pure a : Run σ ε α) s a :=
  fun world => ⟨world, rfl⟩

theorem gives_bind {r : Run σ ε α} {next : α → Run σ ε β} {a : α} {b : β}
    (hr : Gives environment r s a) (hn : Gives environment (next a) s b) :
    Gives environment (r >>= next) s b := by
  intro world
  obtain ⟨middle, first⟩ := hr world
  obtain ⟨after, second⟩ := hn middle
  refine ⟨after, ?_⟩
  show ((r s).bind _).finish environment world = _
  rw [Task.finish_bind, first]
  exact second

theorem gives_ask (q : Query) {answer : q.Answer}
    (h : ∀ world, (environment q world).1 = answer) :
    Gives environment (ask q : Run σ ε q.Answer) s answer := by
  intro world
  refine ⟨(environment q world).2, ?_⟩
  show (some (Except.ok (environment q world).1, s), (environment q world).2) = _
  rw [h]

/-! ## §3. From a file to its value. -/

section Files

variable {path : String} {content : Bytes}

theorem gives_readFile (h : Serves environment path content) :
    Gives environment (readFile path : Run σ _ _) s content :=
  gives_bind (gives_ask (.fileBytes path) h.bytes) (gives_pure content)

theorem gives_measureFile (h : Serves environment path content) :
    Gives environment (measureFile path : Run σ _ _) s content.length :=
  gives_bind (gives_ask (.fileSize path) h.size) (gives_pure content.length)

/-- A value that stands for the content of the file at a path. -/
inductive Stands (f : FileInput) (path : String) (content : Bytes) : Json → Prop
  | described (h : f.keepAsFile = true) :
      Stands f path content (keptFile path content.length)
  | listed (h : f.keepAsFile = false) (hb : f.binary = true) :
      Stands f path content (.ofBytes content)
  | spelled (h : f.keepAsFile = false) (hb : f.binary = false) {text : String}
      (ht : Utf8.decode? content = some text) : Stands f path content (.string text)

/-- **A file that can be read is read**, as the declaration says. -/
theorem gives_readFileInput {f : FileInput} (h : Serves environment path content)
    (readable : Readable f content) :
    ∃ value, Stands f path content value
      ∧ Gives environment (readFileInput f path : Run σ _ _) s value := by
  unfold readFileInput
  cases hk : f.keepAsFile with
  | true => exact ⟨_, .described hk, gives_bind (gives_measureFile h) (gives_pure _)⟩
  | false =>
    cases hb : f.binary with
    | true => exact ⟨_, .listed hk hb, gives_bind (gives_readFile h) (gives_pure _)⟩
    | false =>
      obtain ⟨text, ht⟩ : ∃ text, Utf8.decode? content = some text := by
        rcases readable with kept | binary | text
        · rw [kept] at hk
          contradiction
        · rw [binary] at hb
          contradiction
        · exact text
      refine ⟨_, .spelled hk hb ht, gives_bind (gives_readFile h) ?_⟩
      simp only [ht]
      exact gives_pure _

/-! ## §4. From a value to a part. -/

/-- Only an object can describe a file. -/
theorem keptFile?_of_members? {value : Json} (h : value.members? = none) :
    keptFile? value = none := by
  rw [keptFile?, h]
  rfl

/-- **Bytes are known again in their list**, unless there are none. -/
theorem bytes?_ofBytes {content : Bytes} (h : content ≠ []) :
    bytes? (.ofBytes content) = some content := by
  have items : ∀ bytes : Bytes,
      ((bytes.map fun b => Json.ofNat b.toNat).mapM fun item =>
        item.nat?.bind fun n => if n ≤ 255 then some n.toUInt8 else none) = some bytes := by
    intro bytes
    induction bytes with
    | nil => rfl
    | cons b rest ih =>
      have small : b.toNat ≤ 255 := Nat.le_of_lt_succ b.toNat_lt
      simp only [List.map_cons, List.mapM_cons, ih]
      simp [Json.ofNat, Json.integer, Json.nat?, small]
  cases content with
  | nil => contradiction
  | cons b rest => exact items (b :: rest)

-- A value becomes a part by its looks: a described file, a list of bytes, and else a text.

theorem gives_part_described (h : Serves environment path content) :
    Gives environment (part (keptFile path content.length) : Run σ _ _) s
      (.bytes (some ((Path.fileName? path).getD "")) content) := by
  unfold part
  rw [keptFile?_keptFile]
  exact gives_bind (gives_readFile h) (gives_pure _)

theorem gives_part_bytes {value : Json} (hk : keptFile? value = none) {data : Bytes}
    (hb : bytes? value = some data) :
    Gives environment (part value : Run σ _ _) s (.bytes none data) := by
  unfold part
  rw [hk, hb]
  exact gives_pure _

theorem gives_part_text {value : Json} (hk : keptFile? value = none)
    (hb : bytes? value = none) :
    Gives environment (part value : Run σ _ _) s (.text value.toText) := by
  unfold part
  rw [hk, hb]
  exact gives_pure _

/-- **A value that stands for a file becomes a part with the content of the file**, unless it is
the list of no bytes. -/
theorem gives_part_read {f : FileInput} {value : Json} (h : Serves environment path content)
    (stands : Stands f path content value) :
    ∃ p, Gives environment (part value : Run σ _ _) s p
      ∧ p.content = if f.keepAsFile = false ∧ f.binary = true ∧ content = [] then
          Utf8.encode "[]" else content := by
  cases stands with
  | described hk =>
    refine ⟨_, gives_part_described h, ?_⟩
    rw [if_neg (by simp [hk])]
    rfl
  -- a list without items passes for no bytes, and is spelled out
  | listed hk hb =>
    have plain : keptFile? (.ofBytes content) = none := keptFile?_of_members? rfl
    by_cases empty : content = []
    · refine ⟨_, gives_part_text plain (by rw [empty]; rfl), ?_⟩
      rw [if_pos ⟨hk, hb, empty⟩, empty]
      rfl
    · refine ⟨_, gives_part_bytes plain (bytes?_ofBytes empty), ?_⟩
      rw [if_neg fun all => empty all.2.2]
      rfl
  | @spelled hk hb text ht =>
    refine ⟨_, gives_part_text (keptFile?_of_members? rfl) rfl, ?_⟩
    rw [if_neg (by simp [hb])]
    exact Utf8.encode_of_decode? ht

end Files

/-! ## §5. Whole bodies. -/

/-- A member of a body becomes a part of the same name. -/
def Encodes (environment : Task.Environment ω) (s : σ) (m : String × Json)
    (p : String × Part) : Prop :=
  p.1 = m.1 ∧ Gives environment (part m.2) s p.2

/-- Members become parts one by one. -/
theorem gives_parts {members : List (String × Json)} {ps : List (String × Part)}
    (h : List.Forall₂ (Encodes environment s) members ps) :
    Gives environment (parts members : Run σ _ _) s ps := by
  induction h with
  | nil => exact gives_pure []
  | @cons m p members ps first _ ih =>
    obtain ⟨name, value⟩ := m
    obtain ⟨name', q⟩ := p
    obtain ⟨rfl, first⟩ := first
    exact gives_bind first (gives_bind ih (gives_pure _))

/-- The body with the value of a file input among other members. -/
def bodyWith (o : Operation) (i : Input) (name : String) (before behind : List (String × Json)) :
    Run State ExecutionError Http.Body := do
  let value ← inputValue i
  o.body (some (.object (before ++ (name, value) :: behind)))

/-- **An uploaded file arrives with its content**: what a file input reads, in any mode that can
read it, becomes a part with exactly the bytes of the file, under any name and next to any other
parts.  Only an empty file that is read as bytes does not; the text of an empty list arrives in
its place. -/
theorem upload_keeps_content {s : State} {o : Operation} {i : Input} {f : FileInput}
    {path : String} {content : Bytes} {before behind : List (String × Json)}
    {partsBefore partsBehind : List (String × Part)}
    (multipart : o.operation.content = some .multipart) (file : i.kind = .file f)
    (selected : s.file? i.service i.name = some path)
    (serves : Serves environment path content) (readable : Readable f content) (name : String)
    (hbefore : List.Forall₂ (Encodes environment s) before partsBefore)
    (hbehind : List.Forall₂ (Encodes environment s) behind partsBehind) :
    ∃ p, Gives environment (bodyWith o i name before behind) s
        (.multipart (partsBefore ++ (name, p) :: partsBehind))
      ∧ p.content = if f.keepAsFile = false ∧ f.binary = true ∧ content = [] then
          Utf8.encode "[]" else content := by
  obtain ⟨value, stands, read⟩ := gives_readFileInput (s := s) serves readable
  obtain ⟨p, encoded, content_eq⟩ := gives_part_read (s := s) serves stands
  refine ⟨p, gives_bind (a := value) ?_ ?_, content_eq⟩
  · intro world
    obtain ⟨world', read⟩ := read world
    refine ⟨world', ?_⟩
    unfold inputValue
    rw [get_bind_apply]
    simp only [file, selected]
    exact read
  · have all : List.Forall₂ (Encodes environment s) (before ++ (name, value) :: behind)
        (partsBefore ++ (name, p) :: partsBehind) :=
      List.rel_append hbefore (.cons ⟨rfl, encoded⟩ hbehind)
    unfold Operation.body
    rw [multipart]
    exact gives_bind (gives_parts all) (gives_pure _)

/-- An operation that takes a multipart body. -/
def uploadOperation : Operation where
  capability := "upload"
  operation :=
    { path := "/files", method := "post", operationId := some "upload", parameters := []
      headers := [], content := some .multipart }
  backend := { service := "files" }

/-- A file input that reads its file as bytes. -/
def bytesInput : Input := ⟨"files", "report", .file { binary := true }⟩

/-- The file at this path is selected with it. -/
def withReport (path : String) : State := State.setFile {} "files" "report" path

/-- A file whose two bytes spell an empty list arrives as these two bytes, next to a text. -/
theorem upload_keeps_content_brackets :
    (withReport "brackets.bin").file? "files" "report" = some "brackets.bin" ∧
      ∃ p, Gives (shelf [("brackets.bin", [91, 93])])
          (bodyWith uploadOperation bytesInput "document" [("note", .string "new")] [])
          (withReport "brackets.bin") (.multipart [("note", .text "new"), ("document", p)])
        ∧ p.content = [91, 93] := by
  refine ⟨rfl, ?_⟩
  have note : Encodes (shelf [("brackets.bin", [91, 93])]) (withReport "brackets.bin")
      ("note", .string "new") ("note", .text "new") :=
    ⟨rfl, gives_part_text rfl rfl⟩
  have readable : Readable { binary := true } [91, 93] := .inr (.inl rfl)
  exact upload_keeps_content rfl rfl rfl (serves_shelf rfl) readable "document"
    (.cons note .nil) .nil

/-- An empty file that is read as bytes can be read, and arrives as a text of two bytes. -/
theorem empty_file_arrives_as_brackets :
    Readable { binary := true } [] ∧ Serves (shelf [("empty.bin", [])]) "empty.bin" [] ∧
      ((bodyWith uploadOperation bytesInput "document" [] [] (withReport "empty.bin")).finish
          (shelf [("empty.bin", [])]) ()).1
        = some (.ok (.multipart [("document", .text "[]")]), withReport "empty.bin") ∧
      (Part.text "[]").content = [91, 93] :=
  ⟨.inr (.inl rfl), serves_shelf rfl, rfl, by decide +kernel⟩

end Run

end Pageflow
