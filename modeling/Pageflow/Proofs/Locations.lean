/-
  Pageflow.Proofs.Locations — where references lead.

  A reference in the document at a file leads to the file of that name beside it, unless it is an
  address.  Every text of the form of an address counts as one, also if its scheme is neither that
  of the web nor that of files; such a text then is the path of a file, but no longer beside the
  document.  A file beside one at an absolute path does not depend on the directory one is in.

      beside "/srv/pages/main.json" "../flow.json" = "/srv/pages/../flow.json"

  Main definitions: `beside`, `Path.HasName` and `IsPath`.
  Main statements: `join_file_iff`, `forall_join_beside_iff` and `not_isAddress_of_no_colon`.
-/
import Mathlib.Data.List.Basic
import Pageflow.Load.Location

namespace Pageflow

/-! ## §1. Directories. -/

namespace Path

variable {path directory' : String}

/-- Something in the path counts besides where it starts. -/
def HasName (path : String) : Prop := piecesBack path.toList ≠ []

instance (path : String) : Decidable (HasName path) := inferInstanceAs (Decidable (_ ≠ _))

theorem directory_of_not_hasName (h : ¬HasName path) : directory path = "" := by
  have none : piecesBack path.toList = [] := not_not.mp h
  simp only [directory, none]

/-- The directory of an absolute path is absolute. -/
theorem isAbsolute_directory (absolute : isAbsolute path = true) (named : HasName path) :
    isAbsolute (directory path) = true := by
  obtain ⟨cs, chars⟩ : ∃ cs, path.toList = '/' :: cs :=
    List.head?_eq_some_iff.mp (of_decide_eq_true absolute)
  obtain ⟨piece, pieces, hp⟩ := List.exists_cons_of_ne_nil named
  simp only [directory, hp]
  rw [chars, isAbsolute, String.toList_ofList]
  rfl

theorem isAbsolute_join (absolute : isAbsolute directory' = true) (path : String) :
    isAbsolute (join directory' path) = true := by
  have front (more : String) : isAbsolute (directory' ++ more) = true := by
    obtain ⟨cs, chars⟩ := List.head?_eq_some_iff.mp (of_decide_eq_true absolute)
    rw [isAbsolute, String.toList_append, chars]
    rfl
  unfold join
  split
  · assumption
  split
  · exact front path
  · rw [String.append_assoc]
    exact front _

/-- A path that is not absolute does not depend on the directory only if there is none. -/
theorem join_eq_self_iff (relative : isAbsolute path = false) :
    join directory' path = path ↔ directory' = "" := by
  have longer {front : String} (h : front ++ path = path) : front = "" := by
    have chars := congrArg String.toList h
    rw [String.toList_append] at chars
    exact String.toList_eq_nil_iff.mp (List.append_left_eq_self.mp chars)
  constructor
  · intro h
    rw [join, if_neg (by simp [relative])] at h
    split at h
    · exact longer h
    · have := congrArg String.length (longer h)
      rw [String.length_append] at this
      contradiction
  · rintro rfl
    rw [join, if_neg (by simp [relative])]
    exact String.empty_append

/-- **A path is the same from everywhere exactly if it is absolute.** -/
theorem forall_join_eq_iff :
    (∀ directory, join directory path = path) ↔ isAbsolute path = true := by
  constructor
  · intro h
    by_contra relative
    exact absurd ((join_eq_self_iff (by simpa using relative)).mp (h "d")) (by decide)
  · exact fun absolute directory => join_of_isAbsolute directory absolute

end Path

namespace Load

/-- The path of a file that is named in the document at another one. -/
def beside (path reference : String) : String := Path.join (Path.directory path) reference

/-- Files beside one at an absolute path are the same from everywhere, if that is not the root. -/
theorem forall_join_beside_iff {path reference : String} (absolute : Path.isAbsolute path = true)
    (relative : Path.isAbsolute reference = false) :
    (∀ directory, Path.join directory (beside path reference) = beside path reference)
      ↔ Path.HasName path := by
  rw [Path.forall_join_eq_iff, beside]
  by_cases named : Path.HasName path
  · exact iff_of_true (Path.isAbsolute_join (Path.isAbsolute_directory absolute named) _) named
  · rw [Path.directory_of_not_hasName named, (Path.join_eq_self_iff relative).mpr rfl, relative]
    exact iff_of_false Bool.false_ne_true named

/-! ## §2. References. -/

/-- The reference is no absolute path and no address of the web or of a file. -/
structure IsPath (reference : String) : Prop where
  relative : Path.isAbsolute reference = false
  foreign : ∀ url, Url.parse reference = .ok url → url.scheme ∉ ["http", "https", "file"]

namespace Location

variable {path reference : String}

theorem join_of_not_isAddress (h : isAddress reference = false) :
    (Location.file path).join reference = .ok (.file (beside path reference)) := by
  rw [Location.join.eq_def, if_neg (by simp [h])]
  rfl

/-- An address that is neither of the web nor of a file is taken for a path as it stands. -/
theorem join_of_isAddress (foreign : ∀ url, Url.parse reference = .ok url →
    url.scheme ∉ ["http", "https", "file"]) (h : isAddress reference = true) (base : Location) :
    base.join reference = .ok (.file reference) := by
  rw [Location.join.eq_def, if_pos h, parse]
  cases parsed : Url.parse reference with
  | error e => rfl
  | ok url =>
    have other := foreign url parsed
    simp only [List.mem_cons, List.not_mem_nil, or_false, not_or] at other
    simp [other.1, other.2.1, Url.isFile, other.2.2]

/-- **A reference leads to the file beside its document exactly if it is no address**, or if the
document is where one is. -/
theorem join_file_iff (h : IsPath reference) :
    (Location.file path).join reference = .ok (.file (beside path reference))
      ↔ isAddress reference = false ∨ Path.directory path = "" := by
  cases address : isAddress reference with
  | false => simp [join_of_not_isAddress address]
  | true =>
    rw [join_of_isAddress h.foreign address, beside, Except.ok.injEq, Location.file.injEq, eq_comm,
      Path.join_eq_self_iff h.relative]
    simp

theorem colon_mem_of_scheme? {cs : List Char} {found : String × List Char}
    (h : Url.scheme? cs = some found) : ':' ∈ cs := by
  unfold Url.scheme? at h
  split at h
  next c cs =>
    split at h
    · dsimp only [Url.cutBefore] at h
      split at h
      next cut =>
        exact List.mem_cons_of_mem _
          ((List.dropWhile_suffix _).mem (cut ▸ List.mem_cons_self))
      next => contradiction
    · contradiction
  next => contradiction

theorem mem_of_mem_significant {c : Char} (h : c ∈ Url.significant reference) :
    c ∈ reference.toList := by
  have stripped := List.mem_of_mem_filter h
  rw [Text.stripWhile, Text.dropEndWhile, List.mem_reverse] at stripped
  exact (List.dropWhile_suffix _).mem (List.mem_reverse.mp ((List.dropWhile_suffix _).mem stripped))

/-- Without a colon a reference is no address. -/
theorem not_isAddress_of_no_colon (h : ':' ∉ reference.toList) : isAddress reference = false := by
  have schemeless : Url.scheme? (Url.significant reference) = none := by
    rw [Option.eq_none_iff_forall_ne_some]
    intro found hf
    exact h (mem_of_mem_significant (colon_mem_of_scheme? hf))
  have unparsed : Url.parse reference = .error .withoutBase := by
    rw [Url.parse, Url.parseFrom, schemeless]
    rfl
  rw [isAddress, unparsed]

end Location

end Load

end Pageflow
