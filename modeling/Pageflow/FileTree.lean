/-
  Pageflow.FileTree — files kept in memory.

  A tree of files answers questions about paths the way a disk does: a path is followed piece by
  piece, and the first piece that leads nowhere is the failure.  Paths start where the tree does.

  Main definitions: `FileTree.read`, `FileTree.write` and `FileTree.remove`.
-/
import Pageflow.Path
import Pageflow.Run.Task

namespace Pageflow

/-- The pieces that lead from the root to a place. -/
abbrev Place := List String

/-- Places with what is there: the bytes of a file, or a directory. -/
abbrev FileTree := List (Place × Option Bytes)

namespace FileTree

/-! ## §1. Following paths -/

/-- Whether something is at a place. -/
def contains (t : FileTree) (place : Place) : Bool :=
  place.isEmpty || t.any fun (p, _) => place.isPrefixOf p

/-- Whether a file is at a place. -/
def isFile (t : FileTree) (place : Place) : Bool :=
  t.any fun (p, content) => p = place && content.isSome

/-- The pieces of a path, as they are written. -/
def pieces (path : String) : List String := (Text.splitAt '/' path.toList).map String.ofList

/-- Whether a piece does not lead anywhere. -/
def isIdle (piece : String) : Bool := piece = "" || piece = "."

/-- The greatest number of bytes in a piece. -/
def pieceLimit : Nat := 255

/-- The place above another one; those above the root have no names of their own. -/
def above (place : Place) : Place :=
  if place.all (· = "..") then place ++ [".."] else place.dropLast

/-- Follows one piece from a place. -/
def follow (t : FileTree) (place : Place) (piece : String) : Except FileError Place :=
  if t.isFile place then .error .notDirectory
  else if isIdle piece then .ok place
  else if piece = ".." then .ok (above place)
  else if pieceLimit < piece.utf8ByteSize then
    .error (.other "File name too long (os error 36)")
  else if t.contains (place ++ [piece]) then .ok (place ++ [piece])
  else .error .notFound

/-- The place that a path leads to. -/
def resolve (t : FileTree) (path : String) : Except FileError Place :=
  if path.isEmpty then .error .notFound
  else if path.toList.contains (Char.ofNat 0) then
    .error (.other "file name contained an unexpected NUL byte")
  else if Path.isAbsolute path then
    if (pieces path).all fun p => isIdle p || p = ".." then .ok [] else .error .notFound
  else (pieces path).foldlM t.follow []

/-! ## §2. Reading and writing -/

/-- The bytes of the file at a path. -/
def read (t : FileTree) (path : String) : Except FileError Bytes := do
  match t.lookup (← t.resolve path) with
  | some (some bytes) => .ok bytes
  | _ => .error .isDirectory

/-- The size of a directory. -/
def directorySize : Nat := 4096

/-- The size of what is at a path. -/
def size (t : FileTree) (path : String) : Except FileError Nat := do
  match t.lookup (← t.resolve path) with
  | some (some bytes) => .ok bytes.length
  | _ => .ok directorySize

/-- The place that a path names, whatever is there. -/
def placeOf (path : String) : Place := (pieces path).filter fun p => !isIdle p

/-- Puts a file, or without content a directory, at a path; its directory comes with it. -/
def write (t : FileTree) (path : String) (content : Option Bytes) : FileTree :=
  let place := placeOf path
  (t.filter fun (p, _) => p ≠ place) ++ [(place.dropLast, none), (place, content)]

/-- Removes what is at a path. -/
def remove (t : FileTree) (path : String) : FileTree :=
  let place := placeOf path
  t.filter fun (p, _) => p ≠ place

end FileTree

end Pageflow
