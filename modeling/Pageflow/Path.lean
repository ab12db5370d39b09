/-
  Pageflow.Path — file paths.

  A path is a text; pieces between slashes that are empty or a single dot do not count, except a
  dot at the very start.  Operations keep the spelling of whatever they do not remove.
-/
import Pageflow.Text.Blank

namespace Pageflow.Path

/-! ## §1. Parts of a path -/

/-- Whether a path starts at the root. -/
def isAbsolute (path : String) : Bool := path.toList.head? = some '/'

/-- The start of a path that belongs to no piece: a slash, or a dot that stands alone. -/
def start : List Char → List Char
  | '/' :: _ => ['/']
  | ['.'] | '.' :: '/' :: _ => ['.']
  | _ => []

/-- Whether a piece does not count. -/
def isIdle (piece : List Char) : Bool := piece = [] || piece = ['.']

/-- The pieces after the start, last first, from the last one that counts. -/
def piecesBack (path : List Char) : List (List Char) :=
  (Text.splitAt '/' (path.drop (start path).length)).reverse.dropWhile isIdle

/-- Pieces, last first, with slashes between them. -/
def ofPiecesBack (pieces : List (List Char)) : List Char :=
  (pieces.reverse.intersperse ['/']).flatten

/-! ## §2. Operations -/

/-- The directory that a path lies in. -/
def directory (path : String) : String :=
  let cs := path.toList
  match piecesBack cs with
  | [] => ""
  | _ :: rest => String.ofList (start cs ++ ofPiecesBack (rest.dropWhile isIdle))

/-- The name of the file, if the path ends in one. -/
def fileName? (path : String) : Option String :=
  match piecesBack path.toList with
  | [] => none
  | piece :: _ => if piece = ['.', '.'] then none else some (String.ofList piece)

/-- A path as seen from a directory. -/
def join (directory path : String) : String :=
  if isAbsolute path then path
  else if directory.isEmpty || directory.toList.getLast? = some '/' then directory ++ path
  else directory ++ "/" ++ path

/-- An absolute path does not depend on the directory. -/
theorem join_of_isAbsolute (directory : String) {path : String} (h : isAbsolute path = true) :
    join directory path = path := by
  simp [join, h]

end Pageflow.Path
