/-
  Pageflow.Load.Location — where documents are.

  A document is behind an address of the web or in a file.  What one document says about another
  is meant relative to where it is itself.

  Main definitions: `Location.parse` and `Location.join`.
-/
import Pageflow.Path
import Pageflow.Text.Quoted
import Pageflow.Url.Basic

namespace Pageflow.Load

/-! ## §1. Places -/

/-- The place of a document. -/
inductive Location where
  | web (url : Url)
  | file (path : String)
deriving DecidableEq, Inhabited

/-- Why a text names no place. -/
inductive LocationError where
  | foreignFile (text : String)
  | unresolved (reference : String) (base : Url) (cause : Url.ParseError)
deriving DecidableEq, Inhabited

/-- What was being done. -/
def LocationError.message : LocationError → String
  | .foreignFile text => "invalid file URL '" ++ text ++ "'"
  | .unresolved reference base _ => "resolve '" ++ reference ++ "' against " ++ base.text

/-- What was being done, and why it failed. -/
def LocationError.fullMessage : LocationError → String
  | .unresolved reference base cause =>
    (LocationError.unresolved reference base cause).message ++ ": " ++ cause.message
  | e => e.message

namespace Location

/-- The place as it is shown. -/
def text : Location → String
  | .web u => u.text
  | .file path => path

/-- Whether the name says that the document is YAML. -/
def isYaml (l : Location) : Bool :=
  let name := match l with
    | .web u => u.path.text
    | .file path => path
  [".yaml", ".yml"].any fun ending => ending.toList.reverse.isPrefixOf name.toList.reverse

/-! ## §2. Reading places -/

/-- Addresses of the web stay such, addresses of files become paths, all else is a path. -/
def parse (raw : String) : Except LocationError Location :=
  match Url.parse raw with
  | .ok url =>
    if url.scheme = "http" || url.scheme = "https" then .ok (.web url)
    else if Url.isFile url.scheme then
      match url.filePath? with
      | some path => .ok (.file path)
      | none => .error (.foreignFile raw)
    else .ok (.file raw)
  | .error _ => .ok (.file raw)

/-- Whether a reference is an address of its own.  A scheme of one letter is a drive. -/
def isAddress (reference : String) : Bool :=
  match Url.parse reference with
  | .ok url => 1 < url.scheme.length
  | .error _ => false

/-- The place that a reference names in a document at `base`. -/
def join (base : Location) (reference : String) : Except LocationError Location :=
  if isAddress reference then parse reference
  else
    match base with
    | .web u =>
      match u.join reference with
      | .ok url => .ok (.web url)
      | .error cause => .error (.unresolved reference u cause)
    | .file path => .ok (.file (Path.join (Path.directory path) reference))

end Location

end Pageflow.Load
