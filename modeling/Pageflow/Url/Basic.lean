/-
  Pageflow.Url.Basic — addresses of documents and servers.

  An address has a scheme, perhaps an authority, a path and perhaps a query and a fragment.  The
  schemes of the web are special: they always have a host and a path, and a backslash counts as a
  slash in them.  Parsing writes every part in its normal form; printing puts the parts together.

  Main definitions: `Url.parse`, `Url.join` and `Url.text`.
-/
import Pageflow.Json.Selection
import Pageflow.Url.Host

namespace Pageflow

/-! ## §1. Types -/

namespace Url

/-- Who serves an address: a user, a host and a port that is not the usual one. -/
structure Authority where
  username : String := ""
  password : String := ""
  host : Option Host := none
  port : Option Nat := none
deriving DecidableEq, Inhabited

/-- A path: a text without structure, or segments each after a slash. -/
inductive Path where
  | plain (text : String)
  | segments (names : List String)
deriving DecidableEq, Inhabited

end Url

/-- An address. -/
structure Url where
  scheme : String
  authority : Option Url.Authority := none
  path : Url.Path := .segments []
  query : Option String := none
  fragment : Option String := none
deriving DecidableEq, Inhabited

namespace Url

/-! ## §2. Schemes and characters -/

/-- The usual port of a special scheme. -/
def usualPort? (scheme : String) : Option Nat :=
  match scheme with
  | "http" | "ws" => some 80
  | "https" | "wss" => some 443
  | "ftp" => some 21
  | _ => none

/-- Whether a scheme belongs to files. -/
def isFile (scheme : String) : Bool := scheme = "file"

/-- Whether a scheme is special. -/
def isSpecial (scheme : String) : Bool := isFile scheme || (usualPort? scheme).isSome

/-- A byte that is seen and not among `excluded`. -/
def keeps (excluded : List Char) (b : UInt8) : Bool :=
  Host.isPlain b && !excluded.contains (Percent.charOf b)

/-- Bytes that a fragment keeps. -/
def inFragment : UInt8 → Bool := keeps [' ', '"', '<', '>', '`']

/-- Bytes that a path keeps. -/
def inPath : UInt8 → Bool := keeps [' ', '"', '<', '>', '`', '#', '?', '{', '}']

/-- Bytes that a user name or password keeps. -/
def inUserinfo : UInt8 → Bool :=
  keeps [' ', '"', '<', '>', '`', '#', '?', '{', '}', '/', ':', ';', '=', '@', '[', '\\', ']',
    '^', '|']

/-- Bytes that a query keeps. -/
def inQuery (special : Bool) : UInt8 → Bool :=
  keeps ([' ', '"', '#', '<', '>'] ++ if special then ['\''] else [])

/-- Characters as a text in which other bytes are escaped. -/
def escape (keep : UInt8 → Bool) (cs : List Char) : String :=
  Percent.encode keep (String.ofList cs)

/-- A slash, or a backslash where it counts as one. -/
def isSlash (special : Bool) (c : Char) : Bool := c = '/' || (special && c = '\\')

/-- The text that is parsed: controls and spaces at the ends and line breaks do not count. -/
def significant (s : String) : List Char :=
  (Text.stripWhile (fun c => c.toNat ≤ 32) s.toList).filter fun c =>
    c ≠ '\t' && c ≠ '\n' && c ≠ '\r'

/-! ## §3. Query and fragment -/

/-- What stands before and after the first character of a class, that one included. -/
def cutBefore (p : Char → Bool) (cs : List Char) : List Char × List Char :=
  (cs.takeWhile fun c => !p c, cs.dropWhile fun c => !p c)

/-- The fragment after its mark. -/
def fragmentOf (cs : List Char) : String := escape inFragment cs

/-- Reads a query and a fragment, each after its mark. -/
def withTail (u : Url) : List Char → Url
  | '?' :: cs =>
    let (query, rest) := cutBefore (· = '#') cs
    { u with
      query := some (escape (inQuery (isSpecial u.scheme)) query)
      fragment := match rest with
        | _ :: fragment => some (fragmentOf fragment)
        | [] => none }
  | '#' :: cs => { u with query := none, fragment := some (fragmentOf cs) }
  | _ => { u with query := none, fragment := none }

/-! ## §4. Paths -/

/-- Whether a character ends a path. -/
def endsPath (c : Char) : Bool := c = '?' || c = '#'

/-- A dot, written as one or escaped. -/
def isDot (cs : List Char) : Bool :=
  let s := Text.lowerAscii (String.ofList cs)
  s = "." || s = "%2e"

/-- Two dots, each written as one or escaped. -/
def isDoubleDot (cs : List Char) : Bool :=
  let s := Text.lowerAscii (String.ofList cs)
  s = ".." || s = ".%2e" || s = "%2e." || s = "%2e%2e"

/-- A letter and a colon, or a bar in its place, name a drive. -/
def drive? : List Char → Option (List Char)
  | [c, ':'] | [c, '|'] => if c.isAlpha then some [c, ':'] else none
  | _ => none

/-- Whether a segment is the normal form of a drive. -/
def isDrive (segment : String) : Bool :=
  match segment.toList with
  | [c, ':'] => c.isAlpha
  | _ => false

/-- The segments without the last one; the drive of a file stays. -/
def shorten (file : Bool) : List String → List String
  | [] => []
  | [drive] => if file && isDrive drive then [drive] else []
  | _ :: back => back

/-- The segments, last first, after the pieces of a path; the last piece may leave an empty
segment. -/
def addPieces (file : Bool) : List String → List (List Char) → List String
  | back, [] => back
  | back, piece :: rest =>
    if isDoubleDot piece then
      let back := shorten file back
      addPieces file (if rest.isEmpty then "" :: back else back) rest
    else if isDot piece then addPieces file (if rest.isEmpty then "" :: back else back) rest
    else
      let segment :=
        match (if file && back.isEmpty then drive? piece else none) with
        | some drive => String.ofList drive
        | none => escape inPath piece
      addPieces file (segment :: back) rest

/-- The pieces between slashes. -/
def piecesOf (special : Bool) (cs : List Char) : List (List Char) :=
  Text.splitAt '/' (cs.map fun c => if isSlash special c then '/' else c)

/-- The segments of a path that starts after `front`. -/
def segmentsOf (scheme : String) (front : List String) (cs : List Char) : List String :=
  let back := addPieces (isFile scheme) front.reverse (piecesOf (isSpecial scheme) cs)
  if isFile scheme then
    match back.reverse.dropWhile (·.isEmpty) with
    | [] => [""]
    | names => names
  else back.reverse

/-- Reads a path after `front`, a query and a fragment. -/
def withPath (u : Url) (front : List String) (cs : List Char) : Url :=
  let (path, rest) := cutBefore endsPath cs
  { u with path := .segments (segmentsOf u.scheme front path) }.withTail rest

/-- Reads what follows an authority. -/
def withRest (u : Url) (cs : List Char) : Url :=
  let special := isSpecial u.scheme
  match cs with
  | c :: rest => if isSlash special c then u.withPath [] rest
    else if special then u.withPath [] cs
    else { u with path := .segments [] }.withTail cs
  | [] => if special then { u with path := .segments [""] } else { u with path := .segments [] }

/-! ## §5. Authorities -/

/-- Whether a character ends an authority. -/
def endsAuthority (special : Bool) (c : Char) : Bool := isSlash special c || endsPath c

/-- The user and what follows the last at sign of an authority. -/
def userAndHost (authority : List Char) : Option (List Char) × List Char :=
  match authority.reverse.span (· ≠ '@') with
  | (back, _ :: front) => (some front.reverse, back.reverse)
  | (_, []) => (none, authority)

/-- A user name and a password. -/
def credentials (user : List Char) : String × String :=
  match Text.cutAt? ':' user with
  | some (name, password) => (escape inUserinfo name, escape inUserinfo password)
  | none => (escape inUserinfo user, "")

/-- A host and what follows it; a colon inside brackets belongs to the host. -/
def cutHost (bracketed : Bool) : List Char → List Char × List Char
  | [] => ([], [])
  | c :: cs =>
    if c = ':' && !bracketed then ([], c :: cs)
    else
      let inside := if c = '[' then true else if c = ']' then false else bracketed
      let (host, rest) := cutHost inside cs
      (c :: host, rest)

/-- The greatest port. -/
def portLimit : Nat := 65535

/-- The number of a port; without digits there is none. -/
def portNumber? (digits : List Char) : Except ParseError (Option Nat) :=
  match Json.digitsValue? 0 digits with
  | some n =>
    if digits.isEmpty then .ok none else if n ≤ portLimit then .ok (some n) else .error .invalidPort
  | none => .error .invalidPort

/-- A port that is not the usual one. -/
def port? (scheme : String) (rest : List Char) : Except ParseError (Option Nat) :=
  match rest with
  | ':' :: digits =>
    match portNumber? digits with
    | .ok port => .ok (if port = usualPort? scheme then none else port)
    | .error e => .error e
  | _ => .ok none

/-- The host of an address with this scheme. -/
def hostOf (scheme : String) (host rest : List Char) : Except ParseError (Option Host) :=
  if host.isEmpty then
    if isSpecial scheme || rest.head? = some ':' then .error .emptyHost else .ok none
  else if isSpecial scheme then (Host.parse host).map some
  else (Host.parseOpaque host).map some

/-- An authority; `last` says that nothing follows it. -/
def authorityOf (scheme : String) (last : Bool) (cs : List Char) : Except ParseError Authority :=
  let (user, place) := userAndHost cs
  let (username, password) := credentials (user.getD [])
  let (host, rest) := cutHost false place
  match hostOf scheme host rest with
  | .error e => .error e
  | .ok none =>
    if username.isEmpty && password.isEmpty && (user.isNone || last) then .ok {}
    else .error .emptyHost
  | .ok host =>
    match port? scheme rest with
    | .error e => .error e
    | .ok port => .ok { username, password, host, port }

/-- Reads an address after its scheme and two slashes. -/
def afterSlashes (scheme : String) (cs : List Char) : Except ParseError Url :=
  let (authority, rest) := cutBefore (endsAuthority (isSpecial scheme)) cs
  match authorityOf scheme rest.isEmpty authority with
  | .error e => .error e
  | .ok authority => .ok ({ scheme, authority := some authority : Url }.withRest rest)

/-! ## §6. Files -/

/-- Reads the address of a file after its scheme and two slashes.  The host of this machine is
none at all, and a drive stands where a host would. -/
def fileAfterSlashes (cs : List Char) : Except ParseError Url :=
  let bare : Url := { scheme := "file", authority := some {} }
  let (host, rest) := cutBefore (endsAuthority true) cs
  if (drive? host).isSome then .ok (bare.withPath [] cs)
  else if host.isEmpty then .ok (bare.withRest rest)
  else
    match Host.parse host with
    | .error e => .error e
    | .ok (.domain "localhost") => .ok (bare.withRest rest)
    | .ok host =>
      let u := { bare with authority := some { host := some host } }.withRest rest
      match u.path with
      | .segments (first :: _) =>
        .ok (if isDrive first then { u with authority := some {} } else u)
      | _ => .ok u

/-- Reads the address of a file after its scheme. -/
def fileUrl (cs : List Char) : Except ParseError Url :=
  let bare : Url := { scheme := "file", authority := some {} }
  match cs with
  | c :: d :: rest =>
    if isSlash true c && isSlash true d then fileAfterSlashes rest
    else if isSlash true c then .ok (bare.withPath [] (d :: rest))
    else .ok (bare.withPath [] cs)
  | [c] => .ok (bare.withPath [] (if isSlash true c then [] else [c]))
  | [] => .ok (bare.withPath [] [])

/-! ## §7. Whole addresses -/

/-- A scheme in lower case, and what follows its colon. -/
def scheme? : List Char → Option (String × List Char)
  | c :: cs =>
    if c.isAlpha then
      let (name, rest) := cutBefore (fun c => !(c.isAlphanum || c = '+' || c = '-' || c = '.')) cs
      match rest with
      | ':' :: rest => some (Text.lowerAscii (String.ofList (c :: name)), rest)
      | _ => none
    else none
  | [] => none

/-- Drops slashes and backslashes from the front. -/
def dropSlashes (cs : List Char) : List Char := cs.dropWhile (isSlash true)

/-- The number of slashes and backslashes at the front. -/
def countSlashes (cs : List Char) : Nat := (cs.takeWhile (isSlash true)).length

/-- Reads an address of a scheme that is not special, after the scheme. -/
def plainUrl (scheme : String) : List Char → Except ParseError Url
  | '/' :: '/' :: cs => afterSlashes scheme cs
  | '/' :: cs => .ok ({ scheme : Url }.withPath [] cs)
  | cs =>
    let (path, rest) := cutBefore endsPath cs
    .ok ({ scheme, path := .plain (escape Host.isPlain path) : Url }.withTail rest)

/-- Reads a reference relative to an address. -/
def relative (base : Url) (cs : List Char) : Except ParseError Url :=
  match cs with
  | [] => .ok { base with fragment := none }
  | '?' :: _ => .ok (base.withTail cs)
  | '#' :: fragment => .ok { base with fragment := some (fragmentOf fragment) }
  | c :: rest =>
    if isSlash true c then
      if 2 ≤ countSlashes cs then
        match cs with
        | '/' :: '/' :: rest => afterSlashes base.scheme rest
        | _ => afterSlashes base.scheme (dropSlashes cs)
      else .ok (base.withPath [] rest)
    else
      match base.path with
      | .segments names => .ok (base.withPath names.dropLast cs)
      | .plain _ => .error .opaqueBase

/-- Reads an address after its scheme. -/
def afterScheme (base : Option Url) (scheme : String) (cs : List Char) : Except ParseError Url :=
  if isFile scheme then fileUrl cs
  else if isSpecial scheme then
    match base with
    | some base =>
      if countSlashes cs < 2 && base.scheme = scheme then base.relative cs
      else afterSlashes scheme (dropSlashes cs)
    | none => afterSlashes scheme (dropSlashes cs)
  else plainUrl scheme cs

/-- Reads a text without a scheme. -/
def withoutScheme (base : Option Url) (cs : List Char) : Except ParseError Url :=
  match base with
  | none => .error .withoutBase
  | some base =>
    match base.path, cs with
    | _, '#' :: fragment => .ok { base with fragment := some (fragmentOf fragment) }
    | .plain _, _ => .error .opaqueBase
    | .segments _, _ => base.relative cs

/-- Reads a text, relative to a base if there is one. -/
def parseFrom (base : Option Url) (s : String) : Except ParseError Url :=
  let cs := significant s
  match scheme? cs with
  | some (scheme, rest) => afterScheme base scheme rest
  | none => withoutScheme base cs

/-- The address that a text spells. -/
def parse (s : String) : Except ParseError Url := parseFrom none s

/-- The address that a reference names in a document at `base`. -/
def join (base : Url) (reference : String) : Except ParseError Url :=
  parseFrom (some base) reference

/-! ## §8. Text -/

/-- The text of a user. -/
def Authority.userText (a : Authority) : String :=
  if a.username.isEmpty && a.password.isEmpty then ""
  else a.username ++ (if a.password.isEmpty then "" else ":" ++ a.password) ++ "@"

/-- The text of an authority with its slashes. -/
def Authority.text (a : Authority) : String :=
  "//" ++ a.userText ++ (match a.host with
    | some host => host.text
    | none => "") ++ (match a.port with
    | some port => s!":{port}"
    | none => "")

/-- The text of a path. -/
def Path.text : Path → String
  | .plain text => text
  | .segments names => String.join (names.map fun name => "/" ++ name)

/-- What keeps a path without an authority from looking like one. -/
def guardText (u : Url) : String :=
  match u.authority, u.path with
  | none, .segments ("" :: _ :: _) => "/."
  | _, _ => ""

/-- The text of an address. -/
def text (u : Url) : String :=
  u.scheme ++ ":" ++ (match u.authority with
    | some a => a.text
    | none => guardText u) ++ u.path.text ++ (match u.query with
    | some query => "?" ++ query
    | none => "") ++ (match u.fragment with
    | some fragment => "#" ++ fragment
    | none => "")

/-- The host of an address. -/
def host? (u : Url) : Option Host := u.authority.bind Authority.host

/-- The path of the file that an address names, unless it is on another machine. -/
def filePath? (u : Url) : Option String :=
  match u.host?, u.path with
  | none, .segments names =>
    let bytes := names.flatMap fun name =>
      Utf8.encode "/" ++ Percent.decodeBytes (Utf8.encode name)
    let path := Utf8.decodeLossy bytes
    some (match path.toList.reverse with
      | c :: d :: _ => if (c = ':' || c = '|') && d.isAlpha then path ++ "/" else path
      | _ => path)
  | _, _ => none

end Url

end Pageflow
