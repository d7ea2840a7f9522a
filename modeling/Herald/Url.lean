import Herald.Url.Host

/-!
URLs as the web reads and writes them. Reading drops what has no meaning — blanks around the text,
the default port, dot segments — escapes what may not stand as it is, and lowers the case of the
scheme and the host; the written form is read back as the same URL.
-/
namespace Herald

inductive Url.Path where
  /-- A path without a root; nothing is relative to it. -/
  | rootless (text : String)
  | segments (segments : List String)
deriving DecidableEq

structure Url.Authority where
  username : String
  password : Option String
  /-- Absent where the scheme allows an empty host. -/
  host : Option Url.Host
  port : Option Nat
deriving DecidableEq

structure Url where
  scheme : String
  authority : Option Url.Authority
  path : Url.Path
  query : Option String
  fragment : Option String
deriving DecidableEq

namespace Url

def defaultPort? (scheme : String) : Option Nat :=
  if scheme = "http" ∨ scheme = "ws" then some 80
  else if scheme = "https" ∨ scheme = "wss" then some 443
  else if scheme = "ftp" then some 21
  else none

/-- Has a host of the usual kind and a path with a root. -/
def isSpecial (scheme : String) : Bool :=
  (defaultPort? scheme).isSome || scheme = "file"

def among (chars : String) (b : UInt8) : Bool :=
  (Text.encode chars).contains b

def inFragment (b : UInt8) : Bool :=
  Host.isControl b || among " \"<>`" b

def inPath (b : UInt8) : Bool :=
  inFragment b || among "#?\x7b\x7d" b

def inUserinfo (b : UInt8) : Bool :=
  inPath b || among "/:;=@[\\]^|" b

def inQuery (special : Bool) (b : UInt8) : Bool :=
  Host.isControl b || among " \"#<>" b || (special && b = 0x27)

def escaped (special : UInt8 → Bool) (cs : List Char) : String :=
  Text.ascii (Text.Percent.encode special (Text.encode (String.ofList cs)))

def strip (cs : List Char) : List Char :=
  let blank (c : Char) : Bool := c.toNat ≤ 0x20
  ((cs.dropWhile blank).reverse.dropWhile blank).reverse

/-- A tab or a line break, which is passed over wherever it stands. -/
def isGap (c : Char) : Bool :=
  c = '\t' || c = '\n' || c = '\r'

def withoutGaps (cs : List Char) : List Char :=
  cs.filter fun c => !isGap c

def isSchemeChar (c : Char) : Bool :=
  c.isAlphanum || c = '+' || c = '-' || c = '.'

def scheme? (cs : List Char) : Option (String × List Char) :=
  match cs with
  | [] => none
  | first :: _ =>
    match cs.dropWhile isSchemeChar with
    | ':' :: rest =>
      if first.isAlpha then
        some (Text.lowerAscii (String.ofList (cs.takeWhile isSchemeChar)), rest)
      else none
    | _ => none

def isSlash (special : Bool) (c : Char) : Bool :=
  c = '/' || (special && c = '\\')

def isBoundary (special : Bool) (c : Char) : Bool :=
  isSlash special c || c = '?' || c = '#'

/-- What stands before the last `@` and what comes after it. -/
def userinfo? (authority : List Char) : Option (List Char × List Char) :=
  match authority.reverse.dropWhile (· ≠ '@') with
  | [] => none
  | _ :: before => some (before.reverse, (authority.reverse.takeWhile (· ≠ '@')).reverse)

/-- An empty password is none. -/
def credentials (userinfo : List Char) : String × Option String :=
  let name := escaped inUserinfo (userinfo.takeWhile (· ≠ ':'))
  match userinfo.dropWhile (· ≠ ':') with
  | _ :: c :: rest => (name, some (escaped inUserinfo (c :: rest)))
  | _ => (name, none)

/-- The host ends at a colon outside brackets. -/
def cutHost (bracketed : Bool) : List Char → List Char × List Char
  | [] => ([], [])
  | c :: rest =>
    if c = ':' && !bracketed then ([], c :: rest)
    else
      let (host, after) := cutHost (if c = '[' then true else if c = ']' then false else bracketed) rest
      (c :: host, after)

/-- A port ends at a backslash also where that is no slash; what follows belongs to the path. -/
def readPort (cs : List Char) : Except Fault (Option Nat × List Char) :=
  let digits := cs.takeWhile Char.isDigit
  let rest := cs.dropWhile Char.isDigit
  let ended := match rest with
    | [] => true
    | c :: _ => c = '\\'
  let port := Address.ofDigits 10 (digits.map fun c => c.toNat - 48)
  if 65535 < port || !ended then .error .badPort
  else .ok (if digits.isEmpty then none else some port, rest)

/-- The authority, and what of it belongs to the path; `final` if nothing follows it. -/
def readAuthority (scheme : String) (final : Bool) (cs : List Char) :
    Except Fault (Authority × List Char) := do
  let (username, password, rest) ← match userinfo? cs with
    | none => pure ("", none, cs)
    | some (info, rest) =>
      if info.isEmpty && rest.isEmpty && !final then .error .emptyHost
      else
        let (username, password) := credentials info
        pure (username, password, rest)
  let (text, rest) := cutHost false rest
  let host ←
    if isSpecial scheme then
      if text.isEmpty then .error .emptyHost else some <$> Host.read text
    else if text.isEmpty then
      if !rest.isEmpty || username ≠ "" || password.isSome then .error .emptyHost else pure none
    else some <$> Host.readPlain text
  match rest with
  | ':' :: rest =>
    let (port, rest) ← readPort rest
    let port := if port = defaultPort? scheme then none else port
    return (⟨username, password, host, port⟩, rest)
  | rest => return (⟨username, password, host, none⟩, rest)

def isSingleDot (segment : String) : Bool :=
  Text.lowerAscii segment ∈ [".", "%2e"]

def isDoubleDot (segment : String) : Bool :=
  Text.lowerAscii segment ∈ ["..", ".%2e", "%2e.", "%2e%2e"]

def isDriveWith (isMark : Char → Bool) (segment : List Char) : Bool :=
  match segment with
  | [letter, mark] => letter.isAlpha && isMark mark
  | _ => false

/-- The mark of a drive is a colon; a bar may stand for it. -/
def isDrive (segment : String) : Bool :=
  isDriveWith (fun c => c = ':' || c = '|') segment.toList

def isPlainDrive (segment : String) : Bool :=
  isDriveWith (· = ':') segment.toList

/-- The last segment goes, but nothing goes above a drive, whatever the scheme. -/
def shorten (segments : List String) : List String :=
  if segments.getLast?.any isDrive then segments else segments.dropLast

/-- Where `mends` is set, a bar after the drive that a path begins with becomes a colon. -/
def addSegment (mends : Bool) (segments : List String) (segment : String) (last : Bool) :
    List String :=
  if isDoubleDot segment then shorten segments ++ (if last then [""] else [])
  else if isSingleDot segment then segments ++ (if last then [""] else [])
  else if mends && segments.isEmpty && isDrive segment then
    [String.ofList (segment.toList.take 1 ++ [':'])]
  else segments ++ [segment]

def resolveDots (mends : Bool) (segments : List String) : List String → List String
  | [] => segments
  | [last] => addSegment mends segments last true
  | segment :: rest => resolveDots mends (addSegment mends segments segment false) rest

def rawSegments (special : Bool) (cs : List Char) : List String :=
  (Text.pieces (isSlash special) cs).map (escaped inPath)

def segmentsOf (special : Bool) (cs : List Char) : List String :=
  resolveDots false [] (rawSegments special cs)

def cutPath (cs : List Char) : List Char × List Char :=
  cs.span fun c => c ≠ '?' && c ≠ '#'

def dropSlash (special : Bool) (cs : List Char) : List Char :=
  match cs with
  | c :: rest => if isSlash special c then rest else cs
  | [] => []

/-- The path after an authority; only a special scheme always has one. -/
def readPath (special : Bool) (cs : List Char) : Path :=
  if cs.isEmpty && !special then .segments []
  else .segments (segmentsOf special (dropSlash special cs))

def readTail (special : Bool) (cs : List Char) : Option String × Option String :=
  let fragment := match cs.dropWhile (· ≠ '#') with
    | _ :: rest => some (escaped inFragment rest)
    | [] => none
  match cs.takeWhile (· ≠ '#') with
  | _ :: query => (some (escaped (inQuery special) query), fragment)
  | [] => (none, fragment)

def finish (scheme : String) (authority : Option Authority) (path : Path) (tail : List Char) : Url :=
  let (query, fragment) := readTail (isSpecial scheme) tail
  ⟨scheme, authority, path, query, fragment⟩

def readHierarchy (scheme : String) (cs : List Char) : Except Fault Url := do
  let special := isSpecial scheme
  let (text, after) := cs.span (!isBoundary special ·)
  let (authority, rest) ← readAuthority scheme after.isEmpty text
  let (path, tail) := cutPath (rest ++ after)
  return finish scheme (some authority) (readPath special path) tail

def afterSlash? (cs : List Char) : Option (List Char) :=
  match cs.dropWhile isGap with
  | c :: rest => if isSlash true c then some rest else none
  | [] => none

/-- A drive that a gap divides from more of its segment. -/
def cutDrive? (piece : List Char) : Option (String × List Char) :=
  match piece.dropWhile isGap with
  | [] => none
  | letter :: rest =>
    match rest.dropWhile isGap with
    | ':' :: gap :: rest =>
      let name := withoutGaps rest
      if letter.isAlpha && isGap gap && !name.isEmpty then some (String.ofList [letter, ':'], name)
      else none
    | _ => none

structure FilePath where
  segments : List String
  /-- It begins with a segment that is a drive, which leaves no place for a host. -/
  onDrive : Bool

/-- A drive at the start that a gap ends is a segment of its own, and has no say about the host; the
name after it is taken as it is, dots too. -/
def FilePath.add (mends : Bool) (p : FilePath) (piece : List Char) (last : Bool) : FilePath :=
  match p.segments, cutDrive? piece with
  | [], some (drive, name) => { p with segments := [drive, escaped inPath name] }
  | [], none =>
    let segments := addSegment mends [] (escaped inPath (withoutGaps piece)) last
    ⟨segments, segments.any isPlainDrive⟩
  | segments, _ =>
    { p with segments := addSegment mends segments (escaped inPath (withoutGaps piece)) last }

def FilePath.addAll (mends : Bool) (p : FilePath) : List (List Char) → FilePath
  | [] => p
  | [last] => p.add mends last true
  | piece :: rest => (p.add mends piece false).addAll mends rest

def FilePath.read (mends : Bool) (cs : List Char) : FilePath :=
  FilePath.addAll mends ⟨[], false⟩ (Text.pieces (isSlash true) cs)

def collapsed (segments : List String) : List String :=
  match segments.dropWhile (· = "") with
  | [] => [""]
  | segments => segments

/-- A file has no port and no user. A drive may stand where the host does, and a path that begins with
a drive has no host. After an empty host a drive is left as it is written. -/
def readFile (cs : List Char) : Except Fault Url := do
  let (before, tail) := cutPath cs
  let authority := (afterSlash? before).bind afterSlash?
  let (hostText, path) := match authority with
    | some rest => rest.span (!isSlash true ·)
    | none => ([], before)
  let name := withoutGaps hostText
  let isDriveFirst := isDrive (String.ofList name)
  let host ← if name.isEmpty || isDriveFirst then pure none else some <$> Host.read name
  let host := if host = some (.name "localhost") then none else host
  let path := if isDriveFirst then hostText ++ path else path
  let mends := authority.isNone || host.isSome || isDriveFirst
  let file := FilePath.read mends ((afterSlash? path).getD path)
  let host := if file.onDrive then none else host
  return finish "file" (some ⟨"", none, host, none⟩) (.segments (collapsed file.segments))
    (withoutGaps tail)

def readScheme (scheme : String) (cs : List Char) : Except Fault Url :=
  if isSpecial scheme then readHierarchy scheme (cs.dropWhile (isSlash true))
  else
    match cs with
    | '/' :: '/' :: rest => readHierarchy scheme rest
    | '/' :: rest =>
      let (path, tail) := cutPath rest
      .ok (finish scheme none (.segments (segmentsOf false path)) tail)
    | cs =>
      let (path, tail) := cutPath cs
      .ok (finish scheme none (.rootless (escaped Host.isControl path)) tail)

def read (text : String) : Except Fault Url :=
  let cs := strip text.toList
  match scheme? (withoutGaps cs) with
  | some ("file", _) => readFile ((cs.dropWhile (· ≠ ':')).drop 1)
  | some (scheme, rest) => readScheme scheme rest
  | none => .error .noBase

def Authority.text (a : Authority) : String :=
  let password := match a.password with
    | some p => ":" ++ p
    | none => ""
  let user := a.username ++ password
  let host := match a.host with
    | some h => h.text
    | none => ""
  let port := match a.port with
    | some n => ":" ++ n.repr
    | none => ""
  (if user.isEmpty then "" else user ++ "@") ++ host ++ port

def Path.text : Path → String
  | .rootless s => s
  | .segments names => String.join (names.map ("/" ++ ·))

/-- Without an authority, a path must not begin with two slashes. -/
def text (u : Url) : String :=
  let front := match u.authority, u.path with
    | some a, _ => "//" ++ a.text
    | none, .segments ("" :: _ :: _) => "/."
    | none, _ => ""
  let query := match u.query with
    | some q => "?" ++ q
    | none => ""
  let fragment := match u.fragment with
    | some f => "#" ++ f
    | none => ""
  u.scheme ++ ":" ++ front ++ u.path.text ++ query ++ fragment

/-- The URL with another path, which is read like the path of a URL; only a mark of a query or a
fragment does not end it. Without a root, it cannot begin with a slash. -/
def withPath (u : Url) (text : List Char) : Url :=
  match u.path with
  | .rootless _ =>
    let (front, rest) := match text with
      | '/' :: rest => ("%2F", rest)
      | text => ("", text)
    { u with path := .rootless (front ++ escaped Host.isControl (withoutGaps rest)) }
  | .segments _ =>
    let special := isSpecial u.scheme
    let raw := rawSegments special (dropSlash special (withoutGaps text))
    { u with path := .segments (resolveDots (u.scheme = "file") [] raw) }

/-- The same URL as a directory, its path ending in a slash. -/
def directory (u : Url) : Url :=
  let path := u.path.text.toList
  if path.getLast? = some '/' then u else u.withPath (path ++ ['/'])

def below (u : Url) (path : List String) : Except Fault Url :=
  match u.path with
  | .rootless _ => .error .rootlessBase
  | .segments segments =>
    .ok { u with
      path := .segments (resolveDots (u.scheme = "file") segments.dropLast path)
      query := none
      fragment := none }

def inForm (b : UInt8) : Bool :=
  !((Char.ofNat b.toNat).isAlphanum || among "*-._ " b)

def formText (s : String) : String :=
  String.ofList ((escaped inForm s.toList).toList.map fun c => if c = ' ' then '+' else c)

def formPair (name value : String) : String :=
  formText name ++ "=" ++ formText value

end Url

end Herald
