import Workflow.Url.Basic

/-!
# Reading addresses

An address from its text, as the URL standard reads it. Controls and spaces at the ends are cut
off, and tabs and line ends are dropped wherever they are. What may not stand in a part is percent
encoded, what is encoded already stays as it is, and segments that mean "here" or "one up" are
carried out.
-/

namespace Workflow

namespace Url

/-! ## Characters of each part -/

/-- Characters that stand for themselves in a path without segments. -/
def isPrintable (c : Char) : Bool :=
  0x20 ≤ c.toNat && c.toNat < 0x7F

/-- Characters that stand for themselves in a fragment. -/
def inFragment (c : Char) : Bool :=
  isPrintable c && !" \"<>`".toList.contains c

/-- Characters that stand for themselves in a path. -/
def inPath (c : Char) : Bool :=
  inFragment c && !"#?\x7b\x7d".toList.contains c

/-- Characters that stand for themselves in a user's name or password. -/
def inUser (c : Char) : Bool :=
  inPath c && !"/:;=@[\\]^|".toList.contains c

/-- Characters that stand for themselves in a query. -/
def inQuery (special : Bool) (c : Char) : Bool :=
  isPrintable c && !" \"#<>".toList.contains c && !(special && c = '\'')

/-- Tabs and line ends, which are dropped. -/
def isDropped (c : Char) : Bool :=
  c = '\t' || c = '\n' || c = '\r'

/-- Whether a character separates the segments of a path. -/
def isSlash (special : Bool) (c : Char) : Bool :=
  c = '/' || (special && c = '\\')

/-! ## Segments -/

/-- Whether a segment means "here". -/
def isHere (segment : List Char) : Bool :=
  [".", "%2e"].contains (String.ofList (segment.map Char.toLower))

/-- Whether a segment means "one up". -/
def isUp (segment : List Char) : Bool :=
  ["..", ".%2e", "%2e.", "%2e%2e"].contains (String.ofList (segment.map Char.toLower))

/-- Whether a segment is a drive letter: a letter and a colon or a bar. -/
def isDriveLetter : List Char → Bool
  | [letter, mark] => letter.isAlpha && (mark = ':' || mark = '|')
  | _ => false

/-- Whether a segment is a drive, alone or with a backslash and more after it. -/
def isDrive (segment : List Char) : Bool :=
  isDriveLetter (segment.takeWhile (· ≠ '\\'))

/-- The path one up; there is no way up from a drive. -/
def shorten (path : List (List Char)) : List (List Char) :=
  if (path.getLast?.map isDrive).getD false then path else path.dropLast

/-- A path with one more segment; what ends in "here" or "one up" ends in a slash. -/
def addSegment (file final : Bool) (path : List (List Char)) (segment : List Char) :
    List (List Char) :=
  if isUp segment then shorten path ++ if final then [[]] else []
  else if isHere segment then path ++ if final then [[]] else []
  else if file && path.isEmpty && isDriveLetter segment then [segment.take 1 ++ [':']]
  else path ++ [segment]

/-- Add segments to a path one by one. -/
def addSegments (file : Bool) (path : List (List Char)) : List (List Char) → List (List Char)
  | [] => path
  | [segment] => addSegment file true path segment
  | segment :: next :: rest => addSegments file (addSegment file false path segment) (next :: rest)

/-- The path of a file starts with no empty segment but its only one. -/
def trimFilePath (path : List (List Char)) : List (List Char) :=
  match path.dropWhile (· = []) with
  | [] => [[]]
  | rest => rest

/-- The segments of a path from the text after its first slash. -/
def readSegments (scheme : List Char) (text : List Char) : List (List Char) :=
  addSegments (isFileScheme scheme) []
    ((text.splitOnP (isSlash (isSpecialScheme scheme))).map (Percent.encode inPath))

/-- A path from the text after a host. -/
def readPathAfterHost (scheme : List Char) : List Char → Path
  | [] => .segments (if isSpecialScheme scheme then [[]] else [])
  | c :: rest =>
    .segments (readSegments scheme
      (if isSlash (isSpecialScheme scheme) c then rest else c :: rest))

/-! ## Hosts and users -/

/-- A port from the text after a colon, and the text after it; none if it is the scheme's own. -/
def readPort (scheme text : List Char) : Except UrlError (Option Nat × List Char) :=
  let (digits, rest) := takeDigits text
  match rest with
  | [] | '\\' :: _ =>
    let port := digitsValue digits
    if 65535 < port then .error .invalidPort
    else .ok (if digits = [] ∨ defaultPort? scheme = some port then none else some port, rest)
  | _ => .error .invalidPort

/-- A host and the text after it: it ends at a colon that is not in brackets. -/
def splitHost (bracketed : Bool) : List Char → List Char × List Char
  | [] => ([], [])
  | c :: rest =>
    if c = ':' ∧ ¬bracketed then ([], c :: rest)
    else
      let bracketed := c = '[' || (bracketed && c ≠ ']')
      let (host, after) := splitHost bracketed rest
      (c :: host, after)

/-- A user's name and password from the text before an at sign. -/
def readUser (text : List Char) : List Char × List Char :=
  let name := text.takeWhile (· ≠ ':')
  (Percent.encode inUser name, Percent.encode inUser (text.drop (name.length + 1)))

/-- The part after the last at sign of a text, and the part before it if there is one. -/
def splitUser (text : List Char) : Option (List Char) × List Char :=
  if text.contains '@' then
    let host := (text.reverse.takeWhile (· ≠ '@')).reverse
    (some (text.take (text.length - host.length - 1)), host)
  else (none, text)

/-- The authority of an address that is not a file's, and the text after it. Only an authority that
is empty but for an at sign, with nothing after it, may name a user and no host. -/
def readAuthority (scheme text : List Char) (last : Bool) :
    Except UrlError (Authority × List Char) := do
  let special := isSpecialScheme scheme
  let (user, hostAndPort) := splitUser text
  let (username, password) := readUser (user.getD [])
  let (hostText, rest) := splitHost false hostAndPort
  if hostText = [] ∧ special then .error .emptyHost
  let host ← if special then Host.ofText hostText else Host.ofOpaqueText hostText
  let nameless := rest = [] ∧ username = [] ∧ password = [] ∧ (user = some [] → last)
  if hostText = [] ∧ ¬nameless then .error .emptyHost
  match rest with
  | ':' :: rest =>
    let (port, rest) ← readPort scheme rest
    return (⟨username, password, host, port⟩, rest)
  | _ => return (⟨username, password, host, none⟩, rest)

/-! ## The parts of an address -/

/-- The query and the fragment of an address, and the text before them. -/
def splitTail (special : Bool) (text : List Char) :
    List Char × Option (List Char) × Option (List Char) :=
  let front := text.takeWhile (· ≠ '#')
  let fragment := match text.dropWhile (· ≠ '#') with
    | _ :: fragment => some (Percent.encode inFragment fragment)
    | [] => none
  let query := match front.dropWhile (· ≠ '?') with
    | _ :: query => some (Percent.encode (inQuery special) query)
    | [] => none
  (front.takeWhile (· ≠ '?'), query, fragment)

/-- The scheme of an address, in small letters, and the text after its colon. -/
def splitScheme (text : List Char) : Option (List Char × List Char) :=
  let scheme := text.takeWhile fun c => c.isAlphanum || c = '+' || c = '-' || c = '.'
  match scheme, text.drop scheme.length with
  | first :: _, ':' :: rest =>
    if first.isAlpha then some (scheme.map Char.toLower, rest) else none
  | _, _ => none

/-- The authority and path of an address with a host, from the text after two slashes. -/
def readHostAndPath (scheme text : List Char) (last : Bool) :
    Except UrlError (Option Authority × Path) := do
  let ends (c : Char) : Bool := isSlash (isSpecialScheme scheme) c
  let path := text.dropWhile (!ends ·)
  let (authority, rest) ← readAuthority scheme (text.takeWhile (!ends ·)) (last && path.isEmpty)
  return (some authority, readPathAfterHost scheme (rest ++ path))

/-- The authority and path of a file on a host, from the text of the path after its first slash. A
path that starts with a drive needs no host. -/
def fileOn (scheme : List Char) (host : Host) (text : List Char) : Option Authority × Path :=
  let path := readSegments scheme text
  let onDrive := (path.head?.map isDriveLetter).getD false
  (some ⟨[], [], if onDrive then .domain [] else host, none⟩, .segments (trimFilePath path))

/-- The authority and path of a file, from the text after the scheme. After two slashes comes the
host, unless it is a drive; this machine is no host, and the slash after it counts. -/
def readFile (scheme text : List Char) : Except UrlError (Option Authority × Path) := do
  let here := Host.domain []
  match text with
  | c :: d :: rest =>
    if isSlash true c && isSlash true d then
      let hostText := rest.takeWhile (!isSlash true ·)
      if isDriveLetter hostText then return fileOn scheme here rest
      let host ← if hostText = [] then .ok here else Host.ofText hostText
      let path := rest.drop hostText.length
      if host = here ∨ host = .domain "localhost".toList then return fileOn scheme here path
      else return fileOn scheme host (path.drop 1)
    else return fileOn scheme here (if isSlash true c then d :: rest else text)
  | [c] => return fileOn scheme here (if isSlash true c then [] else text)
  | [] => return fileOn scheme here []

/-- The authority and path of an address, from the text after the scheme, which may be the last of
it. -/
def readHierarchy (scheme text : List Char) (last : Bool) :
    Except UrlError (Option Authority × Path) :=
  if isFileScheme scheme then readFile scheme text
  else if isSpecialScheme scheme then
    readHostAndPath scheme (text.dropWhile (isSlash true)) last
  else
    match text with
    | '/' :: '/' :: rest => readHostAndPath scheme rest last
    | '/' :: rest => .ok (none, .segments (readSegments scheme rest))
    | _ => .ok (none, .whole (Percent.encode isPrintable text))

/-- Cut controls and spaces off both ends of a text. -/
def trimEnds (text : List Char) : List Char :=
  let cut (text : List Char) : List Char := text.dropWhile fun c => c.toNat ≤ 0x20
  (cut (cut text).reverse).reverse

/-- An address from its text. -/
def ofText (text : String) : Except UrlError Url :=
  match splitScheme ((trimEnds text.toList).filter (!isDropped ·)) with
  | none => .error .noScheme
  | some (scheme, rest) => do
    let (front, query, fragment) := splitTail (isSpecialScheme scheme) rest
    let (authority, path) ← readHierarchy scheme front (query.isNone && fragment.isNone)
    let guarded := match authority, path with
      | none, .segments ([] :: _ :: _) => true
      | _, _ => false
    return { scheme, authority, guarded, path, query, fragment }

end Url

end Workflow
