import Workflow.Url.Host

/-!
# Addresses

An absolute address in its parts. Some schemes have rules of their own: they always have a host,
a port of their own that is not written, a path that is never empty, and a backslash separates
their segments as a slash does. An address without a host may have a path that is not divided into
segments, such as that of a mailbox.
-/

namespace Workflow

/-- A user and a host. -/
structure Authority where
  username : List Char
  password : List Char
  host : Host
  /-- The port, unless it is the scheme's own. -/
  port : Option Nat
deriving DecidableEq, Repr

/-- The path of an address. -/
inductive Path where
  /-- One text without a slash at its start, to which nothing can be added. -/
  | whole (text : List Char)
  /-- Each segment is written after a slash. -/
  | segments (segments : List (List Char))
deriving DecidableEq, Repr

/-- An absolute address. Its texts are as written, with percent encodings. -/
structure Url where
  scheme : List Char
  authority : Option Authority
  /-- Whether the path, which has no host before it, would be taken for a host after the scheme. -/
  guarded : Bool
  path : Path
  query : Option (List Char)
  fragment : Option (List Char)
deriving DecidableEq, Repr

/-- The port of a scheme that is not written. -/
def defaultPort? (scheme : List Char) : Option Nat :=
  [("http", 80), ("https", 443), ("ws", 80), ("wss", 443), ("ftp", 21)].lookup (.ofList scheme)

/-- Whether a scheme is that of files. -/
def isFileScheme (scheme : List Char) : Bool :=
  scheme = "file".toList

/-- Whether a scheme has rules of its own. -/
def isSpecialScheme (scheme : List Char) : Bool :=
  isFileScheme scheme || (defaultPort? scheme).isSome

namespace Authority

/-- The user as written before the host: nothing if there is none. -/
def userText (authority : Authority) : List Char :=
  if authority.username = [] ∧ authority.password = [] then []
  else
    authority.username ++ (if authority.password = [] then [] else ':' :: authority.password) ++
      ['@']

/-- The port as written after the host. -/
def portText (authority : Authority) : List Char :=
  match authority.port with
  | some port => ':' :: Nat.toDigits 10 port
  | none => []

/-- The whole of it, after two slashes. -/
def text (authority : Authority) : List Char :=
  ['/', '/'] ++ authority.userText ++ authority.host.text ++ authority.portText

end Authority

/-- A path as it is written. -/
def Path.text : Path → List Char
  | .whole text => text
  | .segments parts => parts.flatMap ('/' :: ·)

namespace Url

/-- What stands between the scheme and the path. -/
def authorityText (url : Url) : List Char :=
  match url.authority with
  | some authority => authority.text
  | none => if url.guarded then ['/', '.'] else []

/-- The query as it is written. -/
def queryText (url : Url) : List Char :=
  match url.query with
  | some query => '?' :: query
  | none => []

/-- The fragment as it is written. -/
def fragmentText (url : Url) : List Char :=
  match url.fragment with
  | some fragment => '#' :: fragment
  | none => []

/-- An address as it is written. -/
def text (url : Url) : String :=
  .ofList (url.scheme ++ ':' :: url.authorityText ++ url.path.text ++ url.queryText ++
    url.fragmentText)

/-- What is asked of the host: the path and the query. -/
def target (url : Url) : String :=
  .ofList (url.path.text ++ url.queryText)

end Url

end Workflow
