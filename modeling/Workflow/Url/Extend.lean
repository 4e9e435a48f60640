import Workflow.Url.Read

/-!
# Extending addresses

What a client of a service does with the service's address: add segments below its path and a
parameter to its query. A segment is encoded so that it reads back as one segment, slashes and
percent signs included, with three exceptions. The segments "." and ".." are passed over, tabs and
line ends in a segment are dropped, and a segment that is "." or ".." without them is carried out.
-/

namespace Workflow

namespace Url

/-- Characters that stand for themselves in an added segment. -/
def inSegment (special : Bool) (c : Char) : Bool :=
  inPath c && c ≠ '/' && c ≠ '%' && !(special && c = '\\')

/-- An added segment as it is written. -/
def encodeSegment (special : Bool) (segment : List Char) : List Char :=
  Percent.encode (inSegment special) (segment.filter (!isDropped ·))

/-- A path without the empty segment at its end, unless that is its only one. -/
def dropFinalSlash (path : List (List Char)) : List (List Char) :=
  if 1 < path.length ∧ path.getLast? = some [] then path.dropLast else path

/-- A path with one segment added; the path of one empty segment is replaced. -/
def appendSegment (scheme : List Char) (path : List (List Char)) (segment : List Char) :
    List (List Char) :=
  if segment = ['.'] ∨ segment = ['.', '.'] then path
  else
    let path := if path = [[]] then [] else path
    addSegment (isFileScheme scheme) true path (encodeSegment (isSpecialScheme scheme) segment)

/-- The address below another, segments added after its path less one slash at the end; none if
the path is not divided into segments. -/
def below? (url : Url) (segments : List String) : Option Url :=
  match url.path with
  | .whole _ => none
  | .segments path =>
    let added := segments.foldl (fun path segment => appendSegment url.scheme path segment.toList)
      (dropFinalSlash path)
    some { url with path := .segments added }

/-- The address with a parameter at the end of its query; both are plain words. -/
def withParameter (url : Url) (key value : String) : Url :=
  let parameter := key.toList ++ '=' :: value.toList
  { url with query := match url.query with
      | none | some [] => some parameter
      | some query => some (query ++ '&' :: parameter) }

end Url

end Workflow
