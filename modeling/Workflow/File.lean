/-!
# Files

What there is to say of a file before its text is given a meaning: where it is, what is found there
and how the writing of it went.
-/

namespace Workflow

/-- A file in a directory. -/
def inDirectory (directory name : String) : String :=
  if directory.toList.getLast? = some '/' then directory ++ name else directory ++ "/" ++ name

/-- A path, read backwards, without slashes at its end and parts there that mean "here". -/
def trimPath : List Char → List Char
  | '/' :: rest | '.' :: '/' :: rest => if rest = [] then ['/'] else trimPath rest
  | path => path

/-- The directory of a file. -/
def parentDirectory (path : String) : String :=
  .ofList (trimPath (path.toList.reverse.dropWhile (· ≠ '/'))).reverse

/-- What is found where a file is looked for. -/
inductive FileContent where
  /-- Nothing is there. -/
  | missing
  /-- Something is there, but no text can be read from it. -/
  | unreadable
  | text (content : String)
deriving DecidableEq, Repr, Inhabited

/-- How the writing of a file went; where it failed, in the words of whatever made it fail. -/
inductive Writing where
  | done
  /-- The directory for the file could not be made. -/
  | noDirectory (words : String)
  /-- The file could not be written, or not to its end. -/
  | failed (words : String)
deriving DecidableEq, Repr, Inhabited

end Workflow
