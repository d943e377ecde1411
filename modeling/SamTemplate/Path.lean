/-!
# Paths

The paths of files, as far as one file says where another one is: relative to
the directory that it is in.
-/

namespace SamTemplate

namespace Path

/-- A reversed path without the slashes and the steps to the same directory at its
    end. -/
def trimSteps : List Char → List Char
  | '/' :: rest => if rest.isEmpty then ['/'] else trimSteps rest
  | '.' :: '/' :: rest => trimSteps ('/' :: rest)
  | path => path

/-- The directory that a file is in; it has no name for a path of one step. -/
def parent (path : String) : String :=
  String.ofList (trimSteps (path.toList.reverse.dropWhile (· ≠ '/'))).reverse

/-- A path as seen from a directory. -/
def join (directory path : String) : String :=
  if directory = "" ∨ path.startsWith "/" then path
  else if directory.endsWith "/" then directory ++ path
  else directory ++ "/" ++ path

end Path

end SamTemplate
