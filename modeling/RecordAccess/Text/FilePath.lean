import RecordAccess.Text.Parts
/-!
# File Paths

Paths of files as texts of components parted by slashes. Empty components and single dots name no
place of their own, except that a dot in front of everything stands for the current directory.
-/

namespace RecordAccess.FilePath

/-- Whether a component names no place of its own. -/
def isIdle (component : List Char) : Bool := component.isEmpty || component = ['.']

/-- Components put together with slashes. -/
def join : List (List Char) → List Char
  | [] => []
  | [component] => component
  | component :: rest => component ++ '/' :: join rest

/-- The components without idle ones at the start and end; those between stay as they are. -/
def strip (components : List (List Char)) : List (List Char) :=
  ((components.dropWhile isIdle).reverse.dropWhile isIdle).reverse

/-- Whether a path starts with a component for the current directory. -/
def startsHere : List Char → Bool
  | ['.'] => true
  | '.' :: '/' :: _ => true
  | _ => false

/-- The path without the current directory in front. A path that does not start there is unchanged;
one that does also loses idle components at its end. -/
def withoutHere (path : String) : String :=
  let cs := path.toList
  if startsHere cs then String.ofList (join (strip (splitAt '/' (cs.drop 1)))) else path

/-- The last component of a path, unless it is the parent directory or there is none. -/
def lastName? (path : List Char) : Option (List Char) :=
  match (strip (splitAt '/' path)).getLast? with
  | some name => if name = ['.', '.'] then none else some name
  | none => none

/-- What follows the last dot in the last component, unless that dot is its first character. -/
def extension? (path : String) : Option String :=
  match (lastName? path.toList).bind (cutAtLast? '.') with
  | some (before, after) => if before.isEmpty then none else some (String.ofList after)
  | none => none

/-- A path below another one. -/
def below (directory : String) (path : String) : String :=
  if directory.toList.getLast? = some '/' then directory ++ path else directory ++ "/" ++ path

/-- The names on the way to what a path denotes, where each name that a parent directory follows is
taken back, whether it exists or not. -/
def plainNames (path : String) : List (List Char) :=
  (splitAt '/' path.toList).foldl (fun names component =>
    if isIdle component then names
    else if component = ['.', '.'] then names.dropLast
    else names ++ [component]) []

/-- Whether a path starts at the root directory. -/
def isAbsolute (path : String) : Bool := path.toList.head? = some '/'

end RecordAccess.FilePath
