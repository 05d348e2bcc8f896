import RecordAccess.Text.FilePath
/-!
# File Trees

Files held as data, each at its place below the root; the places above files are directories. A path
is walked component by component, so that whatever it passes has to be a directory, also where it
returns to the parent.
-/

namespace RecordAccess

/-- What is found under the path of a file. -/
inductive Found where
  | nothing
  /-- something that does not read as text, such as a directory -/
  | unreadable
  | text (content : String)
  deriving DecidableEq

/-- The text that was found. -/
def Found.text? : Found → Option String
  | text content => some content
  | _ => none

/-- A place below the root, given by the names on the way to it. -/
abbrev Place := List (List Char)

/-- Files by their places. A file without a text holds something else. -/
structure FileTree where
  files : List (Place × Option String)

namespace FileTree

/-- Whether a place is the root or lies above a file. -/
def isDirectory (tree : FileTree) (place : Place) : Bool :=
  place.isEmpty ||
    tree.files.any fun (file, _) => place.isPrefixOf file && decide (place.length < file.length)

/-- Whether a file lies at a place. -/
def isFile (tree : FileTree) (place : Place) : Bool := tree.files.any fun (file, _) => file == place

/-- What is found at a place. -/
def foundAt (tree : FileTree) (place : Place) : Found :=
  match tree.files.find? fun (file, _) => file == place with
  | some (_, some content) => .text content
  | some (_, none) => .unreadable
  | none => if tree.isDirectory place then .unreadable else .nothing

/-- The place that components lead to from another place. -/
def walk? (tree : FileTree) (place : Place) : List (List Char) → Option Place
  | [] => some place
  | component :: rest =>
    if !tree.isDirectory place then none
    else if FilePath.isIdle component then tree.walk? place rest
    else if component = ['.', '.'] then tree.walk? place.dropLast rest
    else tree.walk? (place ++ [component]) rest

/-- The bytes that a path may have. -/
def longestPath : Nat := 4095

/-- What is found under a path. One that does not start at the root leads nowhere. -/
def find (tree : FileTree) (path : String) : Found :=
  if FilePath.isAbsolute path ∧ path.utf8ByteSize ≤ longestPath then
    match tree.walk? [] (splitAt '/' path.toList) with
    | some place => tree.foundAt place
    | none => .nothing
  else .nothing

end FileTree
end RecordAccess
