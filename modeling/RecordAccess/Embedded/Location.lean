import RecordAccess.Config.FileTree
import RecordAccess.Json.Token
import RecordAccess.Text.Bytes
/-!
# Locations of Embedded Databases

Where an embedded database lies, and whether it can be opened there. A location is written as the
path of a file, or as a URI of the scheme `file` whose parameters say how the file is opened. A path
is made plain before it is used: a parent directory takes back the name in front of it, so that
missing directories may be passed, but files may not.
-/

namespace RecordAccess.Embedded

/-- How the file of a database is opened. -/
inductive OpenMode where
  | readOnly
  | readWrite
  /-- for reading and writing, and made where it is missing -/
  | create
  /-- no file is opened -/
  | memory
  deriving DecidableEq

namespace OpenMode

/-- A mode as the parameters of a URI name it. -/
def text : OpenMode → String
  | readOnly => "ro"
  | readWrite => "rw"
  | create => "rwc"
  | memory => "memory"

/-- The mode of a name. -/
def ofText? (name : String) : Option OpenMode :=
  [readOnly, readWrite, create, memory].find? fun mode => mode.text == name

/-- The modes in order of what they allow. -/
def rank : OpenMode → Nat
  | readOnly => 0
  | readWrite => 1
  | create => 2
  | memory => 3

/-- Whether a mode may take the place of another one. It may not allow more to be done with a
file. -/
def mayReplace (next current : OpenMode) : Bool :=
  next = memory || decide (next.rank ≤ current.rank)

end OpenMode

/-- Where a database lies: the path of its file, and how that is opened. -/
structure Location where
  path : String
  mode : OpenMode
  deriving DecidableEq

namespace Location

/-- The bytes that a part of a URI denotes. A percent sign before two hexadecimal digits makes them a
byte; the byte zero ends the part. -/
def partBytes : List Char → List UInt8
  | [] => []
  | '%' :: a :: b :: rest =>
    match Json.hexValue? a, Json.hexValue? b with
    | some high, some low =>
      if high = 0 ∧ low = 0 then [] else UInt8.ofNat (high * 16 + low) :: partBytes rest
    | _, _ => String.utf8EncodeChar '%' ++ partBytes (a :: b :: rest)
  | c :: rest => String.utf8EncodeChar c ++ partBytes rest

/-- The text that a part of a URI denotes. -/
def partText (part : List Char) : String := Utf8.decode (partBytes part)

/-- What follows the authority of a URI, which has to be missing, empty or the machine itself. -/
def afterAuthority? : List Char → Option (List Char)
  | '/' :: '/' :: rest =>
    let (authority, path) := rest.span fun c => c != '/'
    if authority.isEmpty || authority == "localhost".toList then some path else none
  | rest => some rest

/-- The parameters of a URI with their values. Those without a name do not count. -/
def parameters (query : List Char) : List (String × String) :=
  let read (parameter : List Char) : String × String :=
    match cutAtFirst? '=' parameter with
    | some (name, value) => (partText name, partText value)
    | none => (partText parameter, "")
  ((splitAt '&' query).map read).filter fun (name, _) => !name.isEmpty

/-- Follow a parameter. Only the mode and the sharing of caches are looked at. -/
def follow? (l : Location) (parameter : String × String) : Option Location :=
  let (name, value) := parameter
  if name = "mode" then
    match OpenMode.ofText? value with
    | some mode => if mode.mayReplace l.mode then some { l with mode } else none
    | none => none
  else if name = "cache" then
    if value = "shared" ∨ value = "private" then some l else none
  else some l

/-- Follow the last parameter for the file system, if there is one. -/
def onSystem? (l : Location) (parameters : List (String × String)) : Option Location :=
  match parameters.reverse.find? fun (name, _) => name == "vfs" with
  | none => some l
  | some (_, value) =>
    if value = "memdb" then some { l with mode := .memory }
    else if ["unix", "unix-none", "unix-dotfile", "unix-excl"].contains value then some l
    else none

/-- The location that a URI denotes after its scheme. -/
def ofUri? (text : List Char) : Option Location := do
  let rest ← afterAuthority? text
  let body := rest.takeWhile fun c => c != '#'
  let (path, query) := (cutAtFirst? '?' body).getD (body, [])
  let parameters := parameters query
  let l ← parameters.foldlM follow? ⟨partText path, .create⟩
  l.onSystem? parameters

/-- The location that a text denotes. -/
def ofText? (text : String) : Option Location :=
  if text.toList.contains '\x00' then none
  else
    match afterStart? "file:".toList text.toList with
    | some rest => ofUri? rest
    | none => some ⟨text, .create⟩

end Location

/-- The bytes of a name. -/
def nameSize (name : List Char) : Nat := (String.ofList name).utf8ByteSize

/-- The bytes of the path of a place. -/
def pathSize : Place → Nat
  | [] => 0
  | name :: rest => nameSize name + 1 + pathSize rest

/-- The bytes that the name of a file may have. -/
def longestName : Nat := 255

/-- The bytes that the path of a database may have, with those that mark its companion files. -/
def longestPath : Nat := 512

/-- Whether a name may be added to a plain path. -/
def admits (tree : FileTree) (place : Place) (name : List Char) : Bool :=
  !tree.isFile place && (!tree.isDirectory place || decide (nameSize name ≤ longestName)) &&
    decide (pathSize place + nameSize name + 2 ≤ longestPath)

/-- The place that components add up to after another place. -/
def plainPlace? (tree : FileTree) (place : Place) : List (List Char) → Option Place
  | [] => some place
  | component :: rest =>
    if FilePath.isIdle component then plainPlace? tree place rest
    else if component = ['.', '.'] then plainPlace? tree place.dropLast rest
    else if admits tree place component then plainPlace? tree (place ++ [component]) rest
    else none

/-- Whether a file can be opened at a place. -/
def opensAt (tree : FileTree) (mode : OpenMode) (place : Place) : Bool :=
  decide (pathSize place + 8 ≤ longestPath) && !tree.isDirectory place &&
    (tree.isFile place || mode = .create && tree.isDirectory place.dropLast)

/-- Whether a location can be opened. A path that does not start at the root cannot. -/
def Location.opens (tree : FileTree) (l : Location) : Bool :=
  l.mode = .memory || l.path.isEmpty || l.path == ":memory:" ||
    FilePath.isAbsolute l.path &&
      (plainPlace? tree [] (splitAt '/' l.path.toList)).any (opensAt tree l.mode)

/-- Whether a database can be opened where a text says. -/
def opens (tree : FileTree) (text : String) : Bool :=
  (Location.ofText? text).any fun l => l.opens tree

end RecordAccess.Embedded
