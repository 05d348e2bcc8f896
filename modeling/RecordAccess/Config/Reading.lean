import RecordAccess.Config.Basic
import RecordAccess.Json.Reader
import RecordAccess.Toml.Document
/-!
# Reading Configurations

A configuration is read from a JSON value, from the text of a JSON or TOML file, or from environment
variables. Fields that are not known are ignored in documents; known fields need values of their
kind. In the environment blank values count as missing and unreadable ones as not given.
-/

namespace RecordAccess

/-- What a document gives for a field. -/
inductive Setting where
  | null
  | text (value : String)
  | integer (value : Int)
  | boolean (value : Bool)
  | other

namespace Setting

/-- A text, which may be missing or null. -/
def text? : Option Setting → Option (Option String)
  | none => some none
  | some null => some none
  | some (text s) => some (some s)
  | _ => none

/-- A port number, which may be missing or null. -/
def port? : Option Setting → Option (Option Nat)
  | none => some none
  | some null => some none
  | some (integer n) => if 0 ≤ n ∧ n < UInt16.size then some (some n.toNat) else none
  | _ => none

/-- A truth value, which may be missing. -/
def flag? (otherwise : Bool) : Option Setting → Option Bool
  | none => some otherwise
  | some (boolean b) => some b
  | _ => none

end Setting

namespace Config

/-- The names of the fields in documents, in order. -/
def fieldNames : List String :=
  ["type", "path", "host", "port", "name", "username_r", "password_r", "username_w", "password_w",
    "encrypt", "trust_cert"]

/-- The configuration that the fields of a document give. -/
def ofSettings? (field : String → Option Setting) : Option Config := do
  return {
    type := ← Setting.text? (field "type")
    path := ← Setting.text? (field "path")
    host := ← Setting.text? (field "host")
    port := ← Setting.port? (field "port")
    name := ← Setting.text? (field "name")
    readUser := ← Setting.text? (field "username_r")
    readPassword := ← Setting.text? (field "password_r")
    writeUser := ← Setting.text? (field "username_w")
    writePassword := ← Setting.text? (field "password_w")
    encrypt := ← Setting.flag? false (field "encrypt")
    trustCertificate := ← Setting.flag? true (field "trust_cert") }

/-- What a JSON value gives for a field. -/
def settingOfJson : Json → Setting
  | .null => .null
  | .bool b => .boolean b
  | .int n => .integer n
  | .string s => .text s
  | _ => .other

/-- The settings by name of an array that gives the first fields in order. -/
def settingsInOrder? (settings : List Setting) : Option (String → Option Setting) :=
  if settings.length ≤ fieldNames.length then
    some fun name => Entries.get? name (fieldNames.zip settings)
  else none

/-- The configuration of a JSON object, or of an array that gives the first fields in order. -/
def ofJson? : Json → Option Config
  | .object members =>
    ofSettings? fun name => ((Json.object members).member? name).map settingOfJson
  | .array items => (settingsInOrder? (items.map settingOfJson)).bind ofSettings?
  | _ => none

/-- What written JSON gives for a field; a string or number that denotes nothing is refused. -/
def settingOfWritten? : Json.Written → Option Setting
  | .null => some .null
  | .bool b => some (.boolean b)
  | .number numeral => numeral.value?.map settingOfJson
  | .string pieces => (Json.pieceText? pieces).map .text
  | _ => some .other

/-- The settings of written items. -/
def settingsOfItems? : List Json.Written → Option (List Setting)
  | [] => some []
  | item :: rest => do
    let setting ← settingOfWritten? item
    let settings ← settingsOfItems? rest
    return setting :: settings

/-- The settings of the known fields among written members. A known field may not be repeated. -/
def settingsOfMembers? : List (List Json.Piece × Json.Written) → Option (List (String × Setting))
  | [] => some []
  | (key, item) :: rest => do
    let name ← Json.pieceText? key
    let settings ← settingsOfMembers? rest
    if !fieldNames.contains name then return settings
    if (Entries.get? name settings).isSome then none
    let setting ← settingOfWritten? item
    return (name, setting) :: settings

/-- The configuration that the text of a JSON file gives. -/
def ofJsonText? (text : String) : Option Config :=
  match Json.Written.ofText? text.toList with
  | some (.object members) =>
    (settingsOfMembers? members).bind fun settings =>
      ofSettings? fun name => Entries.get? name settings
  | some (.array items) => ((settingsOfItems? items).bind settingsInOrder?).bind ofSettings?
  | _ => none

/-- The JSON object of a configuration. -/
def toJson (c : Config) : Json :=
  let text : Option String → Json := .ofOption .string
  .object [
    ("type", text c.type), ("path", text c.path), ("host", text c.host),
    ("port", .ofOption (fun (n : Nat) => .int n) c.port), ("name", text c.name),
    ("username_r", text c.readUser), ("password_r", text c.readPassword),
    ("username_w", text c.writeUser), ("password_w", text c.writePassword),
    ("encrypt", .bool c.encrypt), ("trust_cert", .bool c.trustCertificate)]

/-- What a TOML item gives for a field. -/
def settingOfToml : Toml.Item → Setting
  | .text s => .text s
  | .integer n => .integer n
  | .boolean b => .boolean b
  | _ => .other

/-- The configuration that the text of a TOML file gives. -/
def ofTomlText? (text : String) : Option Config :=
  (Toml.ofText? text).bind fun items =>
    ofSettings? fun name => (Entries.get? name items).map settingOfToml

/-- The configuration in a file of some content, none if the file cannot be read. A file whose
extension says so holds JSON, any other TOML. -/
def ofFile (path : String) (content : Option String) : Except ConfigFault Config :=
  match content with
  | none => .error (.unreadable path)
  | some text =>
    let read := if FilePath.extension? path = some "json" then ofJsonText? else ofTomlText?
    match read text with
    | some c => .ok c
    | none => .error (.malformed path)

/-- Whether two words are equal up to the case of ASCII letters. -/
def sameWord (a b : String) : Bool := a.toList.map Char.toLower == b.toList.map Char.toLower

/-- The configuration that environment variables give. -/
def ofEnvironment (lookup : String → Option String) : Config :=
  let get (name : String) : Option String :=
    ((lookup name).map trim).filter fun text => !text.isEmpty
  { type := get "DB_TYPE"
    path := get "DB_PATH"
    host := get "DB_HOST"
    port := (get "DB_PORT").bind fun text =>
      (unsigned64? text.toList).filter fun n => decide (n < UInt16.size)
    name := get "DB_NAME"
    readUser := get "DB_USER_R"
    readPassword := get "DB_PASSWORD_R"
    writeUser := get "DB_USER_W"
    writePassword := get "DB_PASSWORD_W"
    encrypt := (get "DB_ENCRYPT").any fun text => text == "1" || sameWord text "true"
    trustCertificate :=
      (get "DB_TRUST_CERT").all fun text => text != "0" && !sameWord text "false" }

/-- The path of the configuration file of a user, below the directory for configuration files. That
directory is named by the variable for it if the name is absolute, else it lies in the user's home
directory. -/
def filePath (configHome home : Option String) : Except ConfigFault String :=
  let directory : Option String :=
    match configHome.filter FilePath.isAbsolute with
    | some directory => some directory
    | none => (home.filter fun h => !h.isEmpty).map fun h => FilePath.below h ".config"
  match directory with
  | some directory => .ok (FilePath.below (FilePath.below directory "rowset") "config.toml")
  | none => .error .noDirectory

end Config
end RecordAccess
