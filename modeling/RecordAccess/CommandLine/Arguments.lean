import RecordAccess.Number.Integer
import RecordAccess.RecordSet.Basic
import RecordAccess.Text.Parts
/-!
# Command-Line Arguments

The commands of the program and the reading of its arguments. Options and positional arguments may
be mixed; after two dashes everything is positional. The option for the configuration file is known
to every command. What is wrong with arguments is told by its kind.
-/

namespace RecordAccess.CommandLine

/-- How rows are written. -/
inductive Format where
  | text
  | json
  | csv
  deriving DecidableEq

namespace Format

/-- The name of a format among the arguments. -/
def name : Format → String
  | text => "text"
  | json => "json"
  | csv => "csv"

/-- The format of a name. -/
def ofName? (name : String) : Option Format := [text, json, csv].find? fun f => f.name == name

end Format

/-- What is asked for by a query. -/
structure Query where
  table : String
  filters : List String
  nulls : List String
  sorts : List String
  pageSize : Nat
  limit : Option Nat
  format : Format
  deriving DecidableEq

/-- A command. -/
inductive Command where
  | info
  | tables
  | schema (table : String)
  | get (table : String) (id : Int64)
  | query (query : Query)
  deriving DecidableEq

/-- The arguments of the program. -/
structure Arguments where
  /-- the path of a configuration file -/
  config : Option String
  command : Command
  deriving DecidableEq

/-- Why arguments do not read, or what they ask for besides a command. -/
inductive Refusal where
  | displayHelp
  | displayVersion
  | displayHelpOnMissing
  | unknownArgument
  | invalidSubcommand
  | missingSubcommand
  | missingRequired
  | argumentConflict
  | invalidValue
  | valueValidation
  | tooManyValues
  deriving DecidableEq

namespace Refusal

/-- The name of a kind of refusal. -/
def name : Refusal → String
  | displayHelp => "DisplayHelp"
  | displayVersion => "DisplayVersion"
  | displayHelpOnMissing => "DisplayHelpOnMissingArgumentOrSubcommand"
  | unknownArgument => "UnknownArgument"
  | invalidSubcommand => "InvalidSubcommand"
  | missingSubcommand => "MissingSubcommand"
  | missingRequired => "MissingRequiredArgument"
  | argumentConflict => "ArgumentConflict"
  | invalidValue => "InvalidValue"
  | valueValidation => "ValueValidation"
  | tooManyValues => "TooManyValues"

end Refusal

/-- An option that takes a value. -/
inductive OptionName where
  | config
  | filter
  | null
  | sort
  | pageSize
  | limit
  | format
  deriving DecidableEq

namespace OptionName

/-- An option as spelled after two dashes. -/
def text : OptionName → String
  | config => "config"
  | filter => "filter"
  | null => "null"
  | sort => "sort"
  | pageSize => "page-size"
  | limit => "limit"
  | format => "format"

/-- Whether an option may be given more than once. -/
def repeats : OptionName → Bool
  | filter => true
  | null => true
  | sort => true
  | _ => false

/-- Whether a text is a value of an option, or what is wrong with it. -/
def check (option : OptionName) (value : String) : Except Refusal Unit :=
  match option with
  | config => if value.isEmpty then .error .invalidValue else .ok ()
  | format => if (Format.ofName? value).isSome then .ok () else .error .invalidValue
  | pageSize | limit =>
    if (unsigned64? value.toList).isSome then .ok () else .error .valueValidation
  | filter | null | sort => .ok ()

end OptionName

/-- The name of a command. -/
inductive CommandName where
  | info
  | tables
  | schema
  | get
  | query
  deriving DecidableEq

namespace CommandName

/-- A command as spelled. -/
def text : CommandName → String
  | info => "info"
  | tables => "tables"
  | schema => "schema"
  | get => "get"
  | query => "query"

/-- The command of a name. -/
def ofText? (name : String) : Option CommandName :=
  [info, tables, schema, get, query].find? fun c => c.text == name

/-- The number of positional arguments, all of which are required. -/
def positionals : CommandName → Nat
  | info => 0
  | tables => 0
  | schema => 1
  | get => 2
  | query => 1

/-- The options that a command knows. -/
def options : CommandName → List OptionName
  | query => [.config, .filter, .null, .sort, .pageSize, .limit, .format]
  | _ => [.config]

/-- Whether a text is a positional argument of a command, or what is wrong with it. -/
def check (command : CommandName) (place : Nat) (value : String) : Except Refusal Unit :=
  if command = get ∧ place = 1 then
    if (readInt64? value.toList).isSome then .ok () else .error .valueValidation
  else .ok ()

end CommandName

/-- The place of arguments: before the command, or after it. -/
inductive Level where
  | top
  | command (name : CommandName)
  deriving DecidableEq

namespace Level

/-- The options known at a place. -/
def options : Level → List OptionName
  | top => [.config]
  | command name => name.options

/-- The number of positional arguments at a place. -/
def positionals : Level → Nat
  | top => 0
  | command name => name.positionals

/-- Whether a text is a positional argument at a place. -/
def check (level : Level) (place : Nat) (value : String) : Except Refusal Unit :=
  match level with
  | top => .ok ()
  | command name => name.check place value

/-- The refusal of a positional argument too many. -/
def surplus (level : Level) (isCommand : Bool) : Refusal :=
  match level with
  | top => if isCommand then .unknownArgument else .invalidSubcommand
  | command _ => .unknownArgument

end Level

/-- An argument that is not checked before the next one begins. -/
inductive Unchecked where
  | option (name : OptionName) (value : Option String)
  | positional (value : String)

/-- The arguments read at one level, latest first. -/
structure Reading where
  options : List (OptionName × String)
  positionals : List String
  unchecked : Option Unchecked
  /-- Whether two dashes have been read. -/
  trailing : Bool

namespace Reading

/-- Nothing read yet. -/
def empty : Reading := ⟨[], [], none, false⟩

/-- Whether the next argument is the value of an option. -/
def awaitsValue (r : Reading) : Bool :=
  match r.unchecked with
  | some (.option _ none) => true
  | _ => false

/-- Take in an option with its value. -/
def takeOption (r : Reading) (name : OptionName) (value : Option String) :
    Except Refusal Reading :=
  match value with
  | none => .error .invalidValue
  | some value =>
    if !name.repeats && r.options.any (fun o => o.1 == name) then .error .argumentConflict
    else do
      name.check value
      return { r with options := (name, value) :: r.options, unchecked := none }

/-- Check the argument that is still to be checked. -/
def settle (level : Level) (r : Reading) : Except Refusal Reading :=
  match r.unchecked with
  | none => .ok r
  | some (.option name value) => r.takeOption name value
  | some (.positional value) => do
    level.check r.positionals.length value
    return { r with positionals := value :: r.positionals, unchecked := none }

/-- The number of positional arguments so far. -/
def places (r : Reading) : Nat :=
  match r.unchecked with
  | some (.positional _) => r.positionals.length + 1
  | _ => r.positionals.length

/-- Read a positional argument. -/
def positional (level : Level) (r : Reading) (argument : String) : Except Refusal Reading :=
  if r.places < level.positionals then do
    let r ← r.settle level
    return { r with unchecked := some (.positional argument) }
  else
    .error (level.surplus (r.trailing &&
      ((CommandName.ofText? argument).isSome || argument == "help")))

/-- Read an argument that starts with two dashes. -/
def long (level : Level) (r : Reading) (body : List Char) : Except Refusal Reading :=
  let (name, value) := match cutAtFirst? '=' body with
    | some (name, value) => (String.ofList name, some (String.ofList value))
    | none => (String.ofList body, none)
  match level.options.find? fun o => o.text == name with
  | some option => do
    let r ← r.settle level
    match value with
    | some value => r.takeOption option (some value)
    | none => return { r with unchecked := some (.option option none) }
  | none =>
    if name = "help" ∨ (name = "version" ∧ level = .top) then
      if value.isSome then .error .tooManyValues
      else do
        let _ ← r.settle level
        .error (if name = "help" then .displayHelp else .displayVersion)
    else .error .unknownArgument

/-- Read an argument that starts with one dash. No option has a short spelling but the two that ask
for help or the version. -/
def short (level : Level) (r : Reading) (letter : Char) : Except Refusal Reading :=
  if letter = 'h' ∨ (letter = 'V' ∧ level = .top) then do
    let _ ← r.settle level
    .error (if letter = 'h' then .displayHelp else .displayVersion)
  else .error .unknownArgument

/-- Read an argument that is no command. -/
def argument (level : Level) (r : Reading) (argument : String) : Except Refusal Reading :=
  let value (r : Reading) : Except Refusal Reading :=
    match r.unchecked with
    | some (.option name none) =>
      .ok { r with unchecked := some (.option name (some argument)) }
    | _ => r.positional level argument
  if r.trailing then r.positional level argument
  else
    match argument.toList with
    | ['-', '-'] => .ok { r with trailing := true }
    | '-' :: '-' :: body => r.long level body
    | '-' :: letter :: _ => r.short level letter
    | _ => value r

end Reading

/-- Read the arguments after a command. -/
def readAfter (level : Level) (r : Reading) : List String → Except Refusal Reading
  | [] => r.settle level
  | argument :: rest => do readAfter level (← r.argument level argument) rest

/-- What a request for help about commands leads to. -/
def helpAbout : List String → Refusal
  | [] => .displayHelp
  | [name] =>
    if (CommandName.ofText? name).isSome || name == "help" then .displayHelp
    else .invalidSubcommand
  | _ => .invalidSubcommand

/-- What the arguments before a command and after it amount to. -/
structure Readings where
  top : Reading
  command : Option (CommandName × Reading)

/-- Read the arguments up to a command, and those after it. -/
def readTop (r : Reading) : List String → Except Refusal Readings
  | [] => do return ⟨← r.settle .top, none⟩
  | argument :: rest =>
    if r.trailing || r.awaitsValue then do readTop (← r.argument .top argument) rest
    else if argument = "help" then .error (helpAbout rest)
    else
      match CommandName.ofText? argument with
      | some name => do
        let after ← readAfter (.command name) .empty rest
        if after.positionals.length < name.positionals then .error .missingRequired
        else return ⟨← r.settle .top, some (name, after)⟩
      | none => do readTop (← r.argument .top argument) rest

namespace Reading

/-- The value of an option that is given at most once. -/
def value? (r : Reading) (name : OptionName) : Option String :=
  (r.options.find? fun o => o.1 == name).map Prod.snd

/-- The values of an option in the order given. -/
def values (r : Reading) (name : OptionName) : List String :=
  (r.options.reverse.filter fun o => o.1 == name).map Prod.snd

/-- A positional argument. -/
def place (r : Reading) (n : Nat) : String := r.positionals.reverse.getD n ""

/-- The query that the arguments after its command ask for. -/
def query (r : Reading) : Query where
  table := r.place 0
  filters := r.values .filter
  nulls := r.values .null
  sorts := r.values .sort
  pageSize :=
    ((r.value? .pageSize).bind fun v => unsigned64? v.toList).getD
      (RecordSetOf.standardPageSize)
  limit := (r.value? .limit).bind fun v => unsigned64? v.toList
  format := ((r.value? .format).bind Format.ofName?).getD .text

/-- The command that arguments ask for. -/
def command (r : Reading) : CommandName → Command
  | .info => .info
  | .tables => .tables
  | .schema => .schema (r.place 0)
  | .get => .get (r.place 0) ((readInt64? (r.place 1).toList).getD 0)
  | .query => .query r.query

end Reading

/-- The arguments of the program, without its own name. -/
def Arguments.ofList (arguments : List String) : Except Refusal Arguments := do
  let ⟨top, command⟩ ← readTop .empty arguments
  match command with
  | some (name, after) =>
    let config := match after.value? .config with
      | some path => some path
      | none => top.value? .config
    return ⟨config, after.command name⟩
  | none => .error (if top.options.isEmpty then .displayHelpOnMissing else .missingSubcommand)

end RecordAccess.CommandLine
