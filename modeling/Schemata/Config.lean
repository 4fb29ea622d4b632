import Schemata.Naming
import Schemata.Table
import Schemata.Toml.Reader

/-! # Configuration

The settings of the library and their form as a TOML document. Every setting has a default, settings
that are not known are passed over, and a setting of the wrong kind is refused. -/

namespace Schemata

/-- The names that databases are read and written under. -/
structure DatabaseConfig where
  /-- The name of a database that is read. -/
  name : String
  /-- The schema of its tables. -/
  schema : String
  /-- The schema whose name is exempt from the case style. -/
  defaultSchema : String
  deriving DecidableEq, Repr

/-- How scripts are written. -/
structure OutputConfig where
  /-- The case style of identifiers. -/
  style : CaseStyle
  /-- Whether a script creates its database and schemas. -/
  createDatabase : Bool
  deriving DecidableEq, Repr

/-- What is logged, and where. -/
structure LoggingConfig where
  /-- The least level that is logged. -/
  level : String
  /-- The file of the log, if it is not the console. -/
  file : Option String
  /-- The format of a line. -/
  format : String
  /-- Whether the console is written to. -/
  console : Bool
  deriving DecidableEq, Repr

/-- All settings. -/
structure Config where
  /-- The names that databases are read and written under. -/
  database : DatabaseConfig
  /-- How scripts are written. -/
  output : OutputConfig
  /-- What is logged, if anything is said about it. -/
  logging : Option LoggingConfig
  deriving DecidableEq, Repr

/-- The names when nothing is said about them. -/
instance : Inhabited DatabaseConfig where
  default :=
    { name := "MY_DATABASE", schema := Schemata.defaultSchema
      defaultSchema := Schemata.defaultSchema }

/-- Scripts when nothing is said about them. -/
instance : Inhabited OutputConfig := ⟨.unchanged, false⟩

/-- The log when little is said about it. -/
instance : Inhabited LoggingConfig := ⟨"info", none, "text", true⟩

/-- The settings when nothing is said about them. -/
instance : Inhabited Config := ⟨default, default, none⟩

/-! ## Log levels -/

/-- The levels of a log. -/
inductive LogLevel where
  /-- Everything. -/
  | trace
  /-- What helps to find faults. -/
  | debug
  /-- What is worth knowing. -/
  | info
  /-- What is suspicious. -/
  | warn
  /-- What is wrong. -/
  | error
  deriving DecidableEq, Repr

namespace LogLevel

/-- The word for a level. -/
def label : LogLevel → String
  | .trace => "TRACE"
  | .debug => "DEBUG"
  | .info => "INFO"
  | .warn => "WARN"
  | .error => "ERROR"

/-- The level that a word names; the case of the word does not count, and a word that is not known
names the level of what is worth knowing. -/
def ofText (text : String) : LogLevel :=
  match Text.lowercase text with
  | "trace" => .trace
  | "debug" => .debug
  | "warn" => .warn
  | "error" => .error
  | _ => .info

end LogLevel

/-! ## Settings in a document -/

namespace Toml

/-- The settings of a section: the value under a name or, in a section that is written as an array,
at a place. -/
abbrev Section := String → Nat → Option Value

/-- A section. It may be a table, or an array of its settings in their order. A date or time counts
as a section without settings. -/
def Value.asSection : Value → Except Fault Section
  | .table _ entries => .ok fun key _ => entries.lookup key
  | .array items => .ok fun _ place => items[place]?
  | .tables items => .ok fun _ place => (items[place]?).map (.table .header)
  | .moment _ => .ok fun _ _ => none
  | _ => .error (.wrongKind "a table")

/-- A string. -/
def Value.asString : Value → Except Fault String
  | .string s => .ok s
  | _ => .error (.wrongKind "a string")

/-- A truth value. -/
def Value.asBool : Value → Except Fault Bool
  | .boolean b => .ok b
  | _ => .error (.wrongKind "a boolean")

/-- Whether a value is a table or an array without content. -/
def Value.isHollow : Value → Bool
  | .table _ entries => entries.isEmpty
  | .array items => items.isEmpty
  | .tables items => items.isEmpty
  | _ => false

/-- The style that a word names; here case counts. -/
def styleOf (word : String) : Except Fault CaseStyle :=
  match [CaseStyle.unchanged, .upper, .lower, .camel].find? fun style => style.label == word with
  | some style => .ok style
  | none => .error (.wrongKind "a case style")

/-- A case style. It may be a word, or a table whose only key is the word and whose value there is
hollow. -/
def Value.asStyle : Value → Except Fault CaseStyle
  | .string word => styleOf word
  | .table _ [(key, value)] =>
      if value.isHollow then styleOf key else .error (.wrongKind "an empty table")
  | .table _ _ => .error (.wrongKind "one case style")
  | _ => .error (.wrongKind "a case style")

/-- A setting, or its default when the section does not have it. -/
def Section.get {α : Type} (s : Section) (key : String) (place : Nat)
    (read : Value → Except Fault α) (otherwise : α) : Except Fault α :=
  match s key place with
  | some value => read value
  | none => .ok otherwise

end Toml

namespace DatabaseConfig

/-- The names in a document. -/
def ofValue (value : Toml.Value) : Except Toml.Fault DatabaseConfig := do
  let s ← value.asSection
  let usual : DatabaseConfig := default
  return {
    name := ← s.get "name" 0 Toml.Value.asString usual.name
    schema := ← s.get "schema" 1 Toml.Value.asString usual.schema
    defaultSchema := ← s.get "default_schema" 2 Toml.Value.asString usual.defaultSchema }

end DatabaseConfig

namespace OutputConfig

/-- The form of scripts in a document. -/
def ofValue (value : Toml.Value) : Except Toml.Fault OutputConfig := do
  let s ← value.asSection
  let usual : OutputConfig := default
  return {
    style := ← s.get "case" 0 Toml.Value.asStyle usual.style
    createDatabase := ← s.get "create_database" 1 Toml.Value.asBool usual.createDatabase }

end OutputConfig

namespace LoggingConfig

/-- The log in a document. -/
def ofValue (value : Toml.Value) : Except Toml.Fault LoggingConfig := do
  let s ← value.asSection
  let usual : LoggingConfig := default
  return {
    level := ← s.get "level" 0 Toml.Value.asString usual.level
    file := ← s.get "file" 1 (fun value => some <$> value.asString) usual.file
    format := ← s.get "format" 2 Toml.Value.asString usual.format
    console := ← s.get "console" 3 Toml.Value.asBool usual.console }

end LoggingConfig

namespace Config

/-- The settings in the entries of a document. -/
def ofEntries (entries : Toml.Entries) : Except Toml.Fault Config := do
  let s ← (Toml.Value.table .header entries).asSection
  return {
    database := ← s.get "database" 0 DatabaseConfig.ofValue default
    output := ← s.get "output" 1 OutputConfig.ofValue default
    logging := ← s.get "logging" 2 (fun value => some <$> LoggingConfig.ofValue value) none }

/-- The settings in a text. -/
def ofText (text : String) : Except Error Config :=
  match Toml.parse text >>= ofEntries with
  | .ok config => .ok config
  | .error fault => .error (.malformedConfig fault.message)

end Config

end Schemata
