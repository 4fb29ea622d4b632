import Schemata.Change.Json
import Schemata.Cli.Arguments
import Schemata.Cli.Report
import Schemata.Client
import Schemata.Folder.Basic

/-! # Running commands

What a command does to the files and streams of a host. The host is a parameter: a real one performs
the effects, and a scene, which is a value, records them. -/

namespace Schemata.Cli

/-! ## Hosts -/

/-- What a command may do. -/
class Host (m : Type → Type) where
  /-- The content of a file. -/
  readFile : String → m (Except SystemError ByteArray)
  /-- Write a file. -/
  writeFile : String → String → m (Except SystemError Unit)
  /-- Create or empty the file of the log, with the directories that it is in. -/
  openLog : String → m (Except SystemError Unit)
  /-- What is left of the standard input. -/
  readInput : m ByteArray
  /-- Write to the standard output, which is assumed to take everything: there is no failure to
  write to it. -/
  print : String → m Unit
  /-- Write to the standard error stream. -/
  printError : String → m Unit

/-- The files and streams of a host, as a value. -/
structure Scene where
  /-- The files. -/
  folder : Folder
  /-- What is left of the standard input. -/
  input : ByteArray
  /-- What has been written to the standard output. -/
  output : String
  /-- What has been written to the standard error stream. -/
  errors : String

/-- A scene is a host: effects change it. -/
instance : Host (StateM Scene) where
  readFile path := do return (← get).folder.read path
  writeFile path text := do
    let scene ← get
    match scene.folder.write path text.toUTF8 with
    | .ok folder => set { scene with folder }; return .ok ()
    | .error e => return .error e
  openLog path := do
    let scene ← get
    let (folder, outcome) := scene.folder.createEmpty path
    set { scene with folder }
    return outcome
  readInput := do
    let scene ← get
    set { scene with input := ByteArray.empty }
    return scene.input
  print text := modify fun scene => { scene with output := scene.output ++ text }
  printError text := modify fun scene => { scene with errors := scene.errors ++ text }

/-- A host stays one when failures are passed on. -/
instance {m : Type → Type} [Monad m] [Host m] : Host (ExceptT Failure m) where
  readFile path := ExceptT.lift (Host.readFile path)
  writeFile path text := ExceptT.lift (Host.writeFile path text)
  openLog path := ExceptT.lift (Host.openLog path)
  readInput := ExceptT.lift Host.readInput
  print text := ExceptT.lift (Host.print text)
  printError text := ExceptT.lift (Host.printError text)

/-! ## Settings -/

/-- The settings in the content of a configuration file. -/
def configOfBytes (path : String) (bytes : ByteArray) : Except Error Config :=
  match Text.decode? bytes with
  | some text => Config.ofText text
  | none => .error (.unreadableConfig path .invalidUtf8)

/-- The log of an invocation: a verbose one has everything that helps to find faults, and when the
configuration says nothing there are warnings. -/
def logging (config : Config) (verbose : Bool) : LoggingConfig :=
  if verbose then { config.logging.getD default with level := "debug" }
  else config.logging.getD { (default : LoggingConfig) with level := "warn" }

/-- Settings with the names that a source gives. -/
def withNames (config : Config) (source : Source) : Config :=
  { config with
    database := { config.database with
      name := source.database.getD config.database.name
      schema := source.schema.getD config.database.schema } }

/-- Settings with another case style, if one is given. -/
def withStyle (config : Config) (style : Option CaseStyle) : Config :=
  { config with output := { config.output with style := style.getD config.output.style } }

/-! ## Commands -/

section

variable {m : Type → Type} [Monad m] [Host m]

/-- Read the configuration from a file. -/
def readConfig (path : String) : m (Except Error Config) := do
  match ← Host.readFile path with
  | .ok bytes => return configOfBytes path bytes
  | .error e => return .error (.unreadableConfig path e)

/-- Read a database from a file. -/
def readFileDatabase (client : Client) (path : String) : m (Except Error Database) := do
  match ← Host.readFile path with
  | .ok bytes => return client.reader.bytes bytes
  | .error e => return .error (.io e)

/-- Read a database from a file or, when there is none or it is a dash, from the standard input. -/
def readDatabase (client : Client) (input : Option String) : ExceptT Failure m Database := do
  match input.filter fun path => !Path.isDash path with
  | some path =>
      match ← readFileDatabase client path with
      | .ok db => return db
      | .error e => throw (.during s!"failed to parse {path}" e)
  | none =>
      match client.reader.bytes (← Host.readInput) with
      | .ok db => return db
      | .error e => throw (.during "failed to parse DDL from stdin" e)

/-- Write a text to a file or, when there is none or it is a dash, to the standard output. -/
def writeOutput (output : Option String) (text : String) : ExceptT Failure m Unit := do
  match output.filter fun path => !Path.isDash path with
  | some path =>
      match ← Host.writeFile path text with
      | .ok () => return ()
      | .error e => throw ⟨s!"failed to write {path}", [e.message]⟩
  | none => Host.print text

/-- The issues of a report, one to a line. -/
def issueLines (report : Report) : String :=
  String.join (report.issues.map fun issue => issue.text ++ "\n")

/-- The changes to a database, one to a line, below a line with its file and their number. -/
def changeLines (path : String) (changes : List Change) : String :=
  s!"Changes to {path} ({changes.length}):\n"
    ++ String.join (changes.map fun change => "  " ++ change.text ++ "\n")

/-- Run a command with its settings. The answer says whether the command found nothing amiss. -/
def runCommand (config : Config) : Command → ExceptT Failure m Bool
  | .convert source output style createDatabase validate => do
      let config := withStyle (withNames config source) style
      let client : Client :=
        ⟨{ config with output := { config.output with
          createDatabase := config.output.createDatabase || createDatabase } }⟩
      let db ← readDatabase client source.input
      if validate then Host.printError (issueLines db.validate)
      writeOutput output (client.script db)
      return true
  | .validate source => do
      let client : Client := ⟨withNames config source⟩
      let db ← readDatabase client source.input
      let report := db.validate
      if report.isValid then
        Host.print s!"Database {db.name} is valid.\n"
        return true
      else
        Host.print (issueLines report)
        return false
  | .diff first second names style alterFirst alterSecond format => do
      let client : Client := ⟨withStyle (withNames config names) style⟩
      let db₁ ← readDatabase client (some first)
      let db₂ ← readDatabase client (some second)
      let comparison := db₁.compare db₂
      if alterFirst || alterSecond then
        if alterFirst then Host.print (client.alterations comparison.first)
        if alterSecond then Host.print (client.alterations comparison.second)
      else
        match format with
        | .json => Host.print (comparison.json.pretty ++ "\n")
        | .text =>
            Host.print (changeLines first comparison.first)
            Host.print (changeLines second comparison.second)
      return true

/-- Run an invocation: read the settings, open the log, run the command. -/
def runInvocation (i : Invocation) : ExceptT Failure m Bool := do
  let config ←
    match i.config with
    | none => pure default
    | some path =>
        match ← readConfig path with
        | .ok config => pure config
        | .error e => throw (.during s!"failed to load config {path}" e)
  -- The log is opened before the command, so a log that cannot be opened stops it.
  if let some path := (logging config i.verbose).file then
    if let .error e := ← Host.openLog path then throw (.ofError (.io e))
  runCommand config i.command

/-- What a request for the version is answered with. -/
def versionText : String := "ddl_tools 0.1.0\n"

/-- What a request for help is answered with, and arguments that make no command. The wording is
this library's own, and no result depends on it. -/
def helpText : String :=
  "Usage: ddl_tools [OPTIONS] <COMMAND>\n\nCommands:\n"
    ++ "  convert   Write the script that builds the tables of a DDL file\n"
    ++ "  validate  Report the issues of a DDL file\n"
    ++ "  diff      Show what tells two DDL files apart\n"
    ++ "  help      Print this message\n"

/-- Run the program with its arguments. The exit code is 0 when all went well, 1 after a failure or
when there are issues to report, and 2 when the arguments make no command. -/
def run (args : List String) : m Nat := do
  match parse args with
  | .error .version => Host.print versionText; return 0
  | .error .help => Host.print helpText; return 0
  | .error .usage => Host.printError helpText; return 2
  | .ok i =>
      match ← (runInvocation i : ExceptT Failure m Bool).run with
      | .ok true => return 0
      | .ok false => return 1
      | .error failure => Host.printError failure.text; return 1

end

end Schemata.Cli
