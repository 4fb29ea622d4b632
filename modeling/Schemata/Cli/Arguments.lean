import Schemata.Naming
import Schemata.Text.Search

/-! # Command line arguments

The commands of the program and their options. Options come after the command, except that the
configuration file, the verbose flag, and the requests for help and for the version may come before
it. An option is given at most once at a level. -/

namespace Schemata.Cli

/-! ## Commands -/

/-- Where a database comes from and the names it goes under. -/
structure Source where
  /-- The file, if it is not the standard input. -/
  input : Option String
  /-- The name of the database, if it is not the configured one. -/
  database : Option String
  /-- The schema of its tables, if it is not the configured one. -/
  schema : Option String
  deriving DecidableEq, Repr

/-- How differences are shown. -/
inductive Format where
  /-- One line for each. -/
  | text
  /-- All in one JSON value. -/
  | json
  deriving DecidableEq, Repr

/-- What the program is asked to do. -/
inductive Command where
  /-- Write the script that builds a database. -/
  | convert (source : Source) (output : Option String) (style : Option CaseStyle)
      (createDatabase validate : Bool)
  /-- Report the issues of a database. -/
  | validate (source : Source)
  /-- Show what tells two databases apart. -/
  | diff (first second : String) (names : Source) (style : Option CaseStyle)
      (alterFirst alterSecond : Bool) (format : Format)
  deriving DecidableEq, Repr

/-- A command with the options that every command has. -/
structure Invocation where
  /-- The configuration file. -/
  config : Option String
  /-- Whether to log more. -/
  verbose : Bool
  /-- The command. -/
  command : Command
  deriving DecidableEq, Repr

/-- Why there is no command to run. -/
inductive Stop where
  /-- Help is asked for. -/
  | help
  /-- The version is asked for. -/
  | version
  /-- The arguments make no command. -/
  | usage
  deriving DecidableEq, Repr

/-! ## Options -/

/-- The options of all commands. -/
inductive Flag where
  /-- The configuration file. -/
  | config
  /-- Log more. -/
  | verbose
  /-- The file to read. -/
  | input
  /-- The name of the database. -/
  | database
  /-- The schema of the tables. -/
  | schema
  /-- The file to write. -/
  | output
  /-- The case style of identifiers. -/
  | style
  /-- Create the database too. -/
  | createDatabase
  /-- Report issues too. -/
  | validate
  /-- The file of the first database. -/
  | first
  /-- The file of the second database. -/
  | second
  /-- Show the statements that change the first database. -/
  | alterFirst
  /-- Show the statements that change the second database. -/
  | alterSecond
  /-- How differences are shown. -/
  | format
  /-- Ask for help. -/
  | help
  /-- Ask for the version. -/
  | version
  deriving DecidableEq, Repr

namespace Flag

/-- The word of an option, which two dashes stand before. -/
def word : Flag → String
  | .config => "config"
  | .verbose => "verbose"
  | .input => "input"
  | .database => "database"
  | .schema => "schema"
  | .output => "output"
  | .style => "case"
  | .createDatabase => "create-db"
  | .validate => "validate"
  | .first => "ddl1"
  | .second => "ddl2"
  | .alterFirst => "alter1"
  | .alterSecond => "alter2"
  | .format => "format"
  | .help => "help"
  | .version => "version"

/-- The letter of an option, which one dash stands before. -/
def letter? : Flag → Option Char
  | .config => some 'c'
  | .verbose => some 'v'
  | .input => some 'i'
  | .database => some 'd'
  | .schema => some 's'
  | .output => some 'o'
  | .help => some 'h'
  | .version => some 'V'
  | _ => none

/-- Whether an option has a value. -/
def hasValue : Flag → Bool
  | .verbose | .createDatabase | .validate | .alterFirst | .alterSecond | .help | .version => false
  | _ => true

/-- Whether an option may have a given value. A path must not be empty. -/
def accepts (flag : Flag) (value : String) : Bool :=
  match flag with
  | .config | .input | .output | .first | .second => !value.isEmpty
  | .style => (CaseStyle.ofText value).toBool
  | .format => value == "text" || value == "json"
  | _ => true

end Flag

/-- The options before the command. -/
def mainFlags : List Flag := [.config, .verbose, .help, .version]

/-- The options of a command. -/
def commandFlags : String → List Flag
  | "convert" =>
      [.config, .verbose, .help, .input, .database, .schema, .output, .style, .createDatabase,
        .validate]
  | "validate" => [.config, .verbose, .help, .input, .database, .schema]
  | "diff" =>
      [.config, .verbose, .help, .first, .second, .database, .schema, .alterFirst, .alterSecond,
        .style, .format]
  | _ => []

/-- The commands, and the request for help that may stand in the place of one. -/
def commandWords : List String := ["convert", "validate", "diff", "help"]

/-- The options that have been given, each with its value. -/
abbrev Settings := List (Flag × String)

namespace Settings

/-- Whether an option has been given. -/
def has (s : Settings) (flag : Flag) : Bool := (s.lookup flag).isSome

/-- Take an option with its value. -/
def take (s : Settings) (flag : Flag) (value : String) : Except Stop Settings :=
  match flag with
  | .help => .error .help
  | .version => .error .version
  | _ => if s.has flag || !flag.accepts value then .error .usage else .ok (s ++ [(flag, value)])

end Settings

/-! ## Reading arguments -/

/-- What one argument with options leaves open. -/
inductive Opened where
  /-- Nothing. -/
  | nothing (s : Settings)
  /-- The value of an option, which the next argument has to give. -/
  | value (flag : Flag) (s : Settings)

/-- Read an argument of two dashes and a word, with a value after an equals sign or without. -/
def readWord (flags : List Flag) (s : Settings) (arg : List Char) : Except Stop Opened := do
  let (word, value?) :=
    match Text.cutAt? (· == '=') arg with
    | some (word, value) => (word, some (String.ofList value))
    | none => (arg, none)
  match flags.find? fun flag => flag.word.toList == word, value? with
  | none, _ => throw .usage
  | some flag, some value => if flag.hasValue then .nothing <$> s.take flag value else throw .usage
  | some flag, none => if flag.hasValue then return .value flag s else .nothing <$> s.take flag ""

/-- Read the letters of an argument after its dash. What follows the letter of an option with a
value is that value, after an equals sign or without. -/
def readLetters (flags : List Flag) (s : Settings) : List Char → Except Stop Opened
  | [] => .ok (.nothing s)
  | c :: rest =>
      match flags.find? fun flag => flag.letter? == some c with
      | none => .error .usage
      | some flag =>
          if flag.hasValue then
            match rest with
            | [] => .ok (.value flag s)
            | '=' :: value => .nothing <$> s.take flag (String.ofList value)
            | value => .nothing <$> s.take flag (String.ofList value)
          else do
            let s ← s.take flag ""
            readLetters flags s rest

/-- Read an argument that is no command word. Two dashes alone end the options, so they have to be
the last argument. -/
def readArgument (flags : List Flag) (s : Settings) (last : Bool) (arg : String) :
    Except Stop Opened :=
  match arg.toList with
  | '-' :: '-' :: [] => if last then .ok (.nothing s) else .error .usage
  | '-' :: '-' :: word => readWord flags s word
  | '-' :: c :: letters => readLetters flags s (c :: letters)
  | _ => .error .usage

/-- Read options up to the first command word. A value must not start with a dash unless it is a
single one. -/
def readOptions (flags : List Flag) (commands : List String) (s : Settings) :
    List String → Except Stop (Settings × Option (String × List String))
  | [] => .ok (s, none)
  | arg :: rest =>
      if commands.contains arg then .ok (s, some (arg, rest))
      else
        match readArgument flags s rest.isEmpty arg, rest with
        | .error stop, _ => .error stop
        | .ok (.nothing s), rest => readOptions flags commands s rest
        | .ok (.value _ _), [] => .error .usage
        | .ok (.value flag s), value :: rest =>
            if value != "-" && value.toList.head? == some '-' then .error .usage
            else
              match s.take flag value with
              | .ok s => readOptions flags commands s rest
              | .error stop => .error stop

/-- The command that a word and its options make. -/
def command (word : String) (s : Settings) : Except Stop Command := do
  let value? (flag : Flag) : Option String := s.lookup flag
  let source : Source := ⟨value? .input, value? .database, value? .schema⟩
  let style := (value? .style).bind fun text => (CaseStyle.ofText text).toOption
  match word with
  | "convert" =>
      return .convert source (value? .output) style (s.has .createDatabase) (s.has .validate)
  | "validate" => return .validate source
  | _ =>
      match value? .first, value? .second with
      | some first, some second =>
          return .diff first second source style (s.has .alterFirst) (s.has .alterSecond)
            (if value? .format == some "json" then .json else .text)
      | _, _ => throw .usage

/-- The invocation that the arguments of the program make. A configuration file given after the
command takes the place of one given before it. -/
def parse (args : List String) : Except Stop Invocation := do
  match ← readOptions mainFlags commandWords [] args with
  | (_, none) => throw .usage
  | (_, some ("help", rest)) =>
      if rest.length ≤ 1 && rest.all commandWords.contains then throw .help else throw .usage
  | (before, some (word, rest)) =>
      let (after, _) ← readOptions (commandFlags word) [] [] rest
      return {
        config := (after.lookup .config).or (before.lookup .config)
        verbose := before.has .verbose || after.has .verbose
        command := ← command word after }

end Schemata.Cli
