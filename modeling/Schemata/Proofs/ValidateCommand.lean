import Mathlib.Data.List.Basic
import Schemata.Cli.Run
import Schemata.Proofs.ReadCharacters

/-! # Validating what is read

All that validation finds in a database that is read from a text are columns of unknown types, for
nothing that is read refers to anything else. The command that validates the standard input says so:
it prints one warning for each of them and ends with 1, or it calls the database valid and ends
with 0. A warning is one line, unless the name of the database is of several. -/

namespace Schemata

/-! ## What validation finds -/

namespace Database

/-- The columns of unknown types, in the order of the tables and of their columns. -/
def unknowns (db : Database) : List (Table × Column) :=
  db.tables.toList.flatMap fun t =>
    (t.columns.toList.filter fun c => c.type == .unknown).map fun c => (t, c)

/-- The warning about a column of an unknown type. -/
def unknownWarning (db : Database) (place : Table × Column) : Issue where
  message :=
    s!"database {db.name}, table {place.1.name}:  column {place.2.name} is of type UNKNOWN."
  severity := .warning

/-- The faults of column types, column by column. -/
theorem typeFaults_eq_map (t : Table) :
    t.typeFaults
      = (t.columns.toList.filter fun c => c.type == .unknown).map fun c => .unknownType c.name := by
  rw [Table.typeFaults]
  induction t.columns.toList with
  | nil => rfl
  | cons c cs ih =>
      rw [List.flatMap_cons, ih, List.filter_cons]
      cases h : c.type == .unknown <;> simp [Fault.when]

/-- Of a table without keys and relationships only the column types may be at fault. -/
theorem tableFaults_of_makes (db : Database) {r : Ddl.Reader} {t : Table} (h : r.Makes t) :
    db.tableFaults t = t.typeFaults := by
  simp [tableFaults, Table.primaryKeyFaults, Table.shardKeyFaults, foreignKeyFaults,
    relationshipFaults, h.primaryKey, h.shardKey, h.foreignKeys, h.relationships]

/-- The issue that tells of a column of an unknown type is the warning about it. -/
theorem issue_unknownType (db : Database) (t : Table) (c : Column) :
    db.issue t (.unknownType c.name) = db.unknownWarning (t, c) := by
  have hword : ":  column " = ":  " ++ "column " := by decide
  have hmessage : "database " ++ db.name ++ ", table " ++ t.name ++ ":  "
        ++ ("column " ++ c.name ++ " is of type UNKNOWN.")
      = "database " ++ db.name ++ ", table " ++ t.name ++ ":  column " ++ c.name
        ++ " is of type UNKNOWN." := by
    simp only [hword, String.append_assoc]
  exact congrArg (Issue.mk · .warning) hmessage

/-- All that validation finds in a database of such tables are columns of unknown types. -/
theorem issues_validate_of_makes {db : Database} {r : Ddl.Reader}
    (h : ∀ t ∈ db.tables.toList, r.Makes t) :
    db.validate.issues = db.unknowns.map db.unknownWarning := by
  rw [validate, unknowns, List.map_flatMap]
  refine List.flatMap_congr fun t ht => ?_
  rw [db.tableFaults_of_makes (h t ht), typeFaults_eq_map, List.map_map, List.map_map]
  exact List.map_congr_left fun c _ => db.issue_unknownType t c

end Database

/-! ## The lines of a report -/

namespace Cli

/-- The lines of texts that are ended by a line feed each are those of one text after the other. -/
theorem lines_join {α : Type} (xs : List α) (text : α → String) :
    Text.lines (String.join (xs.map fun x => text x ++ "\n")).toList
      = xs.flatMap fun x => Text.lines (text x ++ "\n").toList := by
  induction xs with
  | nil => rfl
  | cons x xs ih =>
      have hfirst : (text x ++ "\n").toList = (text x).toList ++ ['\n'] := by simp
      have hjoin : (String.join ((x :: xs).map fun x => text x ++ "\n")).toList
          = (text x).toList ++ '\n' :: (String.join (xs.map fun x => text x ++ "\n")).toList := by
        simp [String.toList_join]
      rw [hjoin, Text.lines_append, ih, List.flatMap_cons, hfirst]

/-- The text of a warning about a column of an unknown type, in its parts. -/
theorem toList_text_unknownWarning (db : Database) (place : Table × Column) :
    (db.unknownWarning place).text.toList
      = "Warning: database ".toList ++ db.name.toList ++ ", table ".toList ++ place.1.name.toList
        ++ ":  column ".toList ++ place.2.name.toList ++ " is of type UNKNOWN".toList ++ ['.'] := by
  have htext : (db.unknownWarning place).text
      = "Warning" ++ ": " ++ ("database " ++ db.name ++ ", table " ++ place.1.name ++ ":  column "
        ++ place.2.name ++ " is of type UNKNOWN.") := rfl
  simp [htext]

/-- Only the name of the database puts line feeds into a warning, if the names of the table and the
column hold none. -/
theorem count_text_unknownWarning (db : Database) {place : Table × Column}
    (htable : '\n' ∉ place.1.name.toList) (hcolumn : '\n' ∉ place.2.name.toList) :
    (db.unknownWarning place).text.toList.count '\n' = db.name.toList.count '\n' := by
  have hwords : ∀ words ∈ ["Warning: database ", ", table ", ":  column ", " is of type UNKNOWN"],
      words.toList.count '\n' = 0 := by decide
  have hend : ['.'].count '\n' = 0 := by decide
  simp only [toList_text_unknownWarning, List.count_append, hwords _ List.mem_cons_self,
    hwords ", table " (by simp), hwords ":  column " (by simp),
    hwords " is of type UNKNOWN" (by simp), hend, List.count_eq_zero.2 htable,
    List.count_eq_zero.2 hcolumn, Nat.zero_add, Nat.add_zero]

/-- A warning without line feeds is a line. -/
theorem lines_text_unknownWarning {db : Database} {place : Table × Column}
    (h : '\n' ∉ (db.unknownWarning place).text.toList) :
    Text.lines ((db.unknownWarning place).text ++ "\n").toList
      = [(db.unknownWarning place).text.toList] := by
  have hlast : (db.unknownWarning place).text.toList.getLast? ≠ some '\r' := by
    rw [toList_text_unknownWarning, List.getLast?_concat]
    decide
  rw [String.toList_append]
  exact Text.lines_line h hlast

/-! ## The command -/

/-- Whether arguments ask to validate the standard input with the usual settings, under the names
that a reader has. -/
def ValidatesInput (args : List String) (r : Ddl.Reader) : Prop :=
  ∃ verbose source, parse args = .ok ⟨none, verbose, .validate source⟩
    ∧ source.input.filter (fun path => !Path.isDash path) = none
    ∧ (Client.mk (withNames default source)).reader = r

/-- An option with its value behind an equals sign is taken with this value. -/
theorem readOptions_word {flags : List Flag} {s : Settings} (flag : Flag) (value : String)
    {arg : String} (harg : arg.toList = '-' :: '-' :: (flag.word.toList ++ '=' :: value.toList))
    (hflag : flags.find? (fun f => f.word.toList == flag.word.toList) = some flag)
    (hvalue : flag.hasValue = true) (rest : List String) :
    readOptions flags [] s (arg :: rest)
      = match s.take flag value with
        | .ok s => readOptions flags [] s rest
        | .error stop => .error stop := by
  have hcut : Text.cutAt? (· == '=') (flag.word.toList ++ '=' :: value.toList)
      = some (flag.word.toList, value.toList) := by
    have hword : ∀ c ∈ flag.word.toList, (c == '=') = false := by cases flag <;> decide
    exact Text.cutAt?_append hword (by decide) _
  have hread : readWord flags s (flag.word.toList ++ '=' :: value.toList)
      = .nothing <$> s.take flag value := by
    simp [readWord, hcut, hflag, hvalue]
  have hargument : readArgument flags s rest.isEmpty arg = .nothing <$> s.take flag value := by
    have hne : flag.word.toList ++ '=' :: value.toList ≠ [] := by simp
    obtain ⟨c, cs, hcs⟩ := List.exists_cons_of_ne_nil hne
    rw [hcs] at harg hread
    rw [readArgument, harg]
    exact hread
  rw [readOptions.eq_def]
  simp only [List.contains_nil, Bool.false_eq_true, if_false, hargument]
  cases s.take flag value <;> rfl

/-- With an option for each name, any reader can be asked for. -/
theorem validatesInput_names (r : Ddl.Reader) :
    ValidatesInput ["validate", "--database=" ++ r.database, "--schema=" ++ r.schema] r := by
  let options := ["--database=" ++ r.database, "--schema=" ++ r.schema]
  have hoptions : readOptions (commandFlags "validate") [] [] options
      = .ok ([(.database, r.database), (.schema, r.schema)], none) := by
    rw [readOptions_word .database r.database (by simp [Flag.word]) rfl rfl]
    show readOptions (commandFlags "validate") [] [(.database, r.database)] _ = _
    rw [readOptions_word .schema r.schema (by simp [Flag.word]) rfl rfl]
    rfl
  have hcommand : readOptions mainFlags commandWords [] ("validate" :: options)
      = .ok ([], some ("validate", options)) := by
    rw [readOptions.eq_def]
    exact if_pos (by decide)
  refine ⟨false, ⟨none, some r.database, some r.schema⟩, ?_, rfl, rfl⟩
  rw [parse, hcommand]
  show (readOptions (commandFlags "validate") [] [] options >>= _) = _
  rw [hoptions]
  rfl

/-- Without a configuration file nothing is done before the command. -/
theorem runInvocation_default {m : Type → Type} [Monad m] [LawfulMonad m] [Host m] (verbose : Bool)
    (command : Command) :
    (runInvocation ⟨none, verbose, command⟩ : ExceptT Failure m Bool)
      = runCommand default command := by
  have hlog : (logging default verbose).file = none := by cases verbose <;> rfl
  simp only [runInvocation, pure_bind, hlog]

/-- A database that is read from the standard input uses it up and does nothing else. -/
theorem readDatabase_input {client : Client} {input : Option String} {scene : Scene} {db : Database}
    (hinput : input.filter (fun path => !Path.isDash path) = none)
    (hread : client.reader.bytes scene.input = .ok db) :
    (readDatabase (m := StateM Scene) client input).run.run scene
      = (.ok db, { scene with input := ByteArray.empty }) := by
  simp only [readDatabase, hinput, Host.readInput, bind_pure_comp, ExceptT.lift_bind, bind_assoc,
    ExceptT.run_bind_lift, bind_map_left, StateT.run_bind, StateT.run_get, StateT.run_set,
    pure_bind, hread, ExceptT.run_pure, StateT.run_pure]
  rfl

/-- The command that validates the standard input writes what validation finds, or that the database
is valid. -/
theorem run_validate {args : List String} {r : Ddl.Reader} (hargs : ValidatesInput args r)
    {scene : Scene} {db : Database} (hread : r.bytes scene.input = .ok db) :
    (run args : StateM Scene Nat).run scene
      = if db.validate.isValid then
          (0, { scene with
            input := ByteArray.empty
            output := scene.output ++ s!"Database {db.name} is valid.\n" })
        else (1, { scene with
          input := ByteArray.empty
          output := scene.output ++ issueLines db.validate }) := by
  obtain ⟨verbose, source, hparse, hinput, rfl⟩ := hargs
  have hdb := readDatabase_input hinput hread
  have hcommand : (runCommand (m := StateM Scene) default (.validate source)).run.run scene
      = if db.validate.isValid then
          (.ok true, { scene with
            input := ByteArray.empty
            output := scene.output ++ s!"Database {db.name} is valid.\n" })
        else (.ok false, { scene with
          input := ByteArray.empty
          output := scene.output ++ issueLines db.validate }) := by
    simp only [runCommand, ExceptT.run_bind, StateT.run_bind, hdb]
    show StateT.run (ExceptT.run (if db.validate.isValid = true then _ else _)) _ = _
    split <;> rfl
  simp only [run, hparse, runInvocation_default, StateT.run_bind, hcommand]
  split <;> rfl

end Cli

namespace Ddl.Reader

end Ddl.Reader

end Schemata
