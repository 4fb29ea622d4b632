import Schemata.Database
import Schemata.Text.Escaped

/-! # Validation

The faults that would stop a database from loading into the target engine. Validation never fails:
it lists every fault, table by table, and within a table by column types, primary key, shard key,
foreign keys and relationships. -/

namespace Schemata

/-! ## Issues and reports -/

/-- How much an issue weighs. -/
inductive Severity where
  /-- Worth knowing. -/
  | info
  /-- Suspicious. -/
  | warning
  /-- Wrong. -/
  | error
  deriving DecidableEq, Repr

namespace Severity

/-- The wording of a severity. -/
def label : Severity → String
  | .info => "Information"
  | .warning => "Warning"
  | .error => "Error"

/-- The place of a severity in their order. -/
def rank : Severity → Nat
  | .info => 0
  | .warning => 1
  | .error => 2

/-- Whether one severity weighs at least as much as another. -/
def atLeast (s least : Severity) : Bool := least.rank ≤ s.rank

end Severity

/-- Something to be told about a database. -/
structure Issue where
  /-- What is to be told. -/
  message : String
  /-- How much it weighs. -/
  severity : Severity
  deriving DecidableEq, Repr

/-- An issue as a line of output. -/
def Issue.text (i : Issue) : String := i.severity.label ++ ": " ++ i.message

/-- The issues of a database, in order. -/
structure Report where
  /-- The issues. -/
  issues : List Issue
  deriving DecidableEq, Repr

namespace Report

/-- The report without issues. -/
def empty : Report := ⟨[]⟩

/-- A report with one more issue at its end. -/
def add (r : Report) (severity : Severity) (message : String) : Report :=
  ⟨r.issues ++ [⟨message, severity⟩]⟩

/-- A database is valid when there is nothing to report, however little it weighs. -/
def isValid (r : Report) : Bool := r.issues.isEmpty

/-- A report with an issue is not valid. -/
@[simp] theorem isValid_add (r : Report) (severity : Severity) (message : String) :
    (r.add severity message).isValid = false := by
  simp [isValid, add]

/-- The issues that weigh at least as much as a given severity. -/
def atLeast (r : Report) (least : Severity) : List Issue :=
  r.issues.filter fun i => i.severity.atLeast least

end Report

/-! ## Faults -/

/-- What may be wrong with a table. -/
inductive Fault where
  /-- A column whose type has no counterpart. -/
  | unknownType (column : String)
  /-- A column of the primary key that the table does not have. -/
  | primaryKeyAbsent (column : String)
  /-- A column of the shard key that the table does not have. -/
  | shardKeyAbsent (column : String)
  /-- A column of the shard key that is not in the primary key. -/
  | shardKeyOutside (column : String) (primaryKey : List String)
  /-- A foreign key to a table that is not there. -/
  | targetTableAbsent (table key : String)
  /-- A foreign key with as many constrained columns as referred ones it has not. -/
  | unevenKeys (key : String)
  /-- A foreign key with more or fewer columns than the primary key that it refers to. -/
  | partialPrimaryKey (key : String) (primaryKey : List String)
  /-- A foreign key to a column outside the primary key of its table. -/
  | targetOutside (key column table : String)
  /-- A foreign key from a column that is not there. -/
  | sourceAbsent (key column table : String)
  /-- A foreign key to a column that is not there. -/
  | targetAbsent (key column table : String)
  /-- A foreign key between columns of types that do not match. -/
  | typesDiffer (key : String) (source : Column) (table : String) (target : Column)
  /-- A relationship that starts from another table. -/
  | sourceTableDiffers (relationship table : String)
  /-- A relationship to a table that is not there. -/
  | relatedTableAbsent (table relationship : String)
  deriving DecidableEq, Repr

namespace Fault

/-- An unknown type is suspicious; all else is wrong. -/
def severity : Fault → Severity
  | .unknownType _ => .warning
  | _ => .error

/-- The wording of a fault. -/
def message : Fault → String
  | .unknownType column => s!"column {column} is of type UNKNOWN."
  | .primaryKeyAbsent column => s!"column {column} in primary key does not exist in the table."
  | .shardKeyAbsent column => s!"column {column} in shard key does not exist in the table."
  | .shardKeyOutside column primaryKey =>
      s!"column {column} in shard key not in primary key " ++ Text.escapedList primaryKey
  | .targetTableAbsent table key => s!"table {table} doesn't exist for foreign key {key}"
  | .unevenKeys key => s!"FK {key} doesn't have the matching column count from and to keys"
  | .partialPrimaryKey key primaryKey =>
      s!"FK {key} doesn't match number of columns in primary key " ++ Text.escapedList primaryKey
  | .targetOutside key column table =>
      s!"foreign key {key} column {column} isn't in primary key for {table}"
  | .sourceAbsent key column table =>
      s!"foreign key {key} missing from_column {column} from table {table}"
  | .targetAbsent key column table =>
      s!"foreign key {key} missing to_column {column} from table {table}"
  | .typesDiffer key source table target =>
      s!"foreign key {key} column {source.name} type {source.type.text} doesn't match type "
        ++ s!"{target.type.text} for {table} column {target.name}"
  | .sourceTableDiffers relationship table =>
      s!"relationship {relationship} from table {table} doesn't match table"
  | .relatedTableAbsent table relationship =>
      s!"table {table} doesn't exist for relationship {relationship}"

end Fault

/-- A fault if a condition holds. -/
def Fault.when (condition : Bool) (fault : Fault) : List Fault := if condition then [fault] else []

/-- A fault is among those of a condition exactly when it is that fault and the condition holds. -/
@[simp] theorem Fault.mem_when {condition : Bool} {fault other : Fault} :
    other ∈ Fault.when condition fault ↔ condition = true ∧ other = fault := by
  cases condition <;> simp [Fault.when]

/-- Whether values of two column types can be compared: two texts can, whatever their lengths, and
otherwise the types must be equal. -/
def ColumnType.comparable (a b : ColumnType) : Bool :=
  if a.isVarchar || b.isVarchar then a.isVarchar && b.isVarchar else a == b

namespace Table

/-- The faults of the column types. -/
def typeFaults (t : Table) : List Fault :=
  t.columns.toList.flatMap fun c => Fault.when (c.type == .unknown) (.unknownType c.name)

/-- The faults of the primary key. -/
def primaryKeyFaults (t : Table) : List Fault :=
  t.primaryKey.flatMap fun column =>
    Fault.when (!t.columns.contains column) (.primaryKeyAbsent column)

/-- The faults of the shard key. -/
def shardKeyFaults (t : Table) : List Fault :=
  match t.shardKey with
  | none => []
  | some key =>
      key.columns.flatMap fun column =>
        Fault.when (!t.columns.contains column) (.shardKeyAbsent column)
          ++ Fault.when (!t.primaryKey.isEmpty && !t.primaryKey.contains column)
            (.shardKeyOutside column t.primaryKey)

/-- The faults of one pair of columns that a foreign key joins. -/
def linkFaults (t : Table) (key : ForeignKey) (target : Table) (link : String × String) :
    List Fault :=
  let source? := t.columns.get? link.1
  let target? := target.columns.get? link.2
  Fault.when (!target.primaryKey.contains link.2) (.targetOutside key.name link.2 target.name)
    ++ Fault.when source?.isNone (.sourceAbsent key.name link.1 t.name)
    ++ Fault.when target?.isNone (.targetAbsent key.name link.2 target.name)
    ++ match source?, target? with
      | some a, some b =>
          Fault.when (!a.type.comparable b.type) (.typesDiffer key.name a target.name b)
      | _, _ => []

/-- The faults of a foreign key whose table is there. -/
def foreignKeyFaults (t : Table) (key : ForeignKey) (target : Table) : List Fault :=
  Fault.when (key.sourceKeys.length != key.targetKeys.length) (.unevenKeys key.name)
    ++ Fault.when (key.targetKeys.length != target.primaryKey.length)
      (.partialPrimaryKey key.name target.primaryKey)
    ++ key.links.flatMap (t.linkFaults key target)

end Table

namespace Database

/-- The faults of the foreign keys of a table. -/
def foreignKeyFaults (db : Database) (t : Table) : List Fault :=
  t.foreignKeys.toList.flatMap fun key =>
    match db.table? key.target with
    | some target => t.foreignKeyFaults key target
    | none => [.targetTableAbsent key.target key.name]

/-- The faults of the relationships of a table. -/
def relationshipFaults (db : Database) (t : Table) : List Fault :=
  t.relationships.toList.flatMap fun r =>
    Fault.when (r.source != t.name) (.sourceTableDiffers r.name r.source)
      ++ Fault.when (db.table? r.target).isNone (.relatedTableAbsent r.target r.name)

/-- The faults of a table. -/
def tableFaults (db : Database) (t : Table) : List Fault :=
  t.typeFaults ++ t.primaryKeyFaults ++ t.shardKeyFaults ++ db.foreignKeyFaults t
    ++ db.relationshipFaults t

/-- The issue that tells of a fault of a table. -/
def issue (db : Database) (t : Table) (fault : Fault) : Issue where
  message := s!"database {db.name}, table {t.name}:  " ++ fault.message
  severity := fault.severity

/-- The report on a database. -/
def validate (db : Database) : Report :=
  ⟨db.tables.toList.flatMap fun t => (db.tableFaults t).map (db.issue t)⟩

/-- A database is valid exactly when no table of it has a fault. -/
theorem isValid_validate_iff (db : Database) :
    db.validate.isValid = true ↔ ∀ t ∈ db.tables.toList, db.tableFaults t = [] := by
  simp [validate, Report.isValid]

end Database

end Schemata
