import Schemata.Statement

/-! # Scripts

The statements that build a database from nothing: the database and its schemas, every table dropped
and created, then all foreign keys, then all relationships. -/

namespace Schemata

namespace Database

/-- The statements that set the stage for the tables: with `create`, the database is created before
it is used, and its schemas after. -/
def openingStatements (db : Database) (defaultSchema : String) (create : Bool) : List Statement :=
  if create then
    [.createDatabase db.name, .useDatabase db.name]
      ++ (db.schemaNames.filter (· != defaultSchema)).map .createSchema
  else [.useDatabase db.name]

/-- The statements that create the tables, each dropped before. -/
def tableStatements (db : Database) : List Statement :=
  db.tables.toList.flatMap fun t => [.dropTable t.schema t.name, .createTable t]

/-- The statements that add the foreign keys, table by table. -/
def foreignKeyStatements (db : Database) : List Statement :=
  db.tables.toList.flatMap fun t =>
    t.foreignKeys.toList.map fun key => .alterTable t.schema t.name (.addForeignKey key)

/-- The statements that add the relationships, table by table. -/
def relationshipStatements (db : Database) : List Statement :=
  db.tables.toList.flatMap fun t =>
    t.relationships.toList.map fun r => .alterTable t.schema t.name (.addRelationship r)

/-- The statements that build a database. -/
def script (db : Database) (defaultSchema : String) (create : Bool) : List Statement :=
  db.openingStatements defaultSchema create ++ db.tableStatements ++ db.foreignKeyStatements
    ++ db.relationshipStatements

end Database

/-- The blank line that sets a statement about a whole table apart in a script. -/
def Statement.gap : Statement → String
  | .dropTable .. | .createTable _ => "\n"
  | _ => ""

/-- Before a statement stands nothing or a blank line. -/
theorem Statement.gap_eq (s : Statement) : s.gap = "" ∨ s.gap = "\n" := by
  cases s with
  | createTable | dropTable => exact .inr rfl
  | _ => exact .inl rfl

/-- The text of a script. -/
def Writer.script (w : Writer) (list : List Statement) : String :=
  String.join (list.map fun s => s.gap ++ w.statement s)

/-- The script that builds a database. -/
def Writer.databaseScript (w : Writer) (db : Database) (create : Bool) : String :=
  w.script (db.script w.defaultSchema create)

end Schemata
