import Schemata.SchemaTally
import Schemata.Table

/-! # Databases

A database is a catalog of tables with a tally of the schemas they are in. -/

namespace Schemata

/-- A database. -/
structure Database where
  /-- The name of the database. -/
  name : String
  /-- The tables. -/
  tables : Catalog Table
  /-- The schemas of the tables, with the number of tables in each. -/
  schemas : SchemaTally
  deriving DecidableEq, Inhabited

namespace Database

/-- A database without tables. -/
def make (name : String) : Except Error Database := do
  return { name := ← requireText .databaseName name, tables := .empty, schemas := .empty }

/-- The table of a given name. -/
def table? (db : Database) (table : String) : Option Table := db.tables.get? table

/-- The names of the tables, in order. -/
def tableNames (db : Database) : List String := db.tables.names

/-- The schemas that hold a table. -/
def schemaNames (db : Database) : List String := db.schemas.names

/-- Add a table, or replace the table of that name in place. The schema of the new table is counted
before the schema of the old one is released. -/
def addTable (db : Database) (t : Table) : Database :=
  let counted := db.schemas.add t.schema
  { db with
    tables := db.tables.insert t
    schemas :=
      match db.table? t.name with
      | some old => counted.release old.schema
      | none => counted }

/-- Add a table and answer with the table of that name that it replaces, if there was one. -/
def putTable (db : Database) (t : Table) : Option Table × Database :=
  (db.table? t.name, db.addTable t)

/-- Remove a table. -/
def dropTable (db : Database) (table : String) : Database :=
  match db.table? table with
  | some old =>
      { db with tables := db.tables.erase table, schemas := db.schemas.release old.schema }
  | none => db

/-- Remove a table and answer with it, if it was there. -/
def takeTable (db : Database) (table : String) : Option Table × Database :=
  (db.table? table, db.dropTable table)

/-- Change the contents of a table in place. A table keeps its name and its schema. -/
def editTable (db : Database) (table : String) (edit : Table → Table) : Database :=
  match db.table? table with
  | some old =>
      { db with
        tables := db.tables.insert { edit old with name := old.name, schema := old.schema } }
  | none => db

/-! ## Look-ups -/

/-- A name is that of a table exactly when a table is found under it. -/
theorem mem_tableNames_iff (db : Database) (table : String) :
    table ∈ db.tableNames ↔ ∃ t, db.table? table = some t := by
  rw [tableNames, ← Catalog.contains_iff, Catalog.contains, Option.isSome_iff_exists, table?]

/-- A look-up after a table has come. -/
theorem table?_addTable (db : Database) (t : Table) (table : String) :
    (db.addTable t).table? table = if t.name = table then some t else db.table? table :=
  db.tables.get?_insert t table

/-- A look-up after a table has gone. -/
theorem table?_dropTable (db : Database) (gone table : String) :
    (db.dropTable gone).table? table = if gone = table then none else db.table? table := by
  unfold dropTable
  split
  · exact db.tables.get?_erase gone table
  · rename_i hnone
    by_cases h : gone = table
    · rw [if_pos h, ← h, hnone]
    · rw [if_neg h]

/-- A look-up after the contents of a table have changed. -/
theorem table?_editTable {db : Database} {t : Table} (h : db.table? t.name = some t)
    (edit : Table → Table) (table : String) :
    (db.editTable t.name edit).table? table
      = if t.name = table then some { edit t with name := t.name, schema := t.schema }
        else db.table? table := by
  simp only [editTable, h]
  exact db.tables.get?_insert _ table

/-! ## Tables one after the other -/

/-- The tables of a database to which tables are added. -/
theorem tables_foldl_addTable (db : Database) (tables : List Table) :
    (tables.foldl addTable db).tables = db.tables.insertAll tables := by
  induction tables generalizing db with
  | nil => rfl
  | cons t tables ih => exact ih (db.addTable t)

/-- A database keeps its name when tables are added. -/
theorem name_foldl_addTable (db : Database) (tables : List Table) :
    (tables.foldl addTable db).name = db.name := by
  induction tables generalizing db with
  | nil => rfl
  | cons t tables ih => exact ih (db.addTable t)

/-! ## Edits in place -/

/-- A table that is written back as it is leaves the database as it is. -/
theorem editTable_self {db : Database} {t : Table} (found : db.table? t.name = some t) :
    (db.editTable t.name fun _ => t) = db := by
  simp only [editTable, found]
  rw [Catalog.insert_of_get? found]

/-- Of two tables that are written in one place after each other, the second counts. -/
theorem editTable_editTable (db : Database) (table : String) (t t' : Table) :
    ((db.editTable table fun _ => t).editTable table fun _ => t')
      = db.editTable table fun _ => t' := by
  cases hfound : db.table? table with
  | none => simp only [editTable, hfound]
  | some old =>
      obtain rfl : old.name = table := Catalog.name_of_get? hfound
      have hwritten := table?_editTable hfound (fun _ => t) old.name
      rw [if_pos rfl] at hwritten
      simp only [editTable, hfound] at hwritten ⊢
      rw [hwritten]
      exact congrArg (Database.mk db.name · db.schemas) (Catalog.insert_insert _ rfl)

/-! ## Sameness -/

/-- Whether two databases agree up to the order of their tables and schemas, and the order inside
their tables. -/
def same (a b : Database) : Bool :=
  a.name == b.name && a.tables.sameBy Table.same b.tables && a.schemas.same b.schemas

end Database

end Schemata
