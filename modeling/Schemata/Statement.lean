import Schemata.Database
import Schemata.Naming

/-! # Statements

Statements of the target language as data, and their text. A writer fixes the case style of
identifiers and the schema whose name is exempt from it. Every statement ends with a semicolon and a
line feed, and every identifier is quoted. -/

namespace Schemata

/-- What an `ALTER TABLE` does to its table. -/
inductive Alteration where
  /-- Give the table a primary key. -/
  | addPrimaryKey (columns : List String)
  /-- Take the primary key away. -/
  | dropPrimaryKey
  /-- Spread the rows of the table over shards. -/
  | addShardKey (key : ShardKey)
  /-- Keep the rows of the table together. -/
  | dropShardKey
  /-- Add a foreign key. -/
  | addForeignKey (key : ForeignKey)
  /-- Add a relationship. -/
  | addRelationship (relationship : Relationship)
  /-- Remove the foreign key or the relationship of a given name. -/
  | dropConstraint (constraint : String)
  /-- Add a column, filled with a default value of its type. -/
  | addColumn (column : Column)
  /-- Change the type of a column. -/
  | modifyColumn (column : Column)
  /-- Remove a column. -/
  | dropColumn (column : String)
  deriving DecidableEq

/-- A statement of the target language. -/
inductive Statement where
  /-- Create a database. -/
  | createDatabase (database : String)
  /-- Make a database the current one. -/
  | useDatabase (database : String)
  /-- Create a schema. -/
  | createSchema (schema : String)
  /-- Create a table with its columns, primary key and shard key. -/
  | createTable (table : Table)
  /-- Remove a table. -/
  | dropTable (schema table : String)
  /-- Change a table. -/
  | alterTable (schema table : String) (alteration : Alteration)
  deriving DecidableEq

/-- How identifiers are written. -/
structure Writer where
  /-- The case style of identifiers. -/
  style : CaseStyle
  /-- The schema whose name is exempt from the case style. -/
  defaultSchema : String
  deriving DecidableEq, Repr, Inhabited

namespace Writer

/-- The writer that leaves identifiers as they are. -/
def plain : Writer := ⟨.unchanged, Schemata.defaultSchema⟩

/-- An identifier as it is written, without quotes. -/
def cased (w : Writer) (text : String) : String := Naming.applyCase w.style w.defaultSchema text

/-- An identifier. -/
def ident (w : Writer) (text : String) : String := Naming.quote (w.cased text)

/-- A list of identifiers. -/
def idents (w : Writer) (names : List String) : String := Naming.quoteList (names.map w.cased)

/-- The name of a table with its schema before it. -/
def qualified (w : Writer) (schema table : String) : String :=
  w.ident schema ++ "." ++ w.ident table

/-- The value that a new column holds in rows that are already there. -/
def fillValue (type : ColumnType) : String := if type.isVarchar then "''" else "0"

/-- The text of an alteration. -/
def alteration (w : Writer) : Alteration → String
  | .addPrimaryKey columns => "ADD CONSTRAINT PRIMARY KEY (" ++ w.idents columns ++ ")"
  | .dropPrimaryKey => "DROP CONSTRAINT PRIMARY KEY"
  | .addShardKey key =>
      "SET FACT PARTITION BY HASH (" ++ toString key.shards ++ ") KEY (" ++ w.idents key.columns
        ++ ")"
  | .dropShardKey => "SET DIMENSIONS"
  | .addForeignKey key =>
      "ADD CONSTRAINT " ++ w.ident key.name ++ " FOREIGN KEY (" ++ w.idents key.sourceKeys
        ++ ") REFERENCES " ++ w.ident key.target ++ " (" ++ w.idents key.targetKeys ++ ")"
  | .addRelationship relationship =>
      "ADD RELATIONSHIP " ++ w.ident relationship.name ++ " WITH " ++ w.ident relationship.target
        ++ " AS " ++ relationship.condition
  | .dropConstraint constraint => "DROP CONSTRAINT " ++ w.ident constraint
  | .addColumn column =>
      "ADD COLUMN " ++ w.ident column.name ++ " " ++ column.type.text ++ " DEFAULT "
        ++ fillValue column.type
  | .modifyColumn column => "MODIFY COLUMN " ++ w.ident column.name ++ " " ++ column.type.text
  | .dropColumn column => "DROP COLUMN " ++ w.ident column

/-- The items between the parentheses of a `CREATE TABLE`: the columns, then the primary key if
there is one. -/
def tableItems (w : Writer) (t : Table) : List String :=
  (t.columns.toList.map fun column => w.ident column.name ++ " " ++ column.type.text)
    ++ if t.primaryKey.isEmpty then []
      else ["CONSTRAINT PRIMARY KEY (" ++ w.idents t.primaryKey ++ ")"]

/-- Items one to a line; a comma leads every line but the first. -/
def itemLines : List String → String
  | [] => ""
  | first :: rest =>
      "    " ++ first ++ "\n" ++ String.join (rest.map fun item => "   ," ++ item ++ "\n")

/-- The end of a `CREATE TABLE`, with the shard key if there is one. -/
def tableEnd (w : Writer) : Option ShardKey → String
  | some key =>
      ") PARTITION BY HASH(" ++ toString key.shards ++ ") KEY(" ++ w.idents key.columns ++ ");\n"
  | none => ");\n"

/-- The end of a `CREATE TABLE` without a shard key. -/
@[simp] theorem tableEnd_none (w : Writer) : w.tableEnd none = ");\n" := rfl

/-- The end of a `CREATE TABLE` with a shard key. -/
@[simp] theorem tableEnd_some (w : Writer) (key : ShardKey) :
    w.tableEnd (some key) = ") PARTITION BY HASH(" ++ toString key.shards ++ ") KEY("
      ++ w.idents key.columns ++ ");\n" := rfl

/-- The text of a statement. -/
def statement (w : Writer) : Statement → String
  | .createDatabase database => "CREATE DATABASE " ++ w.ident database ++ ";\n"
  | .useDatabase database => "USE " ++ w.ident database ++ ";\n"
  | .createSchema schema => "CREATE SCHEMA " ++ w.ident schema ++ ";\n"
  | .createTable t =>
      "CREATE TABLE " ++ w.qualified t.schema t.name ++ " (\n" ++ itemLines (w.tableItems t)
        ++ w.tableEnd t.shardKey
  | .dropTable schema table => "DROP TABLE " ++ w.qualified schema table ++ ";\n"
  | .alterTable schema table change =>
      "ALTER TABLE " ++ w.qualified schema table ++ " " ++ w.alteration change ++ ";\n"

/-- The text of a `CREATE TABLE`. -/
theorem statement_createTable (w : Writer) (t : Table) :
    w.statement (.createTable t) = "CREATE TABLE " ++ w.qualified t.schema t.name ++ " (\n"
      ++ itemLines (w.tableItems t) ++ w.tableEnd t.shardKey := rfl

/-- The text of an `ALTER TABLE`. -/
theorem statement_alterTable (w : Writer) (schema table : String) (change : Alteration) :
    w.statement (.alterTable schema table change)
      = "ALTER TABLE " ++ w.qualified schema table ++ " " ++ w.alteration change ++ ";\n" := rfl

/-- The text of statements one after the other. -/
def statements (w : Writer) (list : List Statement) : String := String.join (list.map w.statement)

end Writer

end Schemata
