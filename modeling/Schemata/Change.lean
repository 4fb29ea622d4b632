import Schemata.Statement

/-! # Changes

One step on the way from a database to another: what is changed, and where. -/

namespace Schemata

/-- The place of a table. -/
structure TableRef where
  /-- The database that the table is in, or is to be in. -/
  database : String
  /-- The schema of the table. -/
  schema : String
  /-- The name of the table. -/
  table : String
  deriving DecidableEq, Repr

/-- The parts of a place with dots between them. -/
def TableRef.text (r : TableRef) : String := r.database ++ "." ++ r.schema ++ "." ++ r.table

/-- What is changed about a table. -/
inductive ChangeAction where
  /-- The table comes into being. -/
  | tableCreated (table : Table)
  /-- The table goes, with the contents that it had. -/
  | tableDropped (table : Table)
  /-- The table gets a primary key. -/
  | primaryKeyAdded (columns : List String)
  /-- The table loses its primary key. -/
  | primaryKeyDropped
  /-- The table gets a shard key, in the place of any that it had. -/
  | shardKeyAdded (key : ShardKey)
  /-- The table loses its shard key. -/
  | shardKeyDropped
  /-- The table gets a foreign key. -/
  | foreignKeyAdded (key : ForeignKey)
  /-- The table loses the foreign key of a given name. -/
  | foreignKeyDropped (key : String)
  /-- The table gets a relationship. -/
  | relationshipAdded (relationship : Relationship)
  /-- The table loses the relationship of a given name. -/
  | relationshipDropped (relationship : String)
  /-- The table gets a column. -/
  | columnAdded (column : Column)
  /-- The table loses a column. -/
  | columnDropped (column : Column)
  /-- A column of the table gets another type. -/
  | columnModified (column : Column)
  deriving DecidableEq

/-- The wording of a change. -/
def ChangeAction.label : ChangeAction → String
  | .tableCreated _ => "Table Created"
  | .tableDropped _ => "Table Dropped"
  | .primaryKeyAdded _ => "Primary Key Added"
  | .primaryKeyDropped => "Primary Key Dropped"
  | .shardKeyAdded _ => "Shard Key Added"
  | .shardKeyDropped => "Shard Key Dropped"
  | .foreignKeyAdded _ => "Foreign Key Added"
  | .foreignKeyDropped _ => "Foreign Key Dropped"
  | .relationshipAdded _ => "Relationship Added"
  | .relationshipDropped _ => "Relationship Dropped"
  | .columnAdded _ => "Column Added"
  | .columnDropped _ => "Column Dropped"
  | .columnModified _ => "Column Modified"

/-- A change to a table. -/
structure Change where
  /-- The table. -/
  target : TableRef
  /-- What is changed. -/
  action : ChangeAction
  deriving DecidableEq

namespace Change

/-- A change as a line of output. -/
def text (c : Change) : String := c.target.text ++ ": " ++ c.action.label

/-- The statement that makes a change. A table is created where its own schema says; every other
statement speaks of the target. -/
def statement (c : Change) : Statement :=
  let alter := Statement.alterTable c.target.schema c.target.table
  match c.action with
  | .tableCreated table => .createTable table
  | .tableDropped _ => .dropTable c.target.schema c.target.table
  | .primaryKeyAdded columns => alter (.addPrimaryKey columns)
  | .primaryKeyDropped => alter .dropPrimaryKey
  | .shardKeyAdded key => alter (.addShardKey key)
  | .shardKeyDropped => alter .dropShardKey
  | .foreignKeyAdded key => alter (.addForeignKey key)
  | .relationshipAdded relationship => alter (.addRelationship relationship)
  | .foreignKeyDropped constraint | .relationshipDropped constraint =>
      alter (.dropConstraint constraint)
  | .columnAdded column => alter (.addColumn column)
  | .columnDropped column => alter (.dropColumn column.name)
  | .columnModified column => alter (.modifyColumn column)

end Change

/-- The text of the statements that make changes, in order. -/
def Writer.changes (w : Writer) (list : List Change) : String :=
  w.statements (list.map Change.statement)

end Schemata
