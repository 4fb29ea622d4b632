import Schemata.Column
import Schemata.ForeignKey
import Schemata.Relationship

/-! # Tables

A table has a name, a schema, an ordered primary key, an optional shard key, and catalogs of
columns, foreign keys and relationships. The order of columns is part of the physical layout. -/

namespace Schemata

/-- The schema of a table that is given none. -/
def defaultSchema : String := "falcon_default_schema"

/-- A table of a database. -/
structure Table where
  /-- The name of the table. -/
  name : String
  /-- The schema that the table is in. -/
  schema : String
  /-- The columns of the primary key, in order; empty when there is none. -/
  primaryKey : List String
  /-- How the rows are spread over shards, if they are. -/
  shardKey : Option ShardKey
  /-- The columns. -/
  columns : Catalog Column
  /-- The foreign keys. -/
  foreignKeys : Catalog ForeignKey
  /-- The relationships. -/
  relationships : Catalog Relationship
  deriving DecidableEq, Inhabited

instance : Named Table := ⟨Table.name⟩

/-- A table goes under its name. -/
@[simp] theorem Table.named_eq (x : Table) : Named.name x = x.name := rfl

namespace Table

/-- A table of a schema, without columns or keys. The name is checked before the schema. -/
def inSchema (name schema : String) : Except Error Table := do
  let name ← requireText .tableName name
  let schema ← requireText .schemaName schema
  return {
    name, schema
    primaryKey := []
    shardKey := none
    columns := .empty
    foreignKeys := .empty
    relationships := .empty }

/-- A table without columns or keys in the default schema. -/
def make (name : String) : Except Error Table := inSchema name defaultSchema

/-- An empty table is made exactly of a name and of a schema that are not blank. -/
theorem inSchema_eq_ok_iff (name schema : String) (t : Table) :
    inSchema name schema = .ok t ↔ Text.isBlank name = false ∧ Text.isBlank schema = false
      ∧ t = ⟨name, schema, [], none, .empty, .empty, .empty⟩ := by
  simp only [inSchema, bind_eq_ok_iff, requireText_eq_ok_iff]
  constructor
  · rintro ⟨_, ⟨hname, rfl⟩, _, ⟨hschema, rfl⟩, heq⟩
    exact ⟨hname, hschema, (Except.ok.inj heq).symm⟩
  · rintro ⟨hname, hschema, rfl⟩
    exact ⟨_, ⟨hname, rfl⟩, _, ⟨hschema, rfl⟩, rfl⟩

/-! ## Columns -/

/-- Add a column, or replace the column of that name in place. -/
def addColumn (t : Table) (c : Column) : Table := { t with columns := t.columns.insert c }

/-- Add columns one after the other. -/
def addColumns (t : Table) (cs : List Column) : Table :=
  { t with columns := t.columns.insertAll cs }

/-- Remove a column. -/
def dropColumn (t : Table) (column : String) : Table :=
  { t with columns := t.columns.erase column }

/-- Remove a column and answer with it, if it was there. -/
def takeColumn (t : Table) (column : String) : Option Column × Table :=
  (t.columns.get? column, t.dropColumn column)

/-- The names of the columns, in order. -/
def columnNames (t : Table) : List String := t.columns.names

/-! ## Keys -/

/-- Replace the primary key. A list without columns removes it. -/
def setPrimaryKey (t : Table) (key : KeyColumns) : Except Error Table := do
  return { t with primaryKey := ← key.checked .primaryKeyColumn }

/-- A primary key is accepted exactly when none of its columns is blank. -/
theorem setPrimaryKey_eq_ok_iff (t t' : Table) (key : KeyColumns) :
    t.setPrimaryKey key = .ok t'
      ↔ (∀ column ∈ key.toList, Text.isBlank column = false)
        ∧ t' = { t with primaryKey := key.toList } := by
  simp only [setPrimaryKey, KeyColumns.checked, bind_eq_ok_iff, requireTexts_eq_ok_iff]
  constructor
  · rintro ⟨columns, ⟨hall, rfl⟩, heq⟩
    exact ⟨hall, (Except.ok.inj heq).symm⟩
  · rintro ⟨hall, rfl⟩
    exact ⟨_, ⟨hall, rfl⟩, rfl⟩

/-- Replace the shard key. -/
def setShardKey (t : Table) (key : ShardKey) : Table := { t with shardKey := some key }

/-- Remove the shard key. -/
def clearShardKey (t : Table) : Table := { t with shardKey := none }

/-! ## Foreign keys and relationships -/

/-- Add a foreign key, or replace the foreign key of that name in place. -/
def addForeignKey (t : Table) (k : ForeignKey) : Table :=
  { t with foreignKeys := t.foreignKeys.insert k }

/-- Add a foreign key whose constrained columns are in this table. -/
def referTo (t : Table) (sourceKeys : KeyColumns) (target : String) (targetKeys : KeyColumns)
    (name? : Option String) : Except Error Table := do
  return t.addForeignKey (← ForeignKey.make t.name sourceKeys target targetKeys name?)

/-- Remove a foreign key. -/
def dropForeignKey (t : Table) (key : String) : Table :=
  { t with foreignKeys := t.foreignKeys.erase key }

/-- Remove a foreign key and answer with it, if it was there. -/
def takeForeignKey (t : Table) (key : String) : Option ForeignKey × Table :=
  (t.foreignKeys.get? key, t.dropForeignKey key)

/-- Add a relationship, or replace the relationship of that name in place. -/
def addRelationship (t : Table) (r : Relationship) : Table :=
  { t with relationships := t.relationships.insert r }

/-- Add a relationship that starts from this table. -/
def relateTo (t : Table) (target condition : String) (name? : Option String) :
    Except Error Table := do
  return t.addRelationship (← Relationship.make t.name target condition name?)

/-- Remove a relationship. -/
def dropRelationship (t : Table) (relationship : String) : Table :=
  { t with relationships := t.relationships.erase relationship }

/-- Remove a relationship and answer with it, if it was there. -/
def takeRelationship (t : Table) (relationship : String) : Option Relationship × Table :=
  (t.relationships.get? relationship, t.dropRelationship relationship)

/-! ## Sameness -/

/-- Whether two tables agree up to the order inside their catalogs and the order of columns inside
their foreign keys. Primary and shard keys agree in order too. -/
def same (a b : Table) : Bool :=
  a.name == b.name && a.schema == b.schema && a.primaryKey == b.primaryKey
    && a.shardKey == b.shardKey && a.columns.sameBy (· == ·) b.columns
    && a.foreignKeys.sameBy ForeignKey.same b.foreignKeys
    && a.relationships.sameBy (· == ·) b.relationships

end Table

end Schemata
