import Schemata.Database

/-! # Databases with a history

The databases that the operations of the library build: from an empty one, by adding, removing and
editing tables, which are built in turn from empty ones by edits with checked parts. A property that
every edit keeps holds of all tables of such a database. -/

namespace Schemata

/-- One edit of a table. Its parts have passed their checks, and where the edit makes a check of its
own, this has passed too. -/
inductive Table.Edit (t : Table) : Table → Prop where
  /-- A column is added or replaced. -/
  | addColumn {name type : String} {column : Column} (made : Column.make name type = .ok column) :
      Edit t (t.addColumn column)
  /-- A column is removed. -/
  | dropColumn (column : String) : Edit t (t.dropColumn column)
  /-- The primary key is replaced. -/
  | setPrimaryKey {key : KeyColumns} {t' : Table} (set : t.setPrimaryKey key = .ok t') : Edit t t'
  /-- The shard key is replaced. -/
  | setShardKey {columns : KeyColumns} {shards : Nat} {key : ShardKey}
      (made : ShardKey.make columns shards = .ok key) : Edit t (t.setShardKey key)
  /-- The shard key is removed. -/
  | clearShardKey : Edit t t.clearShardKey
  /-- A foreign key is added or replaced. -/
  | addForeignKey {source target : String} {sourceKeys targetKeys : KeyColumns}
      {name? : Option String} {key : ForeignKey}
      (made : ForeignKey.make source sourceKeys target targetKeys name? = .ok key) :
      Edit t (t.addForeignKey key)
  /-- A foreign key is removed. -/
  | dropForeignKey (key : String) : Edit t (t.dropForeignKey key)
  /-- A relationship is added or replaced. -/
  | addRelationship {source target condition : String} {name? : Option String}
      {relationship : Relationship}
      (made : Relationship.make source target condition name? = .ok relationship) :
      Edit t (t.addRelationship relationship)
  /-- A relationship is removed. -/
  | dropRelationship (relationship : String) : Edit t (t.dropRelationship relationship)

/-- The tables that edits build from empty ones. -/
inductive Table.Built : Table → Prop where
  /-- A table without columns or keys. -/
  | inSchema {name schema : String} {t : Table} (made : Table.inSchema name schema = .ok t) :
      Built t
  /-- A table that has been edited. -/
  | edit {t t' : Table} (built : Built t) (edit : t.Edit t') : Built t'

/-- The databases that come about by adding, removing and editing tables. -/
inductive Database.Built : Database → Prop where
  /-- A database without tables. -/
  | make {name : String} {db : Database} (made : Database.make name = .ok db) : Built db
  /-- A table is added or replaced. -/
  | addTable {db : Database} {t : Table} (built : Built db) (table : t.Built) :
      Built (db.addTable t)
  /-- A table is removed. -/
  | dropTable {db : Database} (table : String) (built : Built db) : Built (db.dropTable table)
  /-- A table is edited in place. -/
  | editTable {db : Database} {t t' : Table} (built : Built db) (found : db.table? t.name = some t)
      (edit : t.Edit t') : Built (db.editTable t.name fun _ => t')

namespace Table

/-- An edit of a table changes neither its name nor its schema. -/
theorem Edit.name_schema_eq {t t' : Table} (h : t.Edit t') :
    t'.name = t.name ∧ t'.schema = t.schema := by
  cases h with
  | setPrimaryKey set =>
      obtain ⟨-, rfl⟩ := (setPrimaryKey_eq_ok_iff _ _ _).1 set
      exact ⟨rfl, rfl⟩
  | _ => exact ⟨rfl, rfl⟩

end Table

namespace Database

/-- What an edit of a found table leaves under its name is the edited table. -/
theorem table?_editTable_of_edit {db : Database} {t t' : Table} (found : db.table? t.name = some t)
    (edit : t.Edit t') (table : String) :
    (db.editTable t.name fun _ => t').table? table
      = if t.name = table then some t' else db.table? table := by
  obtain ⟨hname, hschema⟩ := edit.name_schema_eq
  rw [table?_editTable found, ← hname, ← hschema]

/-- Every table of a database with a history is one that edits build. -/
theorem Built.table {db : Database} (h : db.Built) {table : String} {t : Table}
    (found : db.table? table = some t) : t.Built := by
  -- By induction on the history; the look-up tells which table is asked for.
  induction h generalizing table t with
  | make made =>
      obtain ⟨name, -, heq⟩ := (bind_eq_ok_iff _ _ _).1 made
      cases heq
      cases found
  | addTable _ built ih =>
      rw [table?_addTable] at found
      split at found
      · cases found
        exact built
      · exact ih found
  | dropTable gone _ ih =>
      rw [table?_dropTable] at found
      split at found
      · cases found
      · exact ih found
  | editTable _ hfound edit ih =>
      rw [table?_editTable_of_edit hfound edit] at found
      split at found
      · cases found
        exact .edit (ih hfound) edit
      · exact ih found

end Database

namespace Table

/-- No column of a primary key is blank. -/
theorem Built.primaryKey_not_blank {t : Table} (h : t.Built) :
    ∀ column ∈ t.primaryKey, Text.isBlank column = false := by
  induction h with
  | inSchema made =>
      simp only [Table.inSchema, bind_eq_ok_iff] at made
      obtain ⟨_, -, _, -, heq⟩ := made
      cases heq
      simp
  | edit _ edit ih =>
      -- Only one edit writes the primary key, and it checks what it writes.
      cases edit with
      | setPrimaryKey set =>
          obtain ⟨hall, rfl⟩ := (setPrimaryKey_eq_ok_iff _ _ _).1 set
          exact hall
      | _ => exact ih

end Table

end Schemata
