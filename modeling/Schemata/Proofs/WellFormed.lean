import Schemata.Proofs.History
import Schemata.Proofs.Tally
import Schemata.Validation

/-! # Well-formed databases

What every database with a history is like. Everything is kept under its own name, once, and no name
is blank; the tally names the schemas of the tables and counts the tables of each; and the parts of
tables have kept what their makers checked. Each edit of a table and each operation on a database
keeps this, so it holds after any number of them. -/

namespace Schemata

variable {α : Type} [Named α]

/-! ## Catalogs -/

/-- Every member of a catalog is found under its own name, no name is there twice, and none is
blank. -/
structure Catalog.Keyed (c : Catalog α) : Prop where
  /-- No name is there twice. -/
  nodup : c.names.Nodup
  /-- Every member is found under its own name. -/
  found : ∀ x ∈ c.toList, c.get? (name x) = some x
  /-- No name is blank. -/
  named : ∀ x ∈ c.toList, Text.isBlank (name x) = false

namespace Catalog

/-- A catalog finds its members under their names by itself, so only blank names are to be ruled
out. -/
theorem keyed_of_named {c : Catalog α} (h : ∀ x ∈ c.toList, Text.isBlank (name x) = false) :
    c.Keyed where
  nodup := c.nodup
  found _ hx := (c.get?_eq_some_iff _ _).2 ⟨hx, rfl⟩
  named := h

/-- The empty catalog has no name to be blank. -/
theorem keyed_empty : (empty : Catalog α).Keyed := keyed_of_named (by simp)

/-- What holds of the members of a catalog and of one thing more holds after this is inserted. -/
theorem forall_mem_insert {c : Catalog α} {x : α} {p : α → Prop} (h : ∀ y ∈ c.toList, p y)
    (hx : p x) : ∀ y ∈ (c.insert x).toList, p y := by
  intro y hy
  rw [toList_insert, mem_putNamed x c.nodup] at hy
  rcases hy with rfl | ⟨hy, -⟩
  · exact hx
  · exact h y hy

/-- What holds of the members of a catalog holds after an erasure. -/
theorem forall_mem_erase {c : Catalog α} {p : α → Prop} (h : ∀ y ∈ c.toList, p y) (key : String) :
    ∀ y ∈ (c.erase key).toList, p y :=
  fun y hy => h y (List.mem_filter.1 hy).1

/-- A thing with a name may be inserted. -/
theorem Keyed.insert {c : Catalog α} (h : c.Keyed) {x : α} (hx : Text.isBlank (name x) = false) :
    (c.insert x).Keyed :=
  keyed_of_named (forall_mem_insert h.named hx)

/-- A member may be erased. -/
theorem Keyed.erase {c : Catalog α} (h : c.Keyed) (key : String) : (c.erase key).Keyed :=
  keyed_of_named (forall_mem_erase h.named key)

end Catalog

/-! ## Tables -/

/-- The parts of a table are as their makers have checked them. -/
structure Table.WellFormed (t : Table) : Prop where
  /-- The table has a name. -/
  name : Text.isBlank t.name = false
  /-- The schema has a name. -/
  schema : Text.isBlank t.schema = false
  /-- The columns stand under their names. -/
  columns : t.columns.Keyed
  /-- The text of the type of a column names a type. -/
  types : ∀ c ∈ t.columns.toList, (ColumnType.ofText? c.type.text).isSome = true
  /-- A shard key has a column and a shard. -/
  shardKey : ∀ key, t.shardKey = some key → key.columns ≠ [] ∧ 0 < key.shards
  /-- The foreign keys stand under their names. -/
  foreignKeys : t.foreignKeys.Keyed
  /-- A foreign key has as many columns on the one side as on the other, at least one. -/
  even : ∀ key ∈ t.foreignKeys.toList,
    key.sourceKeys.length = key.targetKeys.length ∧ key.sourceKeys ≠ []
  /-- The relationships stand under their names. -/
  relationships : t.relationships.Keyed

namespace Table

/-- A table without columns or keys is well formed. -/
theorem wellFormed_of_inSchema {name schema : String} {t : Table}
    (made : inSchema name schema = .ok t) : t.WellFormed := by
  obtain ⟨hname, hschema, rfl⟩ := (inSchema_eq_ok_iff _ _ _).1 made
  exact {
    name := hname
    schema := hschema
    columns := Catalog.keyed_empty
    types := by simp
    shardKey := by simp
    foreignKeys := Catalog.keyed_empty
    even := by simp
    relationships := Catalog.keyed_empty }

/-- Every edit keeps a table well formed. -/
theorem WellFormed.edit {t t' : Table} (h : t.WellFormed) (edit : t.Edit t') : t'.WellFormed := by
  cases edit with
  | addColumn made =>
      obtain ⟨hname, known, -, rfl⟩ := (Column.make_eq_ok_iff _ _ _).1 made
      have hknown : (ColumnType.ofText? known.text).isSome = true := by
        rw [ColumnType.ofText?_text]
        rfl
      exact { h with
        columns := h.columns.insert hname
        types := Catalog.forall_mem_insert h.types hknown }
  | dropColumn column =>
      exact { h with
        columns := h.columns.erase column
        types := Catalog.forall_mem_erase h.types column }
  | setPrimaryKey set =>
      obtain ⟨-, rfl⟩ := (setPrimaryKey_eq_ok_iff _ _ _).1 set
      exact { h with }
  | setShardKey made =>
      obtain ⟨-, hcolumns, hshards, rfl⟩ := (ShardKey.make_eq_ok_iff _ _ _).1 made
      refine { h with shardKey := ?_ }
      rintro _ ⟨⟩
      exact ⟨hcolumns, hshards⟩
  | clearShardKey => exact { h with shardKey := by simp [clearShardKey] }
  | addForeignKey made =>
      obtain ⟨hname, heven⟩ := ForeignKey.of_make_eq_ok made
      exact { h with
        foreignKeys := h.foreignKeys.insert hname
        even := Catalog.forall_mem_insert h.even heven }
  | dropForeignKey key =>
      exact { h with
        foreignKeys := h.foreignKeys.erase key
        even := Catalog.forall_mem_erase h.even key }
  | addRelationship made =>
      exact { h with
        relationships := h.relationships.insert (Relationship.of_make_eq_ok made) }
  | dropRelationship relationship =>
      exact { h with relationships := h.relationships.erase relationship }

/-- A table that edits build is well formed. -/
theorem Built.wellFormed {t : Table} (h : t.Built) : t.WellFormed := by
  induction h with
  | inSchema made => exact wellFormed_of_inSchema made
  | edit _ edit ih => exact ih.edit edit

/-- A pair of columns is not reported for the number of columns. -/
theorem unevenKeys_not_mem_linkFaults (t target : Table) (k : ForeignKey) (link : String × String)
    (key : String) : Fault.unevenKeys key ∉ t.linkFaults k target link := by
  intro hfault
  simp only [linkFaults, List.mem_append, Fault.mem_when] at hfault
  rcases hfault with ((⟨-, hne⟩ | ⟨-, hne⟩) | ⟨-, hne⟩) | hfault
  · cases hne
  · cases hne
  · cases hne
  · split at hfault
    · cases (Fault.mem_when.1 hfault).2
    · cases hfault

/-- A foreign key whose table is there is reported for the number of its columns exactly when it has
more on one side than on the other. -/
theorem unevenKeys_mem_foreignKeyFaults_iff (t target : Table) (k : ForeignKey) (key : String) :
    Fault.unevenKeys key ∈ t.foreignKeyFaults k target
      ↔ k.sourceKeys.length ≠ k.targetKeys.length ∧ key = k.name := by
  simp [foreignKeyFaults, unevenKeys_not_mem_linkFaults]

/-- A foreign key of a well-formed table is never reported for the number of its columns. -/
theorem WellFormed.unevenKeys_not_mem {db : Database} {t : Table} (h : t.WellFormed)
    (key : String) : Fault.unevenKeys key ∉ db.tableFaults t := by
  intro hfault
  simp only [Database.tableFaults, List.mem_append] at hfault
  rcases hfault with (((hfault | hfault) | hfault) | hfault) | hfault
  · simp [typeFaults] at hfault
  · simp [primaryKeyFaults] at hfault
  · unfold shardKeyFaults at hfault
    split at hfault
    · cases hfault
    · simp at hfault
  · -- Only the check of a foreign key compares the two numbers, and they are equal.
    obtain ⟨k, hk, hfault⟩ := List.mem_flatMap.1 hfault
    split at hfault
    · exact ((unevenKeys_mem_foreignKeyFaults_iff _ _ _ _).1 hfault).1 (h.even k hk).1
    · cases List.mem_singleton.1 hfault
  · simp [Database.relationshipFaults] at hfault

end Table

/-! ## Databases -/

/-- A database keeps its tables, and the tally of their schemas, in order. -/
structure Database.WellFormed (db : Database) : Prop where
  /-- The tables stand under their names. -/
  tables : db.tables.Keyed
  /-- Every table is well formed. -/
  wellFormed : ∀ t ∈ db.tables.toList, t.WellFormed
  /-- No schema is there twice. -/
  schemasNodup : db.schemaNames.Nodup
  /-- The schemas that are there are those of the tables. -/
  schemas : ∀ schema, schema ∈ db.schemaNames ↔ ∃ t ∈ db.tables.toList, t.schema = schema
  /-- What is counted for a schema is positive, and it is the number of its tables. -/
  counts : ∀ schema n, (schema, n) ∈ db.schemas.entries
    ↔ 0 < n ∧ db.tables.toList.countP (inSchema schema) = n
  /-- A table that goes, or that another one replaces after this has been counted, leaves a schema
  with a positive count. -/
  release : ∀ table old, db.table? table = some old →
    0 < db.schemas.count old.schema ∧ ∀ schema, 0 < (db.schemas.add schema).count old.schema
  /-- No foreign key is reported for the number of its columns. -/
  even : ∀ t ∈ db.tables.toList, ∀ key, Fault.unevenKeys key ∉ db.tableFaults t

namespace Database

/-- The tally of a database with a history is in step with its tables. -/
theorem Built.tallied {db : Database} (h : db.Built) : db.Tallied := by
  induction h with
  | make made =>
      obtain ⟨name, -, heq⟩ := (bind_eq_ok_iff _ _ _).1 made
      cases heq
      exact ⟨SchemaTally.proper_empty, fun schema => by simp [SchemaTally.count, SchemaTally.empty]⟩
  | addTable _ _ ih => exact ih.addTable _
  | dropTable table _ ih => exact ih.dropTable table
  | editTable _ _ _ ih => exact ih.editTable _ _

/-- A database with a history is well formed. -/
theorem Built.wellFormed {db : Database} (h : db.Built) : db.WellFormed := by
  have hfound : ∀ t ∈ db.tables.toList, db.table? t.name = some t := fun t ht =>
    Catalog.get?_of_mem ht
  have htable : ∀ t ∈ db.tables.toList, t.WellFormed := fun t ht =>
    (h.table (hfound t ht)).wellFormed
  exact {
    tables := Catalog.keyed_of_named fun t ht => (htable t ht).name
    wellFormed := htable
    schemasNodup := h.tallied.proper.nodup
    schemas := h.tallied.mem_schemaNames_iff
    counts := fun schema n => by
      rw [h.tallied.proper.mem_entries_iff, h.tallied.count_eq]
    release := fun table old found => by
      have hpos := h.tallied.count_pos found
      refine ⟨hpos, fun schema => ?_⟩
      rw [SchemaTally.count_add]
      omega
    even := fun t ht => (htable t ht).unevenKeys_not_mem }

end Database

end Schemata
