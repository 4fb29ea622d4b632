import Schemata.Validation

/-! # What a valid database is like

A table is coherent in its database when its keys name columns that it has, its foreign keys refer
to whole primary keys, column by column of matching types, and its relationships lead from it to
tables that are there. This is said here without a word on how it is checked. Validation reports
nothing exactly when every table is coherent and knows the types of its columns, and it reports
nothing worse than a warning exactly when every table is coherent. -/

namespace Schemata

/-! ## Coherence -/

/-- Two column types match: both hold text, of whatever lengths, or neither does and they are
equal. -/
def ColumnType.Matches (a b : ColumnType) : Prop :=
  (a.isVarchar = true ∧ b.isVarchar = true)
    ∨ (a.isVarchar = false ∧ b.isVarchar = false ∧ a = b)

/-- No column of a table has a type without a counterpart. -/
def Table.TypesKnown (t : Table) : Prop := ∀ c ∈ t.columns.toList, c.type ≠ .unknown

/-- A column of a table may refer to a column of another: this one is in the primary key there, both
are there, and their types match. -/
structure Table.MayRefer (t target : Table) (source column : String) : Prop where
  /-- The column referred to is in the primary key of its table. -/
  inKey : column ∈ target.primaryKey
  /-- Both columns are there, and their types match. -/
  columns : ∃ a b, t.columns.get? source = some a ∧ target.columns.get? column = some b
    ∧ a.type.Matches b.type

/-- A foreign key of a table fits the table that it refers to. -/
structure ForeignKey.Fits (key : ForeignKey) (t target : Table) : Prop where
  /-- As many columns are constrained as are referred to. -/
  even : key.sourceKeys.length = key.targetKeys.length
  /-- As many columns are referred to as the primary key has. -/
  whole : key.targetKeys.length = target.primaryKey.length
  /-- Columns in the same position may refer to one another. -/
  mayRefer : ∀ (i : Nat) (source column : String), key.sourceKeys[i]? = some source →
    key.targetKeys[i]? = some column → t.MayRefer target source column

/-- A table is coherent in a database. -/
structure Database.Coherent (db : Database) (t : Table) : Prop where
  /-- The columns of the primary key are columns of the table. -/
  primaryKey : ∀ column ∈ t.primaryKey, column ∈ t.columnNames
  /-- The columns of the shard key are columns of the table, and are in the primary key if there is
  one. -/
  shardKey : ∀ key, t.shardKey = some key → ∀ column ∈ key.columns,
    column ∈ t.columnNames ∧ (t.primaryKey ≠ [] → column ∈ t.primaryKey)
  /-- The foreign keys refer to tables that are there, and fit these. -/
  foreignKeys : ∀ key ∈ t.foreignKeys.toList,
    ∃ target, db.table? key.target = some target ∧ key.Fits t target
  /-- The relationships start from the table and lead to tables that are there. -/
  relationships : ∀ r ∈ t.relationships.toList, r.source = t.name ∧ r.target ∈ db.tableNames

/-- A foreign key that fits constrains columns of its table. -/
theorem ForeignKey.Fits.source_mem {key : ForeignKey} {t target : Table} (h : key.Fits t target) :
    ∀ column ∈ key.sourceKeys, column ∈ t.columnNames := by
  intro column hcolumn
  obtain ⟨i, hi, hsource⟩ := List.mem_iff_getElem.1 hcolumn
  have hi' : i < key.targetKeys.length := h.even ▸ hi
  have htarget : key.targetKeys[i]? = some key.targetKeys[i] := List.getElem?_eq_getElem hi'
  obtain ⟨a, -, ha, -⟩ := (h.mayRefer i column _ (List.getElem?_eq_some_iff.2 ⟨hi, hsource⟩)
    htarget).columns
  exact Catalog.mem_names_of_get? ha

/-- Every column that a foreign key that fits refers to is joined to one that may refer to it. -/
theorem ForeignKey.Fits.exists_link {key : ForeignKey} {t target : Table} (h : key.Fits t target)
    {column : String} (hcolumn : column ∈ key.targetKeys) :
    ∃ source, (source, column) ∈ key.links ∧ t.MayRefer target source column := by
  obtain ⟨i, hi⟩ := List.mem_iff_getElem?.1 hcolumn
  have hi' : i < key.sourceKeys.length := h.even ▸ (List.getElem?_eq_some_iff.1 hi).1
  have hsource : key.sourceKeys[i]? = some key.sourceKeys[i] := List.getElem?_eq_getElem hi'
  have hlink : key.links[i]? = some (key.sourceKeys[i], column) :=
    List.getElem?_zip_eq_some.2 ⟨hsource, hi⟩
  exact ⟨_, List.mem_of_getElem? hlink, h.mayRefer i _ column hsource hi⟩

/-- A foreign key that fits refers to columns of the other table. -/
theorem ForeignKey.Fits.target_mem {key : ForeignKey} {t target : Table} (h : key.Fits t target) :
    ∀ column ∈ key.targetKeys, column ∈ target.columnNames := by
  intro column hcolumn
  obtain ⟨source, -, hrefer⟩ := h.exists_link hcolumn
  obtain ⟨-, b, -, hb, -⟩ := hrefer.columns
  exact Catalog.mem_names_of_get? hb

/-! ## The faults of a table -/

/-- A condition that does not hold gives no fault. -/
@[simp] theorem Fault.when_eq_nil_iff {condition : Bool} {fault : Fault} :
    Fault.when condition fault = [] ↔ condition = false := by
  cases condition <;> simp [Fault.when]

/-- Types are comparable exactly when they match. -/
theorem ColumnType.comparable_iff (a b : ColumnType) : a.comparable b = true ↔ a.Matches b := by
  cases ha : a.isVarchar <;> cases hb : b.isVarchar <;> simp [comparable, Matches, ha, hb]

/-- What holds of the pairs of columns that a foreign key joins holds position by position. -/
theorem ForeignKey.forall_mem_links_iff (key : ForeignKey) (p : String → String → Prop) :
    (∀ link ∈ key.links, p link.1 link.2)
      ↔ ∀ (i : Nat) (source column : String), key.sourceKeys[i]? = some source →
        key.targetKeys[i]? = some column → p source column := by
  constructor
  · intro h i source column hsource hcolumn
    have hlink : key.links[i]? = some (source, column) :=
      List.getElem?_zip_eq_some.2 ⟨hsource, hcolumn⟩
    exact h _ (List.mem_of_getElem? hlink)
  · intro h link hlink
    obtain ⟨i, hi⟩ := List.mem_iff_getElem?.1 hlink
    obtain ⟨hsource, hcolumn⟩ := List.getElem?_zip_eq_some.1 hi
    exact h i _ _ hsource hcolumn

namespace Table

variable (t target : Table)

/-- The column types have no fault exactly when all of them are known. -/
theorem typeFaults_eq_nil_iff : t.typeFaults = [] ↔ t.TypesKnown := by
  simp [typeFaults, TypesKnown, List.flatMap_eq_nil_iff]

/-- The primary key has no fault exactly when the table has its columns. -/
theorem primaryKeyFaults_eq_nil_iff :
    t.primaryKeyFaults = [] ↔ ∀ column ∈ t.primaryKey, column ∈ t.columnNames := by
  simp [primaryKeyFaults, List.flatMap_eq_nil_iff, Catalog.contains_iff, columnNames]

/-- The shard key has no fault exactly when the table has its columns, in the primary key if it has
one. -/
theorem shardKeyFaults_eq_nil_iff :
    t.shardKeyFaults = [] ↔ ∀ key, t.shardKey = some key → ∀ column ∈ key.columns,
      column ∈ t.columnNames ∧ (t.primaryKey ≠ [] → column ∈ t.primaryKey) := by
  unfold shardKeyFaults
  split
  · simp [*]
  · rename_i key hkey
    simp [hkey, List.flatMap_eq_nil_iff, Catalog.contains_iff, columnNames]

/-- A pair of columns has no fault exactly when the first may refer to the second. -/
theorem linkFaults_eq_nil_iff (key : ForeignKey) (source column : String) :
    t.linkFaults key target (source, column) = [] ↔ t.MayRefer target source column := by
  have hsplit : t.MayRefer target source column ↔ column ∈ target.primaryKey
      ∧ ∃ a b, t.columns.get? source = some a ∧ target.columns.get? column = some b
        ∧ a.type.Matches b.type :=
    ⟨fun h => ⟨h.inKey, h.columns⟩, fun h => ⟨h.1, h.2⟩⟩
  rw [hsplit]
  -- The types are compared only where both columns are there.
  cases ha : t.columns.get? source <;> cases hb : target.columns.get? column <;>
    simp [linkFaults, ha, hb, ColumnType.comparable_iff]

/-- A foreign key whose table is there has no fault exactly when it fits this table. -/
theorem foreignKeyFaults_eq_nil_iff (key : ForeignKey) :
    t.foreignKeyFaults key target = [] ↔ key.Fits t target := by
  have hlinks : key.links.flatMap (t.linkFaults key target) = []
      ↔ ∀ (i : Nat) (source column : String), key.sourceKeys[i]? = some source →
        key.targetKeys[i]? = some column → t.MayRefer target source column := by
    rw [List.flatMap_eq_nil_iff, ← ForeignKey.forall_mem_links_iff key (t.MayRefer target)]
    simp only [Prod.forall, linkFaults_eq_nil_iff]
  simp only [foreignKeyFaults, List.append_eq_nil_iff, Fault.when_eq_nil_iff, hlinks,
    bne_eq_false_iff_eq]
  exact ⟨fun h => ⟨h.1.1, h.1.2, h.2⟩, fun h => ⟨⟨h.even, h.whole⟩, h.mayRefer⟩⟩

/-- The faults of column types weigh less than errors. -/
theorem severity_of_mem_typeFaults {fault : Fault} (h : fault ∈ t.typeFaults) :
    fault.severity = .warning := by
  simp only [typeFaults, List.mem_flatMap, Fault.mem_when] at h
  obtain ⟨c, -, -, rfl⟩ := h
  rfl

/-- The faults of a pair of columns are errors. -/
theorem severity_of_mem_linkFaults {key : ForeignKey} {link : String × String}
    {fault : Fault} (h : fault ∈ t.linkFaults key target link) : fault.severity = .error := by
  simp only [linkFaults, List.mem_append, Fault.mem_when] at h
  rcases h with ((⟨-, rfl⟩ | ⟨-, rfl⟩) | ⟨-, rfl⟩) | h
  · rfl
  · rfl
  · rfl
  · split at h
    · rw [Fault.mem_when] at h
      rw [h.2]
      rfl
    · cases h

/-- The faults of a foreign key whose table is there are errors. -/
theorem severity_of_mem_foreignKeyFaults {key : ForeignKey} {fault : Fault}
    (h : fault ∈ t.foreignKeyFaults key target) : fault.severity = .error := by
  simp only [foreignKeyFaults, List.mem_append, Fault.mem_when, List.mem_flatMap] at h
  rcases h with (⟨-, rfl⟩ | ⟨-, rfl⟩) | ⟨link, -, h⟩
  · rfl
  · rfl
  · exact severity_of_mem_linkFaults t target h

end Table

namespace Database

variable (db : Database) (t : Table)

/-- The foreign keys of a table have no fault exactly when each refers to a table that it fits. -/
theorem foreignKeyFaults_eq_nil_iff_fits :
    db.foreignKeyFaults t = [] ↔ ∀ key ∈ t.foreignKeys.toList,
      ∃ target, db.table? key.target = some target ∧ key.Fits t target := by
  rw [foreignKeyFaults, List.flatMap_eq_nil_iff]
  refine forall₂_congr fun key _ => ?_
  cases db.table? key.target <;> simp [Table.foreignKeyFaults_eq_nil_iff]

/-- The relationships of a table have no fault exactly when they start from it and lead to tables
that are there. -/
theorem relationshipFaults_eq_nil_iff :
    db.relationshipFaults t = []
      ↔ ∀ r ∈ t.relationships.toList, r.source = t.name ∧ r.target ∈ db.tableNames := by
  rw [relationshipFaults, List.flatMap_eq_nil_iff]
  refine forall₂_congr fun r _ => ?_
  rw [mem_tableNames_iff, ← Option.isSome_iff_exists]
  cases db.table? r.target <;> simp

/-- The faults of a table apart from those of its column types. -/
def structureFaults : List Fault :=
  t.primaryKeyFaults ++ t.shardKeyFaults ++ db.foreignKeyFaults t ++ db.relationshipFaults t

/-- The faults of a table are those of its column types and those of its structure. -/
theorem tableFaults_eq : db.tableFaults t = t.typeFaults ++ db.structureFaults t := by
  simp [tableFaults, structureFaults, List.append_assoc]

/-- The structure of a table has no fault exactly when the table is coherent. -/
theorem structureFaults_eq_nil_iff : db.structureFaults t = [] ↔ db.Coherent t := by
  simp only [structureFaults, List.append_eq_nil_iff, Table.primaryKeyFaults_eq_nil_iff,
    Table.shardKeyFaults_eq_nil_iff, foreignKeyFaults_eq_nil_iff_fits,
    relationshipFaults_eq_nil_iff]
  exact ⟨fun ⟨⟨⟨hpk, hsk⟩, hfk⟩, hrel⟩ => ⟨hpk, hsk, hfk, hrel⟩,
    fun h => ⟨⟨⟨h.primaryKey, h.shardKey⟩, h.foreignKeys⟩, h.relationships⟩⟩

/-- A table has no fault exactly when it knows its column types and is coherent. -/
theorem tableFaults_eq_nil_iff : db.tableFaults t = [] ↔ t.TypesKnown ∧ db.Coherent t := by
  rw [tableFaults_eq, List.append_eq_nil_iff, Table.typeFaults_eq_nil_iff,
    structureFaults_eq_nil_iff]

/-! ## The weight of faults -/

/-- The faults of foreign keys are errors. -/
theorem severity_of_mem_foreignKeyFaults {fault : Fault} (h : fault ∈ db.foreignKeyFaults t) :
    fault.severity = .error := by
  obtain ⟨key, -, h⟩ := List.mem_flatMap.1 h
  split at h
  · exact t.severity_of_mem_foreignKeyFaults _ h
  · rw [List.mem_singleton] at h
    rw [h]
    rfl

/-- The faults of the structure of a table are errors. -/
theorem severity_of_mem_structureFaults {fault : Fault} (h : fault ∈ db.structureFaults t) :
    fault.severity = .error := by
  simp only [structureFaults, List.mem_append] at h
  rcases h with ((h | h) | h) | h
  · simp only [Table.primaryKeyFaults, List.mem_flatMap, Fault.mem_when] at h
    obtain ⟨_, -, -, rfl⟩ := h
    rfl
  · unfold Table.shardKeyFaults at h
    split at h
    · cases h
    · simp only [List.mem_flatMap, List.mem_append, Fault.mem_when] at h
      obtain ⟨_, -, ⟨-, rfl⟩ | ⟨-, rfl⟩⟩ := h <;> rfl
  · exact severity_of_mem_foreignKeyFaults db t h
  · simp only [relationshipFaults, List.mem_flatMap, List.mem_append, Fault.mem_when] at h
    obtain ⟨_, -, ⟨-, rfl⟩ | ⟨-, rfl⟩⟩ := h <;> rfl

/-- No fault of a table is an error exactly when the table is coherent. -/
theorem forall_not_error_iff :
    (∀ fault ∈ db.tableFaults t, fault.severity.atLeast .error = false) ↔ db.Coherent t := by
  rw [← structureFaults_eq_nil_iff, tableFaults_eq, List.eq_nil_iff_forall_not_mem]
  constructor
  · intro h fault hfault
    have herror := h fault (List.mem_append_right _ hfault)
    rw [severity_of_mem_structureFaults db t hfault] at herror
    cases herror
  · intro h fault hfault
    -- What is left is a fault of a column type.
    have htype := (List.mem_append.1 hfault).resolve_right (h fault)
    rw [t.severity_of_mem_typeFaults htype]
    rfl

/-- A database is valid exactly when every table knows its column types and is coherent. -/
theorem isValid_validate_iff_coherent :
    db.validate.isValid = true ↔ ∀ t ∈ db.tables.toList, t.TypesKnown ∧ db.Coherent t := by
  simp only [isValid_validate_iff, tableFaults_eq_nil_iff]

/-- **Validation is sound and complete.** It reports nothing exactly when every table is coherent
and has no column of an unknown type, and it reports no error exactly when every table is
coherent. -/
theorem validate_exact :
    (db.validate.isValid = true ↔ ∀ t ∈ db.tables.toList, t.TypesKnown ∧ db.Coherent t)
      ∧ (db.validate.atLeast .error = [] ↔ ∀ t ∈ db.tables.toList, db.Coherent t) := by
  refine ⟨isValid_validate_iff_coherent db, ?_⟩
  have herrors : db.validate.atLeast .error = []
      ↔ ∀ t ∈ db.tables.toList, ∀ fault ∈ db.tableFaults t,
        fault.severity.atLeast .error = false := by
    simp only [validate, Report.atLeast, List.filter_eq_nil_iff, List.mem_flatMap, List.mem_map,
      Bool.not_eq_true]
    constructor
    · intro h t ht fault hfault
      exact h _ ⟨t, ht, fault, hfault, rfl⟩
    · rintro h _ ⟨t, ht, fault, hfault, rfl⟩
      exact h t ht fault hfault
  simp only [herrors, forall_not_error_iff]

end Database

end Schemata
