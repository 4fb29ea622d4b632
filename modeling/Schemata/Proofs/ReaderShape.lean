import Mathlib.Data.List.Induction
import Schemata.Ddl.Reader
import Schemata.Proofs.Translation
import Schemata.Proofs.WellFormed

/-! # What a reader makes of a text

Whatever the text, a reader with a name for the database makes one. Its tables are those that the
statements create, each name once and at its first place, with the table of its last statement. They
have columns of known kinds and nothing else, and all of them are in the schema of the reader. -/

namespace Schemata

/-! ## Catalogs that are filled one by one -/

namespace Catalog

variable {α : Type} [Named α]

/-- One thing more is inserted last. -/
theorem insertAll_concat (c : Catalog α) (xs : List α) (x : α) :
    c.insertAll (xs ++ [x]) = (c.insertAll xs).insert x := by
  simp [insertAll]

/-- The names of a catalog that has been filled: each at its first place. -/
theorem names_insertAll_empty (xs : List α) :
    (empty.insertAll xs).names = (xs.map Named.name).eraseDups := by
  induction xs using List.reverseRecOn with
  | nil => rfl
  | append_singleton xs x ih =>
      rw [insertAll_concat, names_insert, ih, List.map_append, List.eraseDups_append]
      by_cases hx : Named.name x ∈ xs.map Named.name <;>
        simp [hx, List.removeAll, List.eraseDups_cons, -List.mem_map]

/-- What is found in a catalog that has been filled: the last thing of the name. -/
theorem get?_insertAll_empty (xs : List α) (key : String) :
    (empty.insertAll xs).get? key = (xs.filter fun x => Named.name x == key).getLast? := by
  induction xs using List.reverseRecOn with
  | nil => rfl
  | append_singleton xs x ih =>
      rw [insertAll_concat, get?_insert, ih, List.filter_append, List.getLast?_append]
      by_cases hx : Named.name x = key <;> simp [hx]

/-- What holds of the members of a catalog and of other things holds after these are inserted. -/
theorem forall_mem_insertAll {c : Catalog α} {xs : List α} {p : α → Prop}
    (h : ∀ y ∈ c.toList, p y) (hxs : ∀ x ∈ xs, p x) : ∀ y ∈ (c.insertAll xs).toList, p y := by
  induction xs generalizing c with
  | nil => exact h
  | cons x xs ih =>
      exact ih (forall_mem_insert h (hxs x List.mem_cons_self)) fun y hy =>
        hxs y (List.mem_cons_of_mem _ hy)

/-- Where one thing is filled in instead of another of its name, every look-up has the same result,
or the thing itself. -/
theorem get?_insertAll_replace (c : Catalog α) (front back : List α) {x y : α}
    (h : Named.name y = Named.name x) (key : String) :
    (c.insertAll (front ++ y :: back)).get? key = (c.insertAll (front ++ x :: back)).get? key
      ∨ key = Named.name y ∧ (c.insertAll (front ++ y :: back)).get? key = some y := by
  induction back using List.reverseRecOn with
  | nil =>
      rw [insertAll_concat, insertAll_concat, get?_insert, get?_insert, h]
      by_cases hkey : Named.name x = key <;> simp [hkey]
  | append_singleton back b ih =>
      rw [← List.cons_append, ← List.cons_append, ← List.append_assoc, ← List.append_assoc,
        insertAll_concat, insertAll_concat, get?_insert, get?_insert]
      by_cases hb : Named.name b = key
      · simp [hb]
      · simpa [hb] using ih

end Catalog

/-! ## Databases that are filled one by one -/

namespace Database

/-- Tables that are added keep the tally in step. -/
theorem Tallied.foldl_addTable {db : Database} (h : db.Tallied) (tables : List Table) :
    (tables.foldl Database.addTable db).Tallied := by
  induction tables generalizing db with
  | nil => exact h
  | cons t tables ih => exact ih (h.addTable t)

/-- A database whose tables are all in one schema has this schema, or none without a table. -/
theorem Tallied.schemaNames_eq {db : Database} (h : db.Tallied) {schema : String}
    (hschema : ∀ t ∈ db.tables.toList, t.schema = schema) :
    db.schemaNames = if db.tables.toList = [] then [] else [schema] := by
  have hnames : ∀ s, s ∈ db.schemaNames ↔ s = schema ∧ db.tables.toList ≠ [] := by
    intro s
    rw [h.mem_schemaNames_iff]
    constructor
    · rintro ⟨t, ht, rfl⟩
      exact ⟨hschema t ht, List.ne_nil_of_mem ht⟩
    · rintro ⟨rfl, hne⟩
      obtain ⟨t, ht⟩ := List.exists_mem_of_ne_nil _ hne
      exact ⟨t, ht, hschema t ht⟩
  split
  · rename_i hnil
    exact List.eq_nil_iff_forall_not_mem.2 fun s hs => ((hnames s).1 hs).2 hnil
  · rename_i hne
    have hall : ∀ s ∈ db.schemaNames, s = schema := fun s hs => ((hnames s).1 hs).1
    have hnodup : db.schemaNames.Nodup := h.proper.nodup
    have hmem : schema ∈ db.schemaNames := (hnames schema).2 ⟨rfl, hne⟩
    obtain ⟨first, rest, hcons⟩ := List.exists_cons_of_ne_nil (List.ne_nil_of_mem hmem)
    rw [hcons] at hall hnodup ⊢
    obtain ⟨rfl, hrest⟩ := List.forall_mem_cons.1 hall
    have hnone : rest = [] := List.eq_nil_iff_forall_not_mem.2 fun s hs =>
      (List.nodup_cons.1 hnodup).1 (hrest s hs ▸ hs)
    rw [hnone]

end Database

/-- A type is no reason to refuse a column: its text always names it. -/
theorem Column.make_text (name : String) (type : ColumnType) :
    Column.make name type.text = Column.ofType name type := by
  rw [make, ColumnType.ofText?_text]
  rfl

namespace Ddl

/-! ## Columns and tables that are read -/

/-- A field declares a column with the translated type, unless its name is blank. -/
theorem column?_eq (field : List Char) :
    column? field = if Text.isBlank (String.ofList (splitColumn field).1) then none
      else some ⟨String.ofList (splitColumn field).1, translate (splitColumn field).2⟩ := by
  simp only [column?, Column.ofType, requireText]
  split <;> rfl

/-- A column that is read has a name, and a type that types are translated to. -/
theorem of_column?_eq_some {field : List Char} {c : Column} (h : column? field = some c) :
    Text.isBlank c.name = false ∧ IsTarget c.type := by
  rw [column?_eq] at h
  split at h
  · cases h
  · rename_i hname
    cases h
    exact ⟨Bool.eq_false_iff.2 hname, isTarget_translate _⟩

namespace Reader

/-- What a table that a reader makes is like: it is in the schema of the reader, its columns have
names and translated types, and it has nothing else. -/
structure Makes (r : Reader) (t : Table) : Prop where
  /-- The table has a name. -/
  name : Text.isBlank t.name = false
  /-- The table is in the schema of the reader. -/
  schema : t.schema = r.schema
  /-- There is no primary key. -/
  primaryKey : t.primaryKey = []
  /-- There is no shard key. -/
  shardKey : t.shardKey = none
  /-- There are no foreign keys. -/
  foreignKeys : t.foreignKeys = .empty
  /-- There are no relationships. -/
  relationships : t.relationships = .empty
  /-- The columns have names, and types that types are translated to. -/
  columns : ∀ c ∈ t.columns.toList, Text.isBlank c.name = false ∧ IsTarget c.type

/-- What is read from a statement: a table with the columns between its outer parentheses, if the
words before them name one and if the schema has a name. -/
theorem exists_of_table?_eq_some {r : Reader} {statement : List Char} {t : Table}
    (h : r.table? statement = some t) :
    ∃ words after name, Text.cutAt? (· == '(') (quoteBrackets statement) = some (words, after)
      ∧ tableName? words = some name
      ∧ Text.isBlank (String.ofList name) = false ∧ Text.isBlank r.schema = false
      ∧ t = Table.addColumns ⟨String.ofList name, r.schema, [], none, .empty, .empty, .empty⟩
        (Ddl.columns ((Text.beforeLast? (· == ')') after).getD [])) := by
  simp only [table?, Option.bind_eq_bind, Option.bind_eq_some_iff] at h
  obtain ⟨⟨words, after⟩, hcut, name, hname, bare, hbare, heq⟩ := h
  cases heq
  have made : Table.inSchema (String.ofList name) r.schema = .ok bare := by
    cases hmade : Table.inSchema (String.ofList name) r.schema with
    | error e =>
        rw [hmade] at hbare
        cases hbare
    | ok t =>
        rw [hmade] at hbare
        cases hbare
        rfl
  obtain ⟨hnamed, hschema, rfl⟩ := (Table.inSchema_eq_ok_iff _ _ _).1 made
  exact ⟨words, after, name, hcut, hname, hnamed, hschema, rfl⟩

/-- What is read from a statement is what the reader makes, and the schema has a name then. -/
theorem makes_of_table? {r : Reader} {statement : List Char} {t : Table}
    (h : r.table? statement = some t) : Text.isBlank r.schema = false ∧ r.Makes t := by
  obtain ⟨words, after, name, -, -, hname, hschema, rfl⟩ := exists_of_table?_eq_some h
  refine ⟨hschema, hname, rfl, rfl, rfl, rfl, rfl, ?_⟩
  refine Catalog.forall_mem_insertAll (by simp) fun c hc => ?_
  obtain ⟨field, -, hfield⟩ := List.mem_filterMap.1 hc
  exact of_column?_eq_some hfield

/-! ## The database that is read -/

/-- The tables that the statements among some lines create, one for each that creates one. -/
def tables (r : Reader) (lines : List (List Char)) : List Table :=
  (statements lines).filterMap r.table?

/-- What the database is like that a reader makes of some lines. -/
structure Reads (r : Reader) (lines : List (List Char)) (db : Database) : Prop where
  /-- The database has the name that the reader has for it. -/
  name : db.name = r.database
  /-- The tables stand where the first statements of their names do. -/
  tableNames : db.tableNames = ((r.tables lines).map Table.name).eraseDups
  /-- A table is that of the last statement of its name. -/
  table? : ∀ table, db.table? table
    = ((r.tables lines).filter fun t => t.name == table).getLast?
  /-- The tables are as the reader makes them. -/
  makes : ∀ t ∈ db.tables.toList, r.Makes t
  /-- The schema of the reader is the only one, if there is a table. -/
  schemaNames : db.schemaNames = if db.tables.toList = [] then [] else [r.schema]
  /-- A reader without a name for the schema makes no table. -/
  unnamed : Text.isBlank r.schema = true → db.tables.toList = []

/-- The tables of the database are among those that the statements create. -/
theorem Reads.mem_tables {r : Reader} {lines : List (List Char)} {db : Database}
    (h : r.Reads lines db) {t : Table} (ht : t ∈ db.tables.toList) : t ∈ r.tables lines := by
  have hfound : db.table? t.name = some t := Catalog.get?_of_mem ht
  rw [h.table?] at hfound
  exact (List.mem_filter.1 (List.mem_of_getLast? hfound)).1

/-- The name of a database is all that a reader may be refused for. -/
theorem lines_eq (r : Reader) (lines : List (List Char)) :
    r.lines lines = if Text.isBlank r.database then .error (.blank .databaseName)
      else .ok ((r.tables lines).foldl Database.addTable ⟨r.database, .empty, .empty⟩) := by
  simp only [Reader.lines, Database.make, requireText]
  split <;> rfl

/-- What is read is as the reader makes it. -/
theorem reads_lines (r : Reader) (lines : List (List Char)) :
    r.Reads lines ((r.tables lines).foldl Database.addTable ⟨r.database, .empty, .empty⟩) := by
  let empty : Database := ⟨r.database, .empty, .empty⟩
  have htables := Database.tables_foldl_addTable empty (r.tables lines)
  have htallied : empty.Tallied :=
    ⟨SchemaTally.proper_empty, fun schema => by simp [empty, SchemaTally.count, SchemaTally.empty]⟩
  have hmade : ∀ t ∈ r.tables lines, Text.isBlank r.schema = false ∧ r.Makes t := by
    intro t ht
    obtain ⟨statement, -, hstatement⟩ := List.mem_filterMap.1 ht
    exact makes_of_table? hstatement
  have hmakes : ∀ t ∈ ((r.tables lines).foldl Database.addTable empty).tables.toList,
      Text.isBlank r.schema = false ∧ r.Makes t := by
    rw [htables]
    exact Catalog.forall_mem_insertAll (by simp [empty]) hmade
  exact {
    name := Database.name_foldl_addTable empty (r.tables lines)
    tableNames := (congrArg Catalog.names htables).trans (Catalog.names_insertAll_empty _)
    table? := fun table => (congrArg (Catalog.get? · table) htables).trans
      (Catalog.get?_insertAll_empty _ table)
    makes := fun t ht => (hmakes t ht).2
    schemaNames := (htallied.foldl_addTable _).schemaNames_eq fun t ht => (hmakes t ht).2.schema
    unnamed := fun hblank => List.eq_nil_iff_forall_not_mem.2 fun t ht =>
      Bool.false_ne_true ((hmakes t ht).1.symm.trans hblank) }

/-- A reader with a name for the database makes one of whatever lines. -/
theorem exists_lines_eq_ok {r : Reader} (hname : Text.isBlank r.database = false)
    (lines : List (List Char)) : ∃ db, r.lines lines = .ok db ∧ r.Reads lines db := by
  refine ⟨_, ?_, r.reads_lines lines⟩
  rw [lines_eq, hname]
  rfl

/-- **Reading makes a database of any text.** A reader with a name for the database makes one of
whatever lines: its tables are those that statements create, each name at its first place and with
its last table, all in the schema of the reader and with columns of translated types only. A field
is passed over only if it declares a key or has no name. A reader without a name is refused. -/
theorem lines_shape (r : Reader) (lines : List (List Char)) :
    (Text.isBlank r.database = false → ∃ db, r.lines lines = .ok db ∧ r.Reads lines db)
      ∧ (Text.isBlank r.database = true → ∃ e, r.lines lines = .error e
        ∧ e = .blank .databaseName ∧ e.label = "Invalid argument")
      ∧ ∀ field, (column? field = none ↔ Text.isBlank (String.ofList (splitColumn field).1) = true)
        ∧ column? field = (Column.make (String.ofList (splitColumn field).1)
          (translate (splitColumn field).2).text).toOption := by
  refine ⟨fun hname => exists_lines_eq_ok hname lines, fun hname => ?_, fun field => ⟨?_, ?_⟩⟩
  · refine ⟨_, ?_, rfl, rfl⟩
    rw [lines_eq, hname]
    rfl
  · rw [column?_eq]
    split <;> simp [*]
  · rw [Column.make_text]
    rfl

/-- The second statement names no table, and the last one replaces the first. -/
theorem lines_shape_shop :
    let r : Reader := ⟨"shop", "sales"⟩
    let lines := ["create table b (i number(12, 0), primary key (i))".toList,
      "create table [] (i int)".toList, "create table dbo.a (\"\" int, j jsonb, k".toList,
      "varchar(30) not null) create table [b] (d datetime)".toList]
    Text.isBlank r.database = false
      ∧ ∃ db, r.lines lines = .ok db ∧ r.Reads lines db ∧ db.tableNames = ["b", "a"]
        ∧ (db.table? "b").map (fun t => t.columns.toList) = some [⟨"d", .datetime⟩]
        ∧ (db.table? "a").map (fun t => t.columns.toList)
          = some [⟨"j", .unknown⟩, ⟨"k", .ofLength 30⟩]
        ∧ db.schemaNames = ["sales"] := by
  intro r lines
  have hname : Text.isBlank r.database = false := by decide
  obtain ⟨db, hlines, hreads⟩ := (lines_shape r lines).1 hname
  let table (name : String) (columns : List Column) : Table :=
    ⟨name, "sales", [], none, Catalog.empty.insertAll columns, .empty, .empty⟩
  have htables : r.tables lines = [table "b" [⟨"i", .bigint⟩],
      table "a" [⟨"j", .unknown⟩, ⟨"k", .ofLength 30⟩], table "b" [⟨"d", .datetime⟩]] := by
    decide +kernel
  have hnames : db.tableNames = ["b", "a"] := by
    rw [hreads.tableNames, htables]
    decide
  have hne : db.tables.toList ≠ [] := fun hnil => by
    simp [Database.tableNames, Catalog.names, hnil] at hnames
  refine ⟨hname, db, hlines, hreads, hnames, ?_, ?_, ?_⟩
  · rw [hreads.table?, htables]
    rfl
  · rw [hreads.table?, htables]
    rfl
  · rw [hreads.schemaNames, if_neg hne]

end Reader

end Ddl

end Schemata
