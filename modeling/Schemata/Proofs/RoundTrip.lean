import Schemata.Proofs.ScriptReading
import Schemata.Proofs.TableReading

/-! # Scripts are read back

A reader that is given the script of a database finds the tables and their columns again, in their
order, with every type translated. Names have to be plain and types standard, and no relationship
may speak of creating. What is written about keys, shards, foreign keys and relationships leaves no
table and no column behind. -/

namespace Schemata

open Naming Ddl

namespace Database

open Scanner

variable {db : Database}

/-- The identifiers of a table are identifiers of its database. -/
theorem isPlain_of_mem_identifiers (h : ∀ name ∈ db.identifiers, Naming.IsPlain name) {t : Table}
    (ht : t ∈ db.tables.toList) : ∀ name ∈ t.identifiers, Naming.IsPlain name := fun name hname =>
  h name (mem_identifiers ht hname)

/-- The statements of a script up to the relationships are plain. -/
theorem isPlain_of_mem_script (h : ∀ name ∈ db.identifiers, Naming.IsPlain name)
    (htypes : ∀ t ∈ db.tables.toList, ∀ c ∈ t.columns.toList, c.type.IsStandard)
    (defaultSchema : String) (create : Bool) :
    ∀ s ∈ db.openingStatements defaultSchema create ++ db.tableStatements
      ++ db.foreignKeyStatements, s.IsPlain := by
  have hdatabase : Naming.IsPlain db.name := h _ (by simp [identifiers])
  have hschemas : ∀ schema ∈ db.schemaNames, Naming.IsPlain schema := fun schema hs =>
    h _ (by simp [identifiers, hs])
  intro s hs
  rw [List.mem_append, List.mem_append] at hs
  rcases hs with (hs | hs) | hs
  · unfold openingStatements at hs
    split at hs
    · simp only [List.mem_append, List.mem_cons, List.not_mem_nil, or_false, List.mem_map] at hs
      rcases hs with (rfl | rfl) | ⟨schema, hschema, rfl⟩
      · exact hdatabase
      · exact hdatabase
      · exact hschemas schema (List.mem_filter.1 hschema).1
    · obtain rfl := List.mem_singleton.1 hs
      exact hdatabase
  · obtain ⟨t, ht, hs⟩ := List.mem_flatMap.1 hs
    have hnames := isPlain_of_mem_identifiers h ht
    have hschema : Naming.IsPlain t.schema := hnames _ (by simp [Table.identifiers])
    have htable : Naming.IsPlain t.name := hnames _ (by simp [Table.identifiers])
    simp only [List.mem_cons, List.not_mem_nil, or_false] at hs
    rcases hs with rfl | rfl
    · exact ⟨hschema, htable⟩
    · refine ⟨hschema, htable, ?_, fun k hk name hname => ?_⟩
      · exact entry_of_mem_items (fun name hn => hnames name (by simp [Table.identifiers, hn]))
          (htypes t ht) fun name hn => hnames name (by simp [Table.identifiers, hn])
      · exact hnames name (by simp [Table.identifiers, hk, hname])
  · obtain ⟨t, ht, hs⟩ := List.mem_flatMap.1 hs
    obtain ⟨key, hkey, rfl⟩ := List.mem_map.1 hs
    have hnames := isPlain_of_mem_identifiers h ht
    refine ⟨hnames _ (by simp [Table.identifiers]), hnames _ (by simp [Table.identifiers]), ?_⟩
    exact fun name hname => hnames name (Table.mem_identifiers_of_foreignKey hkey hname)

/-- Nothing is read in the relationships of a script. -/
theorem exists_reads_relationshipStatements (h : ∀ name ∈ db.identifiers, Naming.IsPlain name)
    (hharmless : ∀ t ∈ db.tables.toList, ∀ r ∈ t.relationships.toList, r.IsHarmless) :
    ∃ inBlock, start.Reads (Writer.plain.script db.relationshipStatements).toList []
      ⟨inBlock, .outside⟩ := by
  have hone : ∀ s ∈ db.relationshipStatements, ∀ inBlock, ∃ inBlock',
      Reads ⟨inBlock, .outside⟩ (s.gap ++ Writer.plain.statement s).toList []
        ⟨inBlock', .outside⟩ := by
    intro s hs inBlock
    obtain ⟨t, ht, hs⟩ := List.mem_flatMap.1 hs
    obtain ⟨r, hr, rfl⟩ := List.mem_map.1 hs
    have hnames := isPlain_of_mem_identifiers h ht
    have hmem : ∀ name ∈ r.identifiers, Naming.IsPlain name := fun name hname =>
      hnames name (Table.mem_identifiers_of_relationship hr hname)
    exact exists_reads_addRelationship (hnames _ (by simp [Table.identifiers]))
      (hnames _ (by simp [Table.identifiers])) hmem (hharmless t ht r hr) inBlock
  rw [toList_script]
  show ∃ inBlock, Reads ⟨false, .outside⟩ _ [] ⟨inBlock, .outside⟩
  -- A condition may open a block comment, which goes on into the statements behind it.
  generalize db.relationshipStatements = list at hone ⊢
  generalize false = inBlock
  induction list generalizing inBlock with
  | nil => exact ⟨inBlock, reads_nil _⟩
  | cons s list ih =>
      obtain ⟨inBlock₁, hs⟩ := hone s (by simp) inBlock
      obtain ⟨inBlock₂, hlist⟩ := ih (fun u hu => hone u (by simp [hu])) inBlock₁
      exact ⟨inBlock₂, by simpa using hs.append hlist⟩

/-- The statements that are read in the script of a database are those of its tables. -/
theorem statements_databaseScript (h : ∀ name ∈ db.identifiers, Naming.IsPlain name)
    (htypes : ∀ t ∈ db.tables.toList, ∀ c ∈ t.columns.toList, c.type.IsStandard)
    (hharmless : ∀ t ∈ db.tables.toList, ∀ r ∈ t.relationships.toList, r.IsHarmless)
    (create : Bool) :
    statements (Text.lines (Writer.plain.databaseScript db create).toList)
      = db.tables.toList.map tableStatement := by
  have hfound : (db.openingStatements Writer.plain.defaultSchema create ++ db.tableStatements
      ++ db.foreignKeyStatements).flatMap Statement.found
      = db.tables.toList.map tableStatement := by
    have hopening : (db.openingStatements Writer.plain.defaultSchema create).flatMap
        Statement.found = [] := by
      unfold openingStatements
      split
      · simp only [List.flatMap_append, List.flatMap_map]
        simp [Statement.found]
      · rfl
    have htables : db.tableStatements.flatMap Statement.found
        = db.tables.toList.map tableStatement := by
      rw [tableStatements, List.flatMap_assoc, List.map_eq_flatMap]
      rfl
    have hkeys : db.foreignKeyStatements.flatMap Statement.found = [] := by
      rw [foreignKeyStatements, List.flatMap_assoc]
      simp only [List.flatMap_map]
      simp [Statement.found]
    rw [List.flatMap_append, List.flatMap_append, hopening, htables, hkeys, List.append_nil,
      List.nil_append]
  have hplain := reads_script (isPlain_of_mem_script h htypes Writer.plain.defaultSchema create)
  obtain ⟨inBlock, hrelationships⟩ := exists_reads_relationshipStatements h hharmless
  have hall := hplain.append hrelationships
  rw [hfound, List.append_nil] at hall
  refine Reads.statements (s := ⟨inBlock, .outside⟩) ?_
  rw [Writer.databaseScript, script, Writer.script, List.map_append, String.join_append,
    String.toList_append]
  exact hall

/-- Tables that are added to a database without tables are its tables, if their names differ. -/
theorem toList_foldl_addTable {tables : List Table} (h : (tables.map Table.name).Nodup)
    (name : String) :
    (tables.foldl addTable ⟨name, .empty, .empty⟩).tables.toList = tables := by
  rw [tables_foldl_addTable]
  exact Catalog.toList_insertAll .empty h

/-- **A script is read back.** The script that the plain writer makes of a database, with or without
creating it, is read as a database with tables of the same names in the same order, each with
columns of the same names in the same order, whose types are translated. Every identifier has to be
plain and every type standard, and no relationship may speak of creating. -/
theorem read_databaseScript (r : Reader) (db : Database) (create : Bool)
    (hdatabase : Text.isBlank r.database = false) (hschema : Text.isBlank r.schema = false)
    (hnames : ∀ name ∈ db.identifiers, Naming.IsPlain name)
    (htypes : ∀ t ∈ db.tables.toList, ∀ c ∈ t.columns.toList, c.type.IsStandard)
    (hharmless : ∀ t ∈ db.tables.toList, ∀ rel ∈ t.relationships.toList, rel.IsHarmless) :
    ∃ parsed, r.text (Writer.plain.databaseScript db create) = .ok parsed
      ∧ parsed.tables.toList.map (fun t => (t.name, t.columns.toList))
        = db.tables.toList.map fun t => (t.name, t.columns.toList.map fun c =>
          ⟨c.name, translate c.type.text.toList⟩) := by
  have hread : ∀ t ∈ db.tables.toList, r.table? (tableStatement t) = some (r.outline t) := by
    intro t ht
    have hplain := isPlain_of_mem_identifiers hnames ht
    exact table?_tableStatement hschema (hplain _ (by simp [Table.identifiers]))
      (hplain _ (by simp [Table.identifiers]))
      (fun name hn => hplain name (by simp [Table.identifiers, hn])) (htypes t ht)
      fun name hn => hplain name (by simp [Table.identifiers, hn])
  -- Every statement is read as a table, so none is passed over.
  have htables : (db.tables.toList.map tableStatement).filterMap r.table?
      = db.tables.toList.map r.outline := by
    rw [List.filterMap_map, ← List.filterMap_eq_map]
    exact List.filterMap_congr hread
  have hnodup : ((db.tables.toList.map r.outline).map Table.name).Nodup := by
    rw [List.map_map]
    exact db.tables.nodup
  have hmade : Database.make r.database = .ok ⟨r.database, .empty, .empty⟩ := by
    rw [make, (requireText_eq_ok_iff _ _ _).2 ⟨hdatabase, rfl⟩]
    rfl
  refine ⟨(db.tables.toList.map r.outline).foldl addTable ⟨r.database, .empty, .empty⟩, ?_, ?_⟩
  · rw [Reader.text, Reader.lines, statements_databaseScript hnames htypes hharmless create,
      htables, hmade]
    rfl
  · rw [toList_foldl_addTable hnodup, List.map_map]
    refine List.map_congr_left fun t _ => ?_
    show ((r.outline t).name, (r.outline t).columns.toList) = _
    rw [Reader.toList_outline]
    rfl

/-- A database with every kind of item is read back, with `INT` translated to `BIGINT`. -/
theorem read_databaseScript_orders :
    let orders : Table := {
      name := "orders"
      schema := "sales"
      primaryKey := ["id"]
      shardKey := some ⟨["id"], 4⟩
      columns := (Catalog.empty.insert ⟨"id", .int⟩).insert ⟨"note", .varchar "(20)"⟩
      foreignKeys := Catalog.empty.insert ⟨"parent", "orders", ["id"], "orders", ["id"]⟩
      relationships := Catalog.empty.insert ⟨"again", "orders", "orders", "id = 1 /* --"⟩ }
    let db := (⟨"shop", .empty, .empty⟩ : Database).addTable orders
    ∃ parsed, Reader.text ⟨"depot", "public"⟩ (Writer.plain.databaseScript db true) = .ok parsed
      ∧ parsed.tables.toList.map (fun t => (t.name, t.columns.toList))
        = [("orders", [⟨"id", .bigint⟩, ⟨"note", .varchar "(20)"⟩])] := by
  intro orders db
  have hnames : ∀ name ∈ db.identifiers, Naming.IsPlain name := by decide
  have htypes : ∀ t ∈ db.tables.toList, ∀ c ∈ t.columns.toList, c.type.IsStandard := by
    intro t ht c hc
    obtain rfl : t = orders := List.mem_singleton.1 ht
    have hcolumns : c ∈ [⟨"id", .int⟩, ⟨"note", .varchar "(20)"⟩] := hc
    rw [List.mem_cons, List.mem_singleton] at hcolumns
    rcases hcolumns with rfl | rfl
    · exact trivial
    · exact .inr ⟨['2', '0'], by decide, by decide⟩
  have hharmless : ∀ t ∈ db.tables.toList, ∀ rel ∈ t.relationships.toList, rel.IsHarmless := by
    decide
  obtain ⟨parsed, hread, htables⟩ := read_databaseScript ⟨"depot", "public"⟩ db true (by decide)
    (by decide) hnames htypes hharmless
  refine ⟨parsed, hread, htables.trans ?_⟩
  decide

end Database

end Schemata
