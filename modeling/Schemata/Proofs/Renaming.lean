import Mathlib.Data.List.Nodup
import Schemata.Proofs.ScriptText
import Schemata.Proofs.WellFormed

/-! # Renaming

A case style renames. The identifiers of a database are replaced, each by its cased form, and what
is left is written as it is. The statements of the renamed database are the renamed statements, as
long as names that are kept in one catalog stay apart and no schema becomes the default one; and the
text of a statement in a case style is the unchanged text of the renamed statement. -/

namespace Schemata

/-! ## Renamed parts -/

variable (f : String → String)

/-- A column under another name. -/
def Column.renamed (c : Column) : Column := { c with name := f c.name }

/-- A shard key of renamed columns. -/
def ShardKey.renamed (k : ShardKey) : ShardKey := { k with columns := k.columns.map f }

/-- A foreign key between renamed columns, under another name. The table that it starts from is not
written and stays. -/
def ForeignKey.renamed (k : ForeignKey) : ForeignKey :=
  { k with
    name := f k.name
    sourceKeys := k.sourceKeys.map f
    target := f k.target
    targetKeys := k.targetKeys.map f }

/-- A relationship to a renamed table, under another name. Its condition stays, and so does the
table that it starts from, which is not written. -/
def Relationship.renamed (r : Relationship) : Relationship :=
  { r with name := f r.name, target := f r.target }

/-- A catalog in which a change has been made to every member. -/
def Catalog.changed {α : Type} [Named α] (change : α → α) (c : Catalog α) : Catalog α :=
  .ofList (c.toList.map change)

/-- A table in which every identifier is renamed. -/
def Table.renamed (t : Table) : Table where
  name := f t.name
  schema := f t.schema
  primaryKey := t.primaryKey.map f
  shardKey := t.shardKey.map (ShardKey.renamed f)
  columns := t.columns.changed (Column.renamed f)
  foreignKeys := t.foreignKeys.changed (ForeignKey.renamed f)
  relationships := t.relationships.changed (Relationship.renamed f)

/-- A tally of renamed schemas. -/
def SchemaTally.renamed (tally : SchemaTally) : SchemaTally :=
  ⟨tally.entries.map fun entry => (f entry.1, entry.2)⟩

/-- A database in which every identifier is renamed. -/
def Database.renamed (db : Database) : Database where
  name := f db.name
  tables := db.tables.changed (Table.renamed f)
  schemas := db.schemas.renamed f

/-- An alteration in which every identifier is renamed. -/
def Alteration.renamed : Alteration → Alteration
  | .addPrimaryKey columns => .addPrimaryKey (columns.map f)
  | .dropPrimaryKey => .dropPrimaryKey
  | .addShardKey key => .addShardKey (key.renamed f)
  | .dropShardKey => .dropShardKey
  | .addForeignKey key => .addForeignKey (key.renamed f)
  | .addRelationship relationship => .addRelationship (relationship.renamed f)
  | .dropConstraint constraint => .dropConstraint (f constraint)
  | .addColumn column => .addColumn (column.renamed f)
  | .modifyColumn column => .modifyColumn (column.renamed f)
  | .dropColumn column => .dropColumn (f column)

/-- A statement in which every identifier is renamed. -/
def Statement.renamed : Statement → Statement
  | .createDatabase database => .createDatabase (f database)
  | .useDatabase database => .useDatabase (f database)
  | .createSchema schema => .createSchema (f schema)
  | .createTable table => .createTable (table.renamed f)
  | .dropTable schema table => .dropTable (f schema) (f table)
  | .alterTable schema table alteration =>
      .alterTable (f schema) (f table) (alteration.renamed f)

/-- A renamed statement is set apart as before. -/
theorem Statement.gap_renamed (s : Statement) : (s.renamed f).gap = s.gap := by
  cases s <;> rfl

variable {f}

/-! ## Names that stay apart -/

/-- Whether the members of a catalog still have different names when these are renamed. -/
def Catalog.KeptApart {α : Type} [Named α] (f : String → String) (c : Catalog α) : Prop :=
  (c.names.map f).Nodup

instance {α : Type} [Named α] (f : String → String) (c : Catalog α) : Decidable (c.KeptApart f) :=
  inferInstanceAs (Decidable (List.Nodup _))

/-- A catalog whose names stay apart keeps its members, in order, when they are renamed. -/
theorem Catalog.KeptApart.toList_changed {α : Type} [Named α] {c : Catalog α} (h : c.KeptApart f)
    {change : α → α} (hname : ∀ x, name (change x) = f (name x)) :
    (c.changed change).toList = c.toList.map change := by
  have hnames : (c.toList.map change).map name = c.names.map f := by
    rw [names, List.map_map, List.map_map]
    exact List.map_congr_left fun x _ => hname x
  have hnodup : ((empty.toList ++ c.toList.map change).map name).Nodup := by
    rw [toList_empty, List.nil_append, hnames]
    exact h
  exact toList_insertAll empty hnodup

/-- The names in a table stay apart. -/
structure Table.KeptApart (f : String → String) (t : Table) : Prop where
  /-- No two columns get one name. -/
  columns : t.columns.KeptApart f
  /-- No two foreign keys get one name. -/
  foreignKeys : t.foreignKeys.KeptApart f
  /-- No two relationships get one name. -/
  relationships : t.relationships.KeptApart f

/-- The names in a database stay apart, and so does the default schema from the other schemas. -/
structure Database.KeptApart (f : String → String) (defaultSchema : String) (db : Database) :
    Prop where
  /-- No two tables get one name. -/
  tables : db.tables.KeptApart f
  /-- The names in every table stay apart. -/
  parts : ∀ t ∈ db.tables.toList, t.KeptApart f
  /-- No other schema gets the name of the default one. -/
  others : ∀ schema ∈ db.schemaNames, schema ≠ defaultSchema → f schema ≠ defaultSchema

/-- The names of the columns of a table that a statement creates stay apart. -/
def Statement.KeptApart (f : String → String) : Statement → Prop
  | .createTable t => t.columns.KeptApart f
  | _ => True

/-! ## The text of renamed statements -/

namespace Writer

/-- The writer that leaves identifiers as they are, for the same default schema. -/
def unchanged (w : Writer) : Writer := { w with style := .unchanged }

variable (w : Writer)

/-- Without a case style, identifiers are as they are. -/
@[simp] theorem cased_unchanged (text : String) : w.unchanged.cased text = text :=
  Naming.applyCase_unchanged _ _

/-- A renamed identifier is written like the identifier in the case style. -/
@[simp] theorem ident_unchanged_cased (text : String) :
    w.unchanged.ident (w.cased text) = w.ident text := by
  rw [ident, ident, cased_unchanged]

/-- Renamed identifiers are written like the identifiers in the case style. -/
@[simp] theorem idents_unchanged_cased (names : List String) :
    w.unchanged.idents (names.map w.cased) = w.idents names := by
  have hcased : w.unchanged.cased = id := funext fun text => w.cased_unchanged text
  rw [idents, idents, hcased, List.map_id]

/-- The name of a renamed table is written like that of the table in the case style. -/
@[simp] theorem qualified_unchanged_cased (schema table : String) :
    w.unchanged.qualified (w.cased schema) (w.cased table) = w.qualified schema table := by
  rw [qualified, qualified, ident_unchanged_cased, ident_unchanged_cased]

/-- A renamed alteration is written like the alteration in the case style. -/
theorem alteration_renamed (a : Alteration) :
    w.unchanged.alteration (a.renamed w.cased) = w.alteration a := by
  unfold alteration
  cases a <;> simp only [Alteration.renamed, ShardKey.renamed, ForeignKey.renamed,
    Relationship.renamed, Column.renamed, ident_unchanged_cased, idents_unchanged_cased]

/-- The items of a renamed table are written like those of the table in the case style. -/
theorem tableItems_renamed {t : Table} (h : t.columns.KeptApart w.cased) :
    w.unchanged.tableItems (t.renamed w.cased) = w.tableItems t := by
  have hcolumns : (t.renamed w.cased).columns.toList
      = t.columns.toList.map (Column.renamed w.cased) := h.toList_changed fun _ => rfl
  have hcolumn : (fun c => w.unchanged.ident (Column.name c) ++ " " ++ c.type.text)
      ∘ Column.renamed w.cased = fun c => w.ident c.name ++ " " ++ c.type.text :=
    funext fun c => by
      simp only [Function.comp_apply, Column.renamed, ident_unchanged_cased]
  have hkey : (t.renamed w.cased).primaryKey = t.primaryKey.map w.cased := rfl
  rw [tableItems, tableItems, hcolumns, List.map_map, hcolumn, hkey, List.isEmpty_map,
    idents_unchanged_cased]

/-- A renamed shard key is written like the shard key in the case style. -/
theorem tableEnd_renamed (key? : Option ShardKey) :
    w.unchanged.tableEnd (key?.map (ShardKey.renamed w.cased)) = w.tableEnd key? := by
  cases key? <;> simp [ShardKey.renamed]

/-- A renamed statement is written like the statement in the case style. -/
theorem statement_unchanged_renamed {s : Statement} (h : s.KeptApart w.cased) :
    w.unchanged.statement (s.renamed w.cased) = w.statement s := by
  cases s with
  | createTable t =>
      -- The columns come from a catalog, which keeps them only where their names stay apart.
      have hend : (t.renamed w.cased).shardKey = t.shardKey.map (ShardKey.renamed w.cased) := rfl
      rw [Statement.renamed, statement_createTable, statement_createTable, w.tableItems_renamed h,
        hend, tableEnd_renamed]
      exact congrArg (fun text => "CREATE TABLE " ++ text ++ " (\n" ++ itemLines (w.tableItems t)
        ++ w.tableEnd t.shardKey) (w.qualified_unchanged_cased t.schema t.name)
  | alterTable schema table a =>
      rw [Statement.renamed, statement_alterTable, statement_alterTable, alteration_renamed,
        qualified_unchanged_cased]
  | _ =>
      unfold statement
      simp only [Statement.renamed, ident_unchanged_cased, qualified_unchanged_cased]

/-- The script of renamed statements is that of the statements in the case style. -/
theorem script_unchanged_renamed {list : List Statement} (h : ∀ s ∈ list, s.KeptApart w.cased) :
    w.unchanged.script (list.map (Statement.renamed w.cased)) = w.script list := by
  rw [script, script, List.map_map]
  refine congrArg String.join (List.map_congr_left fun s hs => ?_)
  rw [Function.comp_apply, Statement.gap_renamed, w.statement_unchanged_renamed (h s hs)]

end Writer

/-! ## The statements of a renamed database -/

/-- The schemas of a renamed tally. -/
theorem SchemaTally.names_renamed (f : String → String) (tally : SchemaTally) :
    (tally.renamed f).names = tally.names.map f := by
  simp [names, renamed]

namespace Database

variable {db : Database} {defaultSchema : String}

/-- The statements that open the script of a renamed database. -/
theorem openingStatements_renamed (hdefault : f defaultSchema = defaultSchema)
    (h : ∀ schema ∈ db.schemaNames, schema ≠ defaultSchema → f schema ≠ defaultSchema)
    (create : Bool) :
    (db.renamed f).openingStatements defaultSchema create
      = (db.openingStatements defaultSchema create).map (Statement.renamed f) := by
  have hothers : (db.schemaNames.map f).filter (· != defaultSchema)
      = (db.schemaNames.filter (· != defaultSchema)).map f := by
    rw [List.filter_map]
    refine congrArg (List.map f) (List.filter_congr fun schema hschema => ?_)
    -- The comparison is made before renaming on one side and after it on the other.
    by_cases hs : schema = defaultSchema
    · simp [hs, hdefault]
    · exact (bne_iff_ne.2 (h schema hschema hs)).trans (bne_iff_ne.2 hs).symm
  have hname : (db.renamed f).name = f db.name := rfl
  have hschemas : (db.renamed f).schemaNames = db.schemaNames.map f :=
    db.schemas.names_renamed f
  rw [openingStatements, openingStatements, hschemas, hothers, hname]
  cases create with
  | true => simp [Statement.renamed, Function.comp_def]
  | false => simp [Statement.renamed]

/-- The statements of the script of a renamed database are the renamed statements. -/
theorem KeptApart.script_renamed (h : db.KeptApart f defaultSchema)
    (hdefault : f defaultSchema = defaultSchema) (create : Bool) :
    (db.renamed f).script defaultSchema create
      = (db.script defaultSchema create).map (Statement.renamed f) := by
  have htables : (db.renamed f).tables.toList = db.tables.toList.map (Table.renamed f) :=
    h.tables.toList_changed fun _ => rfl
  -- Table by table, what is made of the renamed table is the renamed form of what is made of it.
  have hparts : ∀ make : Table → List Statement,
      (∀ t ∈ db.tables.toList, make (t.renamed f) = (make t).map (Statement.renamed f)) →
      (db.renamed f).tables.toList.flatMap make
        = (db.tables.toList.flatMap make).map (Statement.renamed f) := by
    intro make hmake
    rw [htables, List.flatMap_map, List.map_flatMap]
    exact List.flatMap_congr hmake
  have htable := hparts (fun t => [.dropTable t.schema t.name, .createTable t]) fun t _ => rfl
  have hkeys := hparts
    (fun t => t.foreignKeys.toList.map fun key =>
      .alterTable t.schema t.name (.addForeignKey key))
    fun t ht => by
      have hkeys : (t.renamed f).foreignKeys.toList
          = t.foreignKeys.toList.map (ForeignKey.renamed f) :=
        (h.parts t ht).foreignKeys.toList_changed fun _ => rfl
      rw [hkeys, List.map_map, List.map_map]
      rfl
  have hrelationships := hparts
    (fun t => t.relationships.toList.map fun r =>
      .alterTable t.schema t.name (.addRelationship r))
    fun t ht => by
      have hrelationships : (t.renamed f).relationships.toList
          = t.relationships.toList.map (Relationship.renamed f) :=
        (h.parts t ht).relationships.toList_changed fun _ => rfl
      rw [hrelationships, List.map_map, List.map_map]
      rfl
  rw [script, script, openingStatements_renamed hdefault h.others, tableStatements, htable,
    foreignKeyStatements, hkeys, relationshipStatements, hrelationships]
  simp only [List.map_append, tableStatements, foreignKeyStatements, relationshipStatements]

/-- The columns of the tables that the script of a database creates stay apart. -/
theorem KeptApart.of_mem_script (h : db.KeptApart f defaultSchema) {create : Bool} {s : Statement}
    (hs : s ∈ db.script defaultSchema create) : s.KeptApart f := by
  cases s with
  | createTable t =>
      have ht : t ∈ db.tables.toList := by
        cases create <;> simpa [script, openingStatements, tableStatements, foreignKeyStatements,
          relationshipStatements] using hs
      exact (h.parts t ht).columns
  | _ => trivial

end Database

/-! ## What a renamed database is like -/

namespace SchemaTally

variable {tally : SchemaTally}

/-- Renaming keeps a tally proper where schemas stay apart. -/
theorem Proper.renamed (h : tally.Proper) (hapart : (tally.names.map f).Nodup) :
    (tally.renamed f).Proper where
  nodup := by
    rw [names_renamed]
    exact hapart
  positive := List.forall_mem_map.2 h.positive

/-- A schema that is renamed in a tally is counted as before. -/
theorem Proper.count_renamed (h : tally.Proper) (hapart : (tally.names.map f).Nodup)
    {schema : String} (hschema : schema ∈ tally.names) :
    (tally.renamed f).count (f schema) = tally.count schema := by
  have hentry := (h.mem_entries_iff schema _).2 ⟨(h.mem_names_iff schema).1 hschema, rfl⟩
  have hrenamed : (f schema, tally.count schema) ∈ (tally.renamed f).entries :=
    List.mem_map.2 ⟨_, hentry, rfl⟩
  exact (((h.renamed hapart).mem_entries_iff _ _).1 hrenamed).2

end SchemaTally

/-- Renaming keeps a tally in step with the tables where tables and schemas stay apart. -/
theorem Database.Tallied.renamed {db : Database} (h : db.Tallied) (htables : db.tables.KeptApart f)
    (hschemas : (db.schemaNames.map f).Nodup) : (db.renamed f).Tallied := by
  have hlist : (db.renamed f).tables.toList = db.tables.toList.map (Table.renamed f) :=
    htables.toList_changed fun _ => rfl
  have hin : ∀ t ∈ db.tables.toList, t.schema ∈ db.schemas.names := fun t ht =>
    (h.mem_schemaNames_iff _).2 ⟨t, ht, rfl⟩
  refine ⟨h.proper.renamed hschemas, fun schema => ?_⟩
  rw [hlist, List.countP_map]
  by_cases hmem : schema ∈ (db.schemas.renamed f).names
  · rw [SchemaTally.names_renamed] at hmem
    obtain ⟨old, hold, rfl⟩ := List.mem_map.1 hmem
    refine (h.proper.count_renamed hschemas hold).trans ?_
    rw [h.count_eq]
    refine List.countP_congr fun t ht => ?_
    rw [Function.comp_apply, inSchema_eq_true_iff, inSchema_eq_true_iff]
    exact ⟨congrArg f, List.inj_on_of_nodup_map hschemas hold (hin t ht)⟩
  · refine (SchemaTally.count_eq_zero hmem).trans (eq_comm.1 (List.countP_eq_zero.2 ?_))
    intro t ht hschema
    rw [Function.comp_apply, inSchema_eq_true_iff] at hschema
    rw [SchemaTally.names_renamed, hschema] at hmem
    exact hmem (List.mem_map.2 ⟨_, hin t ht, rfl⟩)

/-- Renaming keeps a table well formed where its names stay apart and none becomes blank. -/
theorem Table.WellFormed.renamed {t : Table} (h : t.WellFormed) (hapart : t.KeptApart f)
    (hnamed : ∀ text ∈ t.identifiers, Text.isBlank (f text) = false) :
    (t.renamed f).WellFormed := by
  have hcolumns : (t.renamed f).columns.toList = t.columns.toList.map (Column.renamed f) :=
    hapart.columns.toList_changed fun _ => rfl
  have hkeys : (t.renamed f).foreignKeys.toList
      = t.foreignKeys.toList.map (ForeignKey.renamed f) :=
    hapart.foreignKeys.toList_changed fun _ => rfl
  have hrelationships : (t.renamed f).relationships.toList
      = t.relationships.toList.map (Relationship.renamed f) :=
    hapart.relationships.toList_changed fun _ => rfl
  exact {
    name := hnamed _ (by simp [identifiers])
    schema := hnamed _ (by simp [identifiers])
    columns := Catalog.keyed_of_named (by
      rw [hcolumns]
      exact List.forall_mem_map.2 fun c hc => hnamed _ (name_mem_identifiers hc))
    types := by
      rw [hcolumns]
      exact List.forall_mem_map.2 fun c hc => h.types c hc
    shardKey := by
      intro key hshard
      obtain ⟨old, hold, rfl⟩ := Option.map_eq_some_iff.1 hshard
      have hfilled := h.shardKey old hold
      exact ⟨by simpa [ShardKey.renamed] using hfilled.1, hfilled.2⟩
    foreignKeys := Catalog.keyed_of_named (by
      rw [hkeys]
      exact List.forall_mem_map.2 fun k hk =>
        hnamed _ (mem_identifiers_of_foreignKey hk (by simp [ForeignKey.identifiers])))
    even := by
      rw [hkeys]
      exact List.forall_mem_map.2 fun k hk => by
        simpa [ForeignKey.renamed] using h.even k hk
    relationships := Catalog.keyed_of_named (by
      rw [hrelationships]
      exact List.forall_mem_map.2 fun r hr =>
        hnamed _ (mem_identifiers_of_relationship hr (by simp [Relationship.identifiers]))) }

/-! ## Case styles -/

namespace Writer

/-- **A case style renames.** The script of a database in a case style is the script, without one,
of the database in which every identifier is cased, as long as names that are kept together stay
apart and no other schema becomes the default one; and the text of every statement is that of the
statement in which every identifier is cased. -/
theorem texts_eq_renamed (w : Writer) :
    (∀ db : Database, db.KeptApart w.cased w.defaultSchema → ∀ create,
      w.databaseScript db create = w.unchanged.databaseScript (db.renamed w.cased) create)
      ∧ ∀ s : Statement, s.KeptApart w.cased →
        w.statement s = w.unchanged.statement (s.renamed w.cased) := by
  refine ⟨fun db h create => ?_, fun s h => (w.statement_unchanged_renamed h).symm⟩
  have hdefault : w.cased w.defaultSchema = w.defaultSchema :=
    Naming.applyCase_defaultSchema _ _
  have hscript : (db.renamed w.cased).script w.unchanged.defaultSchema create
      = (db.script w.defaultSchema create).map (Statement.renamed w.cased) :=
    h.script_renamed hdefault create
  rw [databaseScript, databaseScript, hscript]
  exact (w.script_unchanged_renamed fun s hs => h.of_mem_script hs).symm

/-- Names in camel case, with a schema that keeps its name, and a column that is added. -/
theorem texts_eq_renamed_shop :
    let w : Writer := ⟨.camel, "raw_data"⟩
    let lines : Table := ⟨"order_lines", "raw_data", ["line_id"], some ⟨["line_id"], 4⟩,
      .ofList [⟨"line_id", .int⟩, ⟨"part_name", .date⟩], .empty,
      .ofList [⟨"line_part", "order_lines", "parts", "line_id = part_id"⟩]⟩
    let parts : Table := ⟨"parts", "own_data", [], none, .ofList [⟨"part_id", .bigint⟩],
      .ofList [⟨"part_line", "parts", ["part_id"], "order_lines", ["line_id"]⟩], .empty⟩
    let shop : Database := ⟨"web_shop", .ofList [lines, parts],
      ⟨[("raw_data", 1), ("own_data", 1)]⟩⟩
    let added : Statement := .alterTable "raw_data" "order_lines" (.addColumn ⟨"unit_price", .int⟩)
    (shop.renamed w.cased).tableNames = ["OrderLines", "Parts"]
      ∧ (shop.renamed w.cased).schemaNames = ["raw_data", "OwnData"]
      ∧ w.databaseScript shop true = w.unchanged.databaseScript (shop.renamed w.cased) true
      ∧ w.statement added
        = w.unchanged.statement (.alterTable "raw_data" "OrderLines"
          (.addColumn ⟨"UnitPrice", .int⟩)) := by
  intro w lines parts shop added
  have hparts : ∀ t ∈ [lines, parts], t.KeptApart w.cased :=
    List.forall_mem_cons.2 ⟨⟨by decide +kernel, by decide +kernel, by decide +kernel⟩,
      List.forall_mem_singleton.2 ⟨by decide +kernel, by decide +kernel, by decide +kernel⟩⟩
  have hapart : shop.KeptApart w.cased w.defaultSchema :=
    ⟨by decide +kernel, hparts, by decide +kernel⟩
  refine ⟨by decide +kernel, by decide +kernel, (texts_eq_renamed w).1 shop hapart true, ?_⟩
  have hadded : added.renamed w.cased
      = .alterTable "raw_data" "OrderLines" (.addColumn ⟨"UnitPrice", .int⟩) := by decide +kernel
  exact ((texts_eq_renamed w).2 added trivial).trans (by rw [hadded])

end Writer

end Schemata
