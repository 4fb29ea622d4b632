import Mathlib.Data.List.Count
import Mathlib.Data.List.Nodup
import Schemata.Proofs.Calls
import Schemata.Proofs.Coherence
import Schemata.Proofs.Loader

/-! # Loading a script

The script of a valid database loads, and what has been loaded then is the database. Tables are
created bare, one by one, and only then altered, so whatever a foreign key or a relationship leads
to is there; and an alteration leaves alone what statements about other tables can see. -/

namespace Schemata

/-! ## The tables that are loaded -/

namespace Table

/-- Alterations that add things to one catalog of a table, under new names, add all of them. -/
theorem foldlM_take? {α : Type} [Named α] (part : Part α) {alteration : α → Alteration}
    (htake : ∀ t x, take? t (alteration x) = ((part.get t).add? x).map (part.put t))
    {xs : List α} {t : Table} (h : (((part.get t).toList ++ xs).map Named.name).Nodup) :
    (xs.map alteration).foldlM take? t = some (part.put t ((part.get t).insertAll xs)) := by
  have hadd : ∀ (xs : List α) (t : Table), (xs.map alteration).foldlM take? t
      = (xs.foldlM Catalog.add? (part.get t)).map (part.put t) := by
    intro xs
    induction xs with
    | nil => exact fun t => congrArg some (part.put_get t).symm
    | cons x xs ih =>
        intro t
        rw [List.map_cons, List.foldlM_cons, List.foldlM_cons, htake]
        cases (part.get t).add? x with
        | none => rfl
        | some c =>
            show (xs.map alteration).foldlM take? (part.put t c) = _
            rw [ih, part.get_put]
            exact congrArg (xs.foldlM Catalog.add? c).map (funext (part.put_put t c))
  rw [hadd, Catalog.foldlM_add? h]
  rfl

/-- The alterations that add the foreign keys of a table, as they are said. -/
def foreignKeyAlterations (t : Table) : List Alteration :=
  (t.foreignKeys.toList.map (·.startingFrom t.name)).map .addForeignKey

/-- The alterations that add the relationships of a table, as they are said. -/
def relationshipAlterations (t : Table) : List Alteration :=
  (t.relationships.toList.map (·.startingFrom t.name)).map .addRelationship

/-- A table that has been created and has got its foreign keys. -/
def keyed (t : Table) : Table :=
  { t.bare with
    foreignKeys := Catalog.empty.insertAll (t.foreignKeys.toList.map (·.startingFrom t.name)) }

/-- A table that has been created and has got its foreign keys and its relationships. -/
def loaded (t : Table) : Table :=
  { t.keyed with
    relationships := Catalog.empty.insertAll (t.relationships.toList.map (·.startingFrom t.name)) }

variable (t : Table)

/-- The foreign keys of a table are added to the created one. -/
theorem foldlM_foreignKeyAlterations : t.foreignKeyAlterations.foldlM take? t.bare = some t.keyed :=
  foldlM_take? foreignKeysPart (fun _ _ => rfl) (t.foreignKeys.nodup_map fun _ => rfl)

/-- The relationships of a table are added to the one that has its foreign keys. -/
theorem foldlM_relationshipAlterations :
    t.relationshipAlterations.foldlM take? t.keyed = some t.loaded :=
  foldlM_take? relationshipsPart (fun _ _ => rfl) (t.relationships.nodup_map fun _ => rfl)

/-- A table that has been loaded consists of what the table does. -/
theorem contents_loaded : t.loaded.contents = t.contents := by
  have hkeys : t.loaded.foreignKeys.toList
      = t.foreignKeys.toList.map (·.startingFrom t.name) :=
    t.foreignKeys.toList_insertAll_map fun _ => rfl
  have hrelationships : t.loaded.relationships.toList
      = t.relationships.toList.map (·.startingFrom t.name) :=
    t.relationships.toList_insertAll_map fun _ => rfl
  rw [contents, contents, hkeys, hrelationships, List.map_map, List.map_map]
  rfl

end Table

/-! ## The script of a database -/

namespace Database

open Table

variable {db : Database}

/-- A table of a coherent database declares the columns of its keys. -/
theorem Coherent.declaresKeys {t : Table} (h : db.Coherent t) : t.bare.DeclaresKeys :=
  ⟨h.primaryKey, fun key hkey column hcolumn => (h.shardKey key hkey column hcolumn).1⟩

/-- A table of a coherent database has what its foreign keys refer to. -/
theorem Coherent.admits_foreignKey {t : Table} (h : db.Coherent t) :
    ∀ a ∈ t.foreignKeyAlterations, t.Admits db.tables a := by
  intro a ha
  simp only [foreignKeyAlterations, List.map_map, List.mem_map] at ha
  obtain ⟨key, hkey, rfl⟩ := ha
  obtain ⟨target, found, hfits⟩ := h.foreignKeys key hkey
  exact ⟨hfits.source_mem, target, found, hfits.target_mem⟩

/-- A table of a coherent database has what its relationships lead to. -/
theorem Coherent.admits_relationship {t : Table} (h : db.Coherent t) :
    ∀ a ∈ t.relationshipAlterations, t.Admits db.tables a := by
  intro a ha
  simp only [relationshipAlterations, List.map_map, List.mem_map] at ha
  obtain ⟨r, hr, rfl⟩ := ha
  exact (h.relationships r hr).2

/-- What the statements of a script say. -/
theorem map_said_script (db : Database) (defaultSchema : String) (create : Bool) :
    (db.script defaultSchema create).map Statement.said
      = db.openingStatements defaultSchema create
        ++ ((db.tables.toList.map bare).flatMap fun t =>
          [.dropTable t.schema t.name, .createTable t])
        ++ (db.tables.toList.flatMap fun t =>
          t.foreignKeyAlterations.map (.alterTable t.schema t.name))
        ++ (db.tables.toList.flatMap fun t =>
          t.relationshipAlterations.map (.alterTable t.schema t.name)) := by
  have hopening : (db.openingStatements defaultSchema create).map Statement.said
      = db.openingStatements defaultSchema create := by
    unfold openingStatements
    split
    · rw [List.map_append, List.map_map]
      rfl
    · rfl
  simp only [script, List.map_append, hopening, tableStatements, foreignKeyStatements,
    relationshipStatements, List.map_flatMap, List.flatMap_map, foreignKeyAlterations,
    relationshipAlterations, List.map_map]
  rfl

/-- The statements of the script of a coherent database are in order, and they leave its tables as
loading makes them. -/
theorem exists_load? (h : db.Tallied) (coherent : ∀ t ∈ db.tables.toList, db.Coherent t)
    (defaultSchema : String) (create : Bool) :
    ∃ l, (Loader.before db defaultSchema create).load?
        ((db.script defaultSchema create).map Statement.said) = some l
      ∧ l.current = some db.name ∧ l.tables.toList = db.tables.toList.map loaded := by
  obtain ⟨l₀, hrun₀, hcurrent₀, hdropped₀, htables₀, haltering₀, hschemas₀⟩ :=
    Loader.exists_foldlM_openingStatements h defaultSchema create
  -- Every table is created bare.
  let bares := db.tables.toList.map bare
  have hnodup : ((l₀.tables.toList ++ bares).map Table.name).Nodup := by
    rw [htables₀, Catalog.toList_empty, List.nil_append, List.map_map]
    exact db.tables.nodup
  have hschemas : ∀ t ∈ bares, t.schema ∈ l₀.schemas :=
    List.forall_mem_map.2 fun t ht => hschemas₀ _ ((h.mem_schemaNames_iff _).2 ⟨t, ht, rfl⟩)
  have hkeys : ∀ t ∈ bares, t.DeclaresKeys :=
    List.forall_mem_map.2 fun t ht => (coherent t ht).declaresKeys
  let l₁ : Loader := { l₀ with
    dropped := l₀.dropped ++ bares.map fun t => (t.schema, t.name)
    tables := l₀.tables.insertAll bares }
  have hrun₁ : ((db.tables.toList.map bare).flatMap fun t =>
      [.dropTable t.schema t.name, .createTable t]).foldlM Loader.step? l₀ = some l₁ :=
    Loader.foldlM_createTable (by simp [hcurrent₀]) haltering₀ (by simp [hdropped₀, htables₀])
      hnodup hschemas hkeys
  have htables₁ : l₁.tables.toList = [] ++ db.tables.toList.map bare := by
    rw [List.nil_append]
    exact (Catalog.toList_insertAll _ hnodup).trans (by rw [htables₀]; rfl)
  have hheaders₁ : db.tables.toList.map header = l₁.tables.toList.map header := by
    rw [htables₁, List.nil_append, List.map_map]
    rfl
  -- The created tables get their foreign keys, and then their relationships.
  obtain ⟨l₂, hrun₂, htables₂, -, hcurrent₂, hdropped₂⟩ :=
    Loader.exists_foldlM_flatMap_alterTable htables₁ (fun _ _ => rfl)
      (fun t _ => t.foldlM_foreignKeyAlterations)
      fun t ht a ha => ((coherent t ht).admits_foreignKey a ha).of_headers rfl hheaders₁
  have hheaders₂ : db.tables.toList.map header = l₂.tables.toList.map header := by
    rw [htables₂, List.nil_append, List.map_map]
    rfl
  obtain ⟨l₃, hrun₃, htables₃, -, hcurrent₃, hdropped₃⟩ :=
    Loader.exists_foldlM_flatMap_alterTable htables₂ (fun _ _ => rfl)
      (fun t _ => t.foldlM_relationshipAlterations)
      fun t ht a ha => ((coherent t ht).admits_relationship a ha).of_headers rfl hheaders₂
  have hrun : ((db.script defaultSchema create).map Statement.said).foldlM Loader.step?
      (Loader.before db defaultSchema create) = some l₃ := by
    simp only [map_said_script, List.foldlM_append, hrun₀, hrun₁, hrun₂, hrun₃,
      Option.bind_eq_bind, Option.bind_some]
  have hcreated : ∀ place ∈ l₃.dropped, place.2 ∈ l₃.tables.names := by
    have hnames : l₃.tables.names = db.tables.toList.map Table.name := by
      rw [Catalog.names, htables₃, List.nil_append, List.map_map]
      rfl
    have hdropped : l₃.dropped = bares.map fun t => (t.schema, t.name) := by
      rw [hdropped₃, hdropped₂]
      simp [l₁, hdropped₀]
    rw [hnames, hdropped, List.map_map]
    exact List.forall_mem_map.2 fun t ht => List.mem_map.2 ⟨t, ht, rfl⟩
  refine ⟨l₃, ?_, by rw [hcurrent₃, hcurrent₂]; exact hcurrent₀, htables₃⟩
  rw [Loader.load?, hrun]
  exact if_pos hcreated

/-! ## The schemas that are created -/

/-- After the opening of a script no schema is created. -/
theorem exists_map_said_script (db : Database) (defaultSchema : String) (create : Bool) :
    ∃ rest, (db.script defaultSchema create).map Statement.said
        = db.openingStatements defaultSchema create ++ rest
      ∧ ∀ s ∈ rest, ∀ schema, s ≠ .createSchema schema := by
  refine ⟨_, by rw [map_said_script, List.append_assoc, List.append_assoc], fun s hs => ?_⟩
  simp only [List.mem_append, List.mem_flatMap, List.mem_map, List.mem_cons, List.not_mem_nil,
    or_false] at hs
  rcases hs with ⟨t, -, rfl | rfl⟩ | ⟨t, -, a, -, rfl⟩ | ⟨t, -, a, -, rfl⟩
  all_goals nofun

/-- A script that creates the database creates each of its schemas once, but for the default one. -/
theorem count_createSchema (h : db.Tallied) {defaultSchema schema : String}
    (hschema : schema ∈ db.schemaNames) (hother : schema ≠ defaultSchema) :
    ((db.script defaultSchema true).map Statement.said).count (.createSchema schema) = 1 := by
  obtain ⟨rest, hsplit, hrest⟩ := exists_map_said_script db defaultSchema true
  have hcreate : ∀ a b : String, Statement.createSchema a = .createSchema b → a = b := by
    rintro a _ ⟨⟩
    rfl
  have hothers : (db.schemaNames.filter (· != defaultSchema)).count schema = 1 :=
    List.count_eq_one_of_mem (h.proper.nodup.filter _) (by simp [hschema, hother])
  rw [hsplit, List.count_append, List.count_eq_zero.2 fun hmem => hrest _ hmem schema rfl,
    openingStatements, if_pos rfl, List.count_append, List.count_map_of_injective _ _ hcreate,
    hothers]
  rfl

/-- No statement before the creation of a schema speaks of a table in it. -/
theorem pairwise_createSchema (db : Database) (defaultSchema : String) (create : Bool)
    (schema : String) :
    ((db.script defaultSchema create).map Statement.said).Pairwise fun s u =>
      u = .createSchema schema → ¬ s.Uses schema := by
  obtain ⟨rest, hsplit, hrest⟩ := exists_map_said_script db defaultSchema create
  have hopening : ∀ s ∈ db.openingStatements defaultSchema create, ¬ s.Uses schema := by
    intro s hs
    unfold openingStatements at hs
    split at hs
    · simp only [List.mem_append, List.mem_cons, List.not_mem_nil, or_false, List.mem_map] at hs
      rcases hs with (rfl | rfl) | ⟨_, -, rfl⟩ <;> exact id
    · rw [List.mem_singleton.1 hs]
      exact id
  rw [hsplit, List.pairwise_append]
  refine ⟨List.pairwise_of_forall_mem_list fun s hs _ _ _ => hopening s hs,
    List.pairwise_of_forall_mem_list fun _ _ u hu heq => (hrest u hu schema heq).elim,
    fun s hs _ _ _ => hopening s hs⟩

/-! ## Valid databases -/

/-- **A valid database can be loaded.** The script of a valid database is the text of statements one
after the other, with a blank line before those that drop or create a table. A strict loader takes
these statements, and what it has loaded then are the tables of the database, in order, each with
what it consists of. A script that creates the database creates every schema of it once and before
its tables, but for the default one. -/
theorem load_databaseScript {w : Writer} (hstyle : w.style = .unchanged) (h : db.Built)
    (valid : db.validate.isValid = true) (create : Bool) :
    let list := (db.script w.defaultSchema create).map Statement.said
    w.databaseScript db create = String.join (list.map fun s =>
        (match s with
          | .dropTable .. | .createTable _ => "\n"
          | _ => "") ++ Writer.plain.statement s)
      ∧ (∃ l, (Loader.before db w.defaultSchema create).load? list = some l
        ∧ l.current = some db.name
        ∧ l.tables.toList.map Table.contents = db.tables.toList.map Table.contents)
      ∧ (create = true → ∀ schema ∈ db.schemaNames, schema ≠ w.defaultSchema →
        list.count (.createSchema schema) = 1
          ∧ list.Pairwise fun s u => u = .createSchema schema → ¬ s.Uses schema) := by
  intro list
  have hcoherent : ∀ t ∈ db.tables.toList, db.Coherent t := fun t ht =>
    ((isValid_validate_iff_coherent db).1 valid t ht).2
  refine ⟨?_, ?_, ?_⟩
  · rw [Writer.databaseScript, ← Writer.script_map_said, Writer.script,
      Writer.statement_of_unchanged hstyle]
    refine congrArg String.join (List.map_congr_left fun s _ => ?_)
    cases s <;> rfl
  · obtain ⟨l, hload, hcurrent, htables⟩ :=
      exists_load? h.tallied hcoherent w.defaultSchema create
    refine ⟨l, hload, hcurrent, ?_⟩
    rw [htables, List.map_map]
    exact List.map_congr_left fun t _ => t.contents_loaded
  · rintro rfl schema hschema hother
    exact ⟨count_createSchema h.tallied hschema hother, pairwise_createSchema ..⟩

/-- Orders and customers refer to each other, and orders to themselves, across two schemas. -/
theorem load_databaseScript_shop :
    let shop := (⟨"shop", .empty, .empty⟩ : Database).run [
      .addTable "orders" "sales"
        [.addColumns [("id", "INT"), ("customer", "VARCHAR(20)"), ("former", "INT")],
          .setPrimaryKey (.one "id"), .setShardKey (.one "id") 8,
          .referTo (.one "customer") "customers" (.one "name") none,
          .referTo (.one "former") "orders" (.one "id") none],
      .addTable "customers" "falcon_default_schema"
        [.addColumns [("name", "VARCHAR(30)"), ("first", "INT")], .setPrimaryKey (.one "name"),
          .referTo (.one "first") "orders" (.one "id") none,
          .relateTo "orders" "customers.first = orders.id" none]]
    let list := (shop.script Writer.plain.defaultSchema true).map Statement.said
    shop.validate.isValid = true
      ∧ (shop.tables.toList.map fun t => (t.foreignKeys.size, t.relationships.size))
        = [(2, 0), (1, 1)]
      ∧ Writer.plain.databaseScript shop true = String.join (list.map fun s =>
        (match s with
          | .dropTable .. | .createTable _ => "\n"
          | _ => "") ++ Writer.plain.statement s)
      ∧ (∃ l, (Loader.before shop Writer.plain.defaultSchema true).load? list = some l
        ∧ l.tables.toList.map Table.contents = shop.tables.toList.map Table.contents)
      ∧ list.count (.createSchema "sales") = 1 := by
  intro shop list
  have made : Database.make "shop" = .ok ⟨"shop", .empty, .empty⟩ := rfl
  have h : shop.Built := (Built.make made).run _
  have valid : shop.validate.isValid = true := by decide +kernel
  obtain ⟨htext, ⟨l, hload, -, hcontents⟩, hschemas⟩ :=
    load_databaseScript (w := Writer.plain) rfl h valid true
  have hsales := (hschemas rfl "sales" (by decide +kernel) (by decide +kernel)).1
  exact ⟨valid, by decide +kernel, htext, ⟨l, hload, hcontents⟩, hsales⟩

end Database

end Schemata
