import Mathlib.Data.List.Nodup
import Schemata.Proofs.Calls
import Schemata.Proofs.CasedNames
import Schemata.Proofs.ScriptStatements

/-! # Scripts in a case style

No identifier of a database with a history is blank, and no two tables, and no two columns of a
table, have one name. A case style keeps this as far as names have essences that differ and are not
hollow, so that in every style, but for such names, a script drops and creates each table once,
declares each column once, and writes no empty identifier. -/

namespace Schemata

/-! ## Identifiers that are not blank -/

/-- The identifiers of a foreign key that is made are not blank. -/
theorem ForeignKey.not_blank_of_make {source target : String} {sourceKeys targetKeys : KeyColumns}
    {name? : Option String} {key : ForeignKey}
    (made : make source sourceKeys target targetKeys name? = .ok key) :
    ∀ name ∈ key.identifiers, Text.isBlank name = false := by
  have hname := (of_make_eq_ok made).1
  obtain ⟨-, htarget, hsource, htargets, -, -, -, rfl⟩ := (make_eq_ok_iff ..).1 made
  intro name hmem
  simp only [identifiers, List.mem_append, List.mem_cons, List.not_mem_nil, or_false] at hmem
  rcases hmem with ((rfl | rfl) | hmem) | hmem
  · exact hname
  · exact htarget
  · exact hsource name hmem
  · exact htargets name hmem

/-- The identifiers of a relationship that is made are not blank. -/
theorem Relationship.not_blank_of_make {source target condition : String} {name? : Option String}
    {r : Relationship} (made : make source target condition name? = .ok r) :
    ∀ name ∈ r.identifiers, Text.isBlank name = false := by
  have hname := of_make_eq_ok made
  obtain ⟨-, htarget, -, -, rfl⟩ := (make_eq_ok_iff ..).1 made
  exact List.forall_mem_cons.2 ⟨hname, List.forall_mem_singleton.2 htarget⟩

namespace Table

/-- Whether the columns of the shard key of a table, and the identifiers of its foreign keys and its
relationships, are not blank. -/
structure PartsNamed (t : Table) : Prop where
  /-- The columns of the shard key are not blank. -/
  shardKey : ∀ key, t.shardKey = some key → ∀ column ∈ key.columns, Text.isBlank column = false
  /-- The identifiers of the foreign keys are not blank. -/
  foreignKeys : ∀ key ∈ t.foreignKeys.toList, ∀ name ∈ key.identifiers, Text.isBlank name = false
  /-- The identifiers of the relationships are not blank. -/
  relationships : ∀ r ∈ t.relationships.toList, ∀ name ∈ r.identifiers, Text.isBlank name = false

/-- Every edit keeps the parts of a table named. -/
theorem PartsNamed.edit {t t' : Table} (h : t.PartsNamed) (edit : t.Edit t') : t'.PartsNamed := by
  cases edit with
  | addColumn => exact { h with }
  | dropColumn => exact { h with }
  | setPrimaryKey set =>
      obtain ⟨-, rfl⟩ := (setPrimaryKey_eq_ok_iff _ _ _).1 set
      exact { h with }
  | setShardKey made =>
      obtain ⟨hcolumns, -, -, rfl⟩ := (ShardKey.make_eq_ok_iff _ _ _).1 made
      refine { h with shardKey := ?_ }
      rintro _ ⟨⟩
      exact hcolumns
  | clearShardKey => exact { h with shardKey := by simp [clearShardKey] }
  | addForeignKey made =>
      exact { h with
        foreignKeys := Catalog.forall_mem_insert h.foreignKeys (ForeignKey.not_blank_of_make made) }
  | dropForeignKey key =>
      exact { h with foreignKeys := Catalog.forall_mem_erase h.foreignKeys key }
  | addRelationship made =>
      exact { h with
        relationships :=
          Catalog.forall_mem_insert h.relationships (Relationship.not_blank_of_make made) }
  | dropRelationship relationship =>
      exact { h with relationships := Catalog.forall_mem_erase h.relationships relationship }

/-- The parts of a table that edits build are named. -/
theorem Built.partsNamed {t : Table} (h : t.Built) : t.PartsNamed := by
  induction h with
  | inSchema made =>
      obtain ⟨-, -, rfl⟩ := (inSchema_eq_ok_iff _ _ _).1 made
      constructor <;> simp
  | edit _ edit ih => exact ih.edit edit

/-- No identifier of a table that edits build is blank. -/
theorem Built.not_blank {t : Table} (h : t.Built) :
    ∀ name ∈ t.identifiers, Text.isBlank name = false := by
  have hparts := h.partsNamed
  have hwell := h.wellFormed
  intro name hmem
  simp only [identifiers, List.mem_append, List.mem_cons, List.not_mem_nil, or_false] at hmem
  rcases hmem with (((((rfl | rfl) | hmem) | hmem) | hmem) | hmem) | hmem
  · exact hwell.schema
  · exact hwell.name
  · obtain ⟨c, hc, rfl⟩ := List.mem_map.1 hmem
    exact hwell.columns.named c hc
  · exact h.primaryKey_not_blank name hmem
  · cases hshard : t.shardKey with
    | none => simp [hshard] at hmem
    | some key => exact hparts.shardKey key hshard name (by simpa [hshard] using hmem)
  · obtain ⟨key, hkey, hmem⟩ := List.mem_flatMap.1 hmem
    exact hparts.foreignKeys key hkey name hmem
  · obtain ⟨r, hr, hmem⟩ := List.mem_flatMap.1 hmem
    exact hparts.relationships r hr name hmem

end Table

namespace Database

/-- The name of a database with a history is not blank. -/
theorem Built.name_not_blank {db : Database} (h : db.Built) : Text.isBlank db.name = false := by
  induction h with
  | make made =>
      obtain ⟨name, hname, heq⟩ := (bind_eq_ok_iff _ _ _).1 made
      cases heq
      obtain ⟨hblank, rfl⟩ := (requireText_eq_ok_iff _ _ _).1 hname
      exact hblank
  | addTable _ _ ih => exact ih
  | dropTable table _ ih =>
      unfold Database.dropTable
      split <;> exact ih
  | editTable _ _ _ ih =>
      unfold Database.editTable
      split <;> exact ih

/-- No identifier of a database with a history is blank. -/
theorem Built.not_blank {db : Database} (h : db.Built) :
    ∀ name ∈ db.identifiers, Text.isBlank name = false := by
  have htable : ∀ t ∈ db.tables.toList, ∀ name ∈ t.identifiers, Text.isBlank name = false :=
    fun t ht => (h.table (Catalog.get?_of_mem ht)).not_blank
  intro name hmem
  rcases List.mem_append.1 hmem with hmem | hmem
  · rcases List.mem_cons.1 hmem with rfl | hmem
    · exact h.name_not_blank
    · obtain ⟨t, ht, rfl⟩ := (h.wellFormed.schemas name).1 hmem
      exact htable t ht _ (by simp [Table.identifiers])
  · obtain ⟨t, ht, hmem⟩ := List.mem_flatMap.1 hmem
    exact htable t ht name hmem

end Database

/-! ## What a case style does to a database -/

namespace Writer

/-- Whether a writer may write two different names alike: they have one essence and, but for camel
case, the default schema does not keep them apart by its name, which is written as it is. -/
def Merges (w : Writer) (x y : String) : Prop :=
  x ≠ y ∧ w.style.essence x = w.style.essence y
    ∧ (w.style ≠ .camel → x = w.defaultSchema ∨ y = w.defaultSchema →
      w.style.essence w.defaultSchema = w.defaultSchema)

instance (w : Writer) (x y : String) : Decidable (w.Merges x y) :=
  inferInstanceAs (Decidable (_ ∧ _))

/-- Different names that are written alike are merged. -/
theorem merges_of_cased_eq {w : Writer} {x y : String} (hne : x ≠ y)
    (h : w.cased x = w.cased y) : w.Merges x y :=
  ⟨hne, CaseStyle.essence_eq_of_applyCase_eq h, fun hstyle =>
    ((CaseStyle.applyCase_eq_iff hstyle w.defaultSchema hne).1 h).2⟩

/-- Different names of which no two are merged stay apart. -/
theorem nodup_map_cased {w : Writer} {names : List String} (hnodup : names.Nodup)
    (h : ∀ x ∈ names, ∀ y ∈ names, ¬ w.Merges x y) : (names.map w.cased).Nodup := by
  refine hnodup.map_on fun x hx y hy hcased => ?_
  by_contra hne
  exact h x hx y hy (merges_of_cased_eq hne hcased)

end Writer

namespace Database

open Statement

/-- What a case style does to the identifiers of a database, and to the scripts that are written
with them. -/
structure CasedBy (w : Writer) (db : Database) : Prop where
  /-- An identifier becomes blank in camel case only, exactly when it is hollow and does not name
  the default schema. -/
  blank_iff : ∀ name ∈ db.identifiers, Text.isBlank (w.cased name) = true
    ↔ w.style = .camel ∧ name ≠ w.defaultSchema ∧ Naming.IsHollow name.toList
  /-- Names, be they of tables or of columns, that are written alike have one essence. -/
  alike : ∀ x y, w.cased x = w.cased y → w.style.essence x = w.style.essence y
  /-- But for camel case, different names are written alike exactly when they have one essence, and
  the default schema, if it is one of them, is named by it. -/
  alike_iff : w.style ≠ .camel → ∀ x y, x ≠ y → (w.cased x = w.cased y
    ↔ w.style.essence x = w.style.essence y
      ∧ (x = w.defaultSchema ∨ y = w.defaultSchema →
        w.style.essence w.defaultSchema = w.defaultSchema))
  /-- Where no two names of tables are merged, a script drops each table once and creates each
  once. -/
  tables_once : (∀ x ∈ db.tableNames, ∀ y ∈ db.tableNames, ¬ w.Merges x y) → ∀ create,
    (((db.script w.defaultSchema create).filterMap droppedTable?).map w.cased).Nodup
      ∧ (((db.script w.defaultSchema create).filterMap createdName?).map w.cased).Nodup
  /-- Where no two names of columns of a table are merged, a script declares each once. -/
  columns_once : ∀ create t, .createTable t ∈ db.script w.defaultSchema create →
    (∀ x ∈ t.columnNames, ∀ y ∈ t.columnNames, ¬ w.Merges x y) →
      (t.columnNames.map w.cased).Nodup
  /-- An empty identifier in a script comes of a hollow name in camel case. -/
  empty_hollow : ∀ create, ∀ s ∈ db.script w.defaultSchema create, ∀ name ∈ s.identifiers,
    w.ident name = Naming.quote "" →
      w.style = .camel ∧ name ≠ w.defaultSchema ∧ Naming.IsHollow name.toList

/-- **Identifiers stay usable in a case style, but for their essence.** For a database with a
history, whatever the case style and the name of the default schema: an identifier becomes blank in
camel case only, when it is hollow; two names are written alike only if they have one essence, which
is the name itself when names are left unchanged, the name in upper or in lower case, or in camel
case the name in upper case without underscores. But for names that are merged or hollow, a script
drops and creates each table once, declares each column once and has no empty identifier. -/
theorem Built.casedBy {db : Database} (h : db.Built) (w : Writer) : db.CasedBy w where
  blank_iff name hname :=
    CaseStyle.isBlank_applyCase_iff w.style w.defaultSchema (h.not_blank name hname)
  alike _ _ := CaseStyle.essence_eq_of_applyCase_eq
  alike_iff hstyle _ _ hne := CaseStyle.applyCase_eq_iff hstyle w.defaultSchema hne
  tables_once hnames create := by
    have hnodup := Writer.nodup_map_cased db.tables.nodup hnames
    rw [filterMap_droppedTable?, filterMap_createdName?]
    exact ⟨hnodup, hnodup⟩
  columns_once _ t _ hnames := Writer.nodup_map_cased t.columns.nodup hnames
  empty_hollow create s hs name hname hempty := by
    have hcased : w.cased name = "" := by
      have hlist := congrArg String.toList hempty
      simpa [Writer.ident, Naming.quote] using hlist
    refine (CaseStyle.isBlank_applyCase_iff w.style w.defaultSchema
      (h.not_blank name (mem_identifiers_of_mem_script hs name hname))).1 ?_
    show Text.isBlank (w.cased name) = true
    rw [hcased]
    rfl

/-- A shop in camel case, with a schema that keeps its name: the tables and the columns stay apart,
and nothing becomes blank. In a yard in upper case, two tables of one essence stay apart because one
of them has the name of the default schema. -/
theorem casedBy_shop :
    let w : Writer := ⟨.camel, "raw_data"⟩
    let shop : Database := (⟨"web_shop", .empty, .empty⟩ : Database).run [
      .addTable "order_lines" "raw_data" [.addColumn "line_id" "INT", .addColumn "_part_" "INT"],
      .addTable "parts" "own_data" [.addColumn "part_id" "INT"]]
    let upper : Writer := ⟨.upper, "parts"⟩
    let yard : Database := (⟨"yard", .empty, .empty⟩ : Database).run [
      .addTable "parts" "own_data" [.addColumn "id" "INT"],
      .addTable "PARTS" "own_data" [.addColumn "id" "INT"]]
    shop.Built ∧ (∀ x ∈ shop.tableNames, ∀ y ∈ shop.tableNames, ¬ w.Merges x y)
      ∧ ((shop.script w.defaultSchema true).filterMap droppedTable?).map w.cased
        = ["OrderLines", "Parts"]
      ∧ (((shop.script w.defaultSchema true).filterMap droppedTable?).map w.cased).Nodup
      ∧ (∃ t, .createTable t ∈ shop.script w.defaultSchema true
        ∧ t.columnNames.map w.cased = ["LineId", "Part"] ∧ (t.columnNames.map w.cased).Nodup)
      ∧ "_part_" ∈ shop.identifiers ∧ Text.isBlank (w.cased "_part_") = false
      ∧ yard.Built ∧ yard.tableNames.map upper.style.essence = ["PARTS", "PARTS"]
      ∧ (((yard.script upper.defaultSchema true).filterMap droppedTable?).map
        upper.cased).Nodup := by
  intro w shop upper yard
  have made : make "web_shop" = .ok ⟨"web_shop", .empty, .empty⟩ := rfl
  have hbuilt : shop.Built := (Built.make made).run _
  have hcased := Built.casedBy hbuilt w
  have hnames : ∀ x ∈ shop.tableNames, ∀ y ∈ shop.tableNames, ¬ w.Merges x y := by decide +kernel
  obtain ⟨t, ht, hcolumns, happart⟩ : ∃ t, .createTable t ∈ shop.script w.defaultSchema true
      ∧ t.columnNames.map w.cased = ["LineId", "Part"]
      ∧ ∀ x ∈ t.columnNames, ∀ y ∈ t.columnNames, ¬ w.Merges x y :=
    ⟨(shop.table? "order_lines").get (by decide +kernel), by decide +kernel, by decide +kernel,
      by decide +kernel⟩
  have hpart : "_part_" ∈ shop.identifiers := by decide +kernel
  have hkept : Text.isBlank (w.cased "_part_") = false := by
    rw [← Bool.not_eq_true, hcased.blank_iff _ hpart]
    decide
  have made' : make "yard" = .ok ⟨"yard", .empty, .empty⟩ := rfl
  have hbuilt' : yard.Built := (Built.make made').run _
  have hnames' : ∀ x ∈ yard.tableNames, ∀ y ∈ yard.tableNames, ¬ upper.Merges x y := by
    decide +kernel
  exact ⟨hbuilt, hnames, by decide +kernel, (hcased.tables_once hnames true).1,
    ⟨t, ht, hcolumns, hcased.columns_once true t ht happart⟩, hpart, hkept, hbuilt',
    by decide +kernel, ((Built.casedBy hbuilt' upper).tables_once hnames' true).1⟩

/-- An opera with names that a case style does not keep apart or does not keep: in upper and in
lower case a table is dropped and created twice, in camel case a column is declared twice, and there
is an identifier that is blank and empty. -/
theorem not_kept_opera :
    let upper : Writer := ⟨.upper, Schemata.defaultSchema⟩
    let lower : Writer := ⟨.lower, Schemata.defaultSchema⟩
    let camel : Writer := ⟨.camel, Schemata.defaultSchema⟩
    let opera : Database := (⟨"opera", .empty, .empty⟩ : Database).run [
      .addTable "Hall" "opera" [.addColumn "seat_no" "INT", .addColumn "seatNo" "INT"],
      .addTable "hall" "opera" [.addColumn "seat" "INT"],
      .addTable "___" "opera" [.addColumn "seat" "INT"]]
    opera.Built ∧ opera.tableNames = ["Hall", "hall", "___"]
      ∧ (∀ w ∈ [upper, lower], w.cased "Hall" = w.cased "hall"
        ∧ ¬ (((opera.script w.defaultSchema true).filterMap droppedTable?).map w.cased).Nodup
        ∧ ¬ (((opera.script w.defaultSchema true).filterMap createdName?).map w.cased).Nodup)
      ∧ (∃ t, .createTable t ∈ opera.script camel.defaultSchema true
        ∧ t.columnNames = ["seat_no", "seatNo"] ∧ ¬ (t.columnNames.map camel.cased).Nodup)
      ∧ "___" ∈ opera.identifiers ∧ Text.isBlank (camel.cased "___") = true
      ∧ ∃ s ∈ opera.script camel.defaultSchema true, "___" ∈ s.identifiers
        ∧ camel.ident "___" = Naming.quote "" := by
  intro upper lower camel opera
  have made : make "opera" = .ok ⟨"opera", .empty, .empty⟩ := rfl
  have hbuilt : opera.Built := (Built.make made).run _
  refine ⟨hbuilt, by decide +kernel, by decide +kernel, ?_, by decide +kernel, by decide +kernel,
    ?_⟩
  · exact ⟨(opera.table? "Hall").get (by decide +kernel), by decide +kernel, by decide +kernel,
      by decide +kernel⟩
  · exact ⟨.dropTable "opera" "___", by decide +kernel, by decide +kernel, by decide +kernel⟩

end Database

end Schemata
