import Schemata.Proofs.Calls

/-! # Adding and removing tables undo each other

A table that is added under a new name goes again when it is removed, and one that replaces another
goes when the other is put back. What is left is the database as it was. Only one thing can tell the
difference: a schema that lost its only table on the way has left the tally, and it comes back at
the end of it. -/

namespace Schemata

/-! ## Tallies -/

namespace SchemaTally

/-- A schema that is not counted yet comes at the end. -/
theorem addTo_of_not_mem {schema : String} {entries : List (String × Nat)}
    (h : schema ∉ entries.map (·.1)) : addTo schema entries = entries ++ [(schema, 1)] := by
  induction entries with
  | nil => rfl
  | cons entry rest ih =>
      obtain ⟨s, n⟩ := entry
      rw [List.map_cons, List.mem_cons, not_or] at h
      rw [addTo, if_neg (Ne.symm h.1), ih h.2]
      rfl

/-- Counting a table of one schema and releasing one of another go in either order. -/
theorem release_add_comm (tally : SchemaTally) {added released : String}
    (hne : added ≠ released) :
    (tally.add added).release released = (tally.release released).add added := by
  obtain ⟨entries⟩ := tally
  refine congrArg SchemaTally.mk (?_ : takeFrom released (addTo added entries)
    = addTo added (takeFrom released entries))
  induction entries with
  | nil => simp [addTo, takeFrom, hne]
  | cons entry rest ih =>
      obtain ⟨s, n⟩ := entry
      by_cases hadded : s = added
      · -- The entry of the one schema is not that of the other.
        subst hadded
        simp [addTo, takeFrom, hne]
      · by_cases hreleased : s = released
        · subst hreleased
          by_cases hn : n ≤ 1
          · simp [addTo, takeFrom, hadded, hn]
          · simp [addTo, takeFrom, hadded, hn]
        · simp [addTo, takeFrom, hadded, hreleased, ih]

namespace Proper

variable {tally : SchemaTally} (h : tally.Proper)
include h

/-- A table that has just been counted is released without a trace. -/
theorem release_add (schema : String) : (tally.add schema).release schema = tally := by
  obtain ⟨entries⟩ := tally
  refine congrArg SchemaTally.mk (?_ : takeFrom schema (addTo schema entries) = entries)
  induction entries with
  | nil => simp [addTo, takeFrom]
  | cons entry rest ih =>
      obtain ⟨s, n⟩ := entry
      have hpositive : 0 < n := h.positive (s, n) List.mem_cons_self
      by_cases hs : s = schema
      · -- There is a table in the schema already, so the entry stays.
        have hmany : ¬ n + 1 ≤ 1 := by omega
        simp [addTo, takeFrom, hs, hmany]
      · simp [addTo, takeFrom, hs, ih h.of_cons]

/-- Where a schema has more than one table, one of them is released and counted again without a
trace. -/
theorem add_release {schema : String} (hmany : 1 < tally.count schema) :
    (tally.release schema).add schema = tally := by
  obtain ⟨entries⟩ := tally
  refine congrArg SchemaTally.mk (?_ : addTo schema (takeFrom schema entries) = entries)
  induction entries with
  | nil => simp [count] at hmany
  | cons entry rest ih =>
      obtain ⟨s, n⟩ := entry
      by_cases hs : s = schema
      · subst hs
        have hn : 1 < n := by simpa [count] using hmany
        have hsub : n - 1 + 1 = n := by omega
        simp [takeFrom, addTo, Nat.not_le.2 hn, hsub]
      · have hb : (schema == s) = false := by simpa using Ne.symm hs
        have hrest : 1 < count ⟨rest⟩ schema := by simpa [count, List.lookup_cons, hb] using hmany
        simp [takeFrom, addTo, hs, ih h.of_cons hrest]

/-- A table of a schema that is counted is released and counted again without a change of any count;
the schema comes at the end if this was its only table. -/
theorem add_release_perm {schema : String} (hcounted : 0 < tally.count schema) :
    ((tally.release schema).add schema).entries.Perm tally.entries := by
  obtain ⟨entries⟩ := tally
  show (addTo schema (takeFrom schema entries)).Perm entries
  induction entries with
  | nil => simp [count] at hcounted
  | cons entry rest ih =>
      obtain ⟨s, n⟩ := entry
      have hfresh : s ∉ rest.map (·.1) := (List.nodup_cons.1 h.nodup).1
      by_cases hs : s = schema
      · subst hs
        have hpositive : 0 < n := by simpa [count] using hcounted
        by_cases hn : n ≤ 1
        · -- The only table: the entry goes, and a new one comes at the end.
          obtain rfl : n = 1 := by omega
          rw [takeFrom, if_pos rfl, if_pos hn, addTo_of_not_mem hfresh]
          exact List.perm_append_singleton _ _
        · have hsub : n - 1 + 1 = n := by omega
          simp [takeFrom, addTo, hn, hsub]
      · have hb : (schema == s) = false := by simpa using Ne.symm hs
        have hrest : 0 < count ⟨rest⟩ schema := by
          simpa [count, List.lookup_cons, hb] using hcounted
        simpa [takeFrom, addTo, hs] using ih h.of_cons hrest

/-- When a table of one schema replaces one of another, and is replaced by it again, what is left of
this is that the first table has been released and counted again. -/
theorem release_add_release_add {old new : String} (hne : new ≠ old) :
    (((tally.add new).release old).add old).release new = (tally.release old).add old := by
  calc (((tally.add new).release old).add old).release new
      = (((tally.release old).add new).add old).release new := by rw [release_add_comm _ hne]
    _ = (((tally.release old).add new).release new).add old := release_add_comm _ (Ne.symm hne)
    _ = (tally.release old).add old := by rw [(h.release old).release_add]

end Proper

end SchemaTally

/-! ## Databases -/

namespace Database

variable {db : Database} {t : Table}

/-- A table that has been added under a new name goes without a trace. -/
theorem dropTable_addTable (h : db.Tallied) (hnew : db.table? t.name = none) :
    (db.addTable t).dropTable t.name = db := by
  have hfound : (db.addTable t).table? t.name = some t := by rw [table?_addTable, if_pos rfl]
  have htables : (db.tables.insert t).erase t.name = db.tables := by
    have habsent : t.name ∉ db.tables.names := (Catalog.get?_eq_none_iff _ _).1 hnew
    refine Catalog.ext ?_
    rw [Catalog.toList_erase, Catalog.toList_insert, putNamed_of_not_mem habsent,
      List.filter_append, List.filter_eq_self.2]
    · simp
    · intro u hu
      have hne : u.name ≠ t.name := fun e => habsent (List.mem_map.2 ⟨u, hu, e⟩)
      simpa using hne
  simp only [dropTable, hfound]
  simp only [addTable, hnew, htables, h.proper.release_add]

/-- A table that is put back into its place has its catalog as it was before, and the tally has
released and counted its schema. -/
theorem addTable_addTable (h : db.Tallied) {old : Table}
    (hold : db.table? t.name = some old) :
    (db.addTable t).addTable old
      = { db with
          schemas :=
            if old.schema = t.schema then db.schemas
            else (db.schemas.release old.schema).add old.schema } := by
  have hname : old.name = t.name := Catalog.name_of_get? hold
  have hfound : (db.addTable t).table? old.name = some t := by
    rw [table?_addTable, if_pos hname.symm]
  -- The name keeps its place through both additions.
  have htables : (db.tables.insert t).insert old = db.tables := by
    have hself : db.tables.get? (Named.name old) = some old := by
      rw [Table.named_eq, hname]
      exact hold
    rw [Catalog.insert_insert _ hname, Catalog.insert_of_get? hself]
  have hschemas : (((db.schemas.add t.schema).release old.schema).add old.schema).release t.schema
      = if old.schema = t.schema then db.schemas
        else (db.schemas.release old.schema).add old.schema := by
    by_cases hschema : old.schema = t.schema
    · rw [if_pos hschema, hschema, h.proper.release_add, h.proper.release_add]
    · rw [if_neg hschema, h.proper.release_add_release_add (Ne.symm hschema)]
  rw [addTable, hfound]
  simp only [addTable, hold, htables, hschemas]

/-- **Adding and removing tables undo each other.** A table of a new name replaces none, and after
it is removed again, the database is as it was. A table of a name that is taken replaces the table
of that name in its place; when this is put back, it replaces the other one, and the database is as
it was up to the order of its schemas. This is the same too, unless the replaced table was the only
one of its schema and the other is of another schema. -/
theorem putTable_undone (built : db.Built) (t : Table) :
    (db.table? t.name = none →
      (db.putTable t).1 = none ∧ (db.putTable t).2.takeTable t.name = (some t, db))
    ∧ ∀ old, db.table? t.name = some old →
        (db.putTable t).1 = some old ∧ (db.putTable t).2.tableNames = db.tableNames
        ∧ ((db.putTable t).2.putTable old).1 = some t
        ∧ ((db.putTable t).2.putTable old).2.name = db.name
        ∧ ((db.putTable t).2.putTable old).2.tables = db.tables
        ∧ ((db.putTable t).2.putTable old).2.schemas.entries.Perm db.schemas.entries
        ∧ (old.schema = t.schema ∨ 1 < db.schemas.count old.schema →
            ((db.putTable t).2.putTable old).2 = db) := by
  have htallied : db.Tallied := built.tallied
  constructor
  · intro hnew
    have hfound : (db.addTable t).table? t.name = some t := by rw [table?_addTable, if_pos rfl]
    have hback : (db.addTable t).takeTable t.name = (some t, db) := by
      rw [takeTable, hfound, dropTable_addTable htallied hnew]
    exact ⟨hnew, hback⟩
  · intro old hold
    have hname : old.name = t.name := Catalog.name_of_get? hold
    have hnames : (db.addTable t).tableNames = db.tableNames := by
      have hmem : t.name ∈ db.tables.names := Catalog.mem_names_of_get? hold
      show (db.tables.insert t).names = db.tables.names
      rw [Catalog.names_insert, Table.named_eq, if_pos hmem]
    have hanswer : (db.addTable t).table? old.name = some t := by
      rw [table?_addTable, if_pos hname.symm]
    have hrestored := addTable_addTable htallied hold
    have hperm : ((db.addTable t).addTable old).schemas.entries.Perm db.schemas.entries := by
      rw [hrestored]
      show (if old.schema = t.schema then _ else _ : SchemaTally).entries.Perm _
      by_cases hschema : old.schema = t.schema
      · rw [if_pos hschema]
      · rw [if_neg hschema]
        exact htallied.proper.add_release_perm (htallied.count_pos hold)
    have hsame : old.schema = t.schema ∨ 1 < db.schemas.count old.schema →
        (db.addTable t).addTable old = db := by
      intro hcase
      rw [hrestored]
      by_cases hschema : old.schema = t.schema
      · rw [if_pos hschema]
      · rw [if_neg hschema, htallied.proper.add_release (hcase.resolve_left hschema)]
    have hrest : ((db.addTable t).addTable old).name = db.name
        ∧ ((db.addTable t).addTable old).tables = db.tables := by
      rw [hrestored]
      exact ⟨rfl, rfl⟩
    exact ⟨hold, hnames, hanswer, hrest.1, hrest.2, hperm, hsame⟩

/-- A table comes and goes; another one is replaced by one of its schema and put back; and the only
table of a schema is moved to a new one and back, which leaves the schema at the end. -/
theorem putTable_undone_shop :
    let db := (⟨"shop", .empty, .empty⟩ : Database).run
      [.addTable "orders" "sales" [], .addTable "parts" "stock" []]
    let orders : Table := ⟨"orders", "sales", [], none, .empty, .empty, .empty⟩
    let bills : Table := ⟨"bills", "sales", [], none, .empty, .empty, .empty⟩
    let keyed : Table := ⟨"orders", "sales", ["id"], none, .empty, .empty, .empty⟩
    let moved : Table := ⟨"orders", "archive", [], none, .empty, .empty, .empty⟩
    db.Built ∧ db.schemaNames = ["sales", "stock"]
      ∧ db.table? bills.name = none ∧ (db.putTable bills).2.takeTable "bills" = (some bills, db)
      ∧ db.table? keyed.name = some orders ∧ orders.schema = keyed.schema
      ∧ (db.putTable keyed).2.putTable orders = (some keyed, db)
      ∧ db.table? moved.name = some orders
      ∧ ((db.putTable moved).2.putTable orders).2.tables = db.tables
      ∧ ((db.putTable moved).2.putTable orders).2.schemas.entries.Perm db.schemas.entries
      ∧ ((db.putTable moved).2.putTable orders).2.schemaNames = ["stock", "sales"] := by
  intro db orders bills keyed moved
  have made : Database.make "shop" = .ok ⟨"shop", .empty, .empty⟩ := rfl
  have built : db.Built := (Built.make made).run _
  obtain ⟨hnew, -⟩ := putTable_undone built bills
  obtain ⟨-, hkeyed⟩ := putTable_undone built keyed
  obtain ⟨-, hmoved⟩ := putTable_undone built moved
  obtain ⟨-, -, hanswer, -, -, -, hsame⟩ := hkeyed orders rfl
  obtain ⟨-, -, -, -, htables, hperm, -⟩ := hmoved orders rfl
  exact ⟨built, rfl, rfl, (hnew rfl).2, rfl, rfl, Prod.ext hanswer (hsame (.inl rfl)), rfl, htables,
    hperm, rfl⟩

end Database

end Schemata
