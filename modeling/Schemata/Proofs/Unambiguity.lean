import Schemata.Proofs.ScriptStatements
import Schemata.Proofs.StatementDecoding

/-! # Scripts are unambiguous

What the statements of a script say leads back to the database: the database that they make the
current one, the tables that they create, in order, and the foreign keys and the relationships that
they add to each table. Since the text of a script tells its statements apart, databases with one
script consist of the same tables. -/

namespace Schemata

/-- Where something is listed for a single member of a catalog, no other member lists anything. -/
theorem Catalog.flatMap_ite_of_mem {α β : Type} [Named α] {c : Catalog α} {x : α}
    (hx : x ∈ c.toList) (g : α → List β) :
    (c.toList.flatMap fun y => if name y = name x then g y else []) = g x := by
  obtain ⟨members, hnodup⟩ := c
  induction members with
  | nil => cases hx
  | cons y members ih =>
      obtain ⟨hy, hmembers⟩ := List.nodup_cons.1 hnodup
      rw [List.flatMap_cons]
      rcases List.mem_cons.1 hx with rfl | hx
      · -- The others have other names.
        have hothers : (members.flatMap fun z => if name z = name x then g z else []) = [] :=
          List.flatMap_eq_nil_iff.2 fun z hz =>
            if_neg fun e => hy (List.mem_map.2 ⟨z, hz, e⟩)
        rw [if_pos rfl, hothers, List.append_nil]
      · rw [if_neg fun e => hy (List.mem_map.2 ⟨x, hx, e.symm⟩), List.nil_append]
        exact ih hmembers hx

/-! ## What a statement adds -/

namespace Statement

/-- The database that a statement makes the current one. -/
def usedDatabase? : Statement → Option String
  | .useDatabase database => some database
  | _ => none

/-- The table that a statement creates, as far as its text describes it. -/
def createdTable? : Statement → Option Table
  | .createTable t => some t.bare
  | _ => none

/-- The foreign key that a statement adds to a table. -/
def foreignKeyOf? (table : String) :
    Statement → Option (String × List String × String × List String)
  | .alterTable _ altered (.addForeignKey key) =>
      if altered = table then some key.contents else none
  | _ => none

/-- The relationship that a statement adds to a table. -/
def relationshipOf? (table : String) : Statement → Option (String × String × String)
  | .alterTable _ altered (.addRelationship r) =>
      if altered = table then some r.contents else none
  | _ => none

/-- A statement says which database it makes the current one. -/
theorem usedDatabase?_said (s : Statement) : usedDatabase? s.said = usedDatabase? s := by
  cases s <;> rfl

/-- A statement says which table it creates. -/
theorem createdTable?_said (s : Statement) : createdTable? s.said = createdTable? s := by
  cases s <;> rfl

/-- A statement says which foreign key it adds to a table. -/
theorem foreignKeyOf?_said (table : String) (s : Statement) :
    foreignKeyOf? table s.said = foreignKeyOf? table s := by
  cases s with
  | alterTable schema altered a => cases a <;> rfl
  | _ => rfl

/-- A statement says which relationship it adds to a table. -/
theorem relationshipOf?_said (table : String) (s : Statement) :
    relationshipOf? table s.said = relationshipOf? table s := by
  cases s with
  | alterTable schema altered a => cases a <;> rfl
  | _ => rfl

/-- What is found out from what statements say is the same where they say the same. -/
theorem filterMap_eq_of_map_said_eq {γ : Type} {f : Statement → Option γ}
    (hf : ∀ s, f s.said = f s) {list list' : List Statement}
    (h : list.map said = list'.map said) : list.filterMap f = list'.filterMap f := by
  have hsaid : f ∘ said = f := funext hf
  rw [← hsaid, ← List.filterMap_map, h, List.filterMap_map]

end Statement

/-! ## What the statements of a script add -/

namespace Database

open Statement

variable (db : Database) (defaultSchema : String) (create : Bool)

/-- A script makes its database the current one. -/
theorem filterMap_usedDatabase? :
    (db.script defaultSchema create).filterMap usedDatabase? = [db.name] := by
  rw [filterMap_script _ _ _ (fun _ => rfl) fun _ => rfl]
  simp [usedDatabase?]

/-- A script creates the tables of its database in their order. -/
theorem filterMap_createdTable? :
    (db.script defaultSchema create).filterMap createdTable? = db.tables.toList.map Table.bare := by
  rw [filterMap_script _ _ _ (fun _ => rfl) fun _ => rfl, List.map_eq_flatMap]
  simp [createdTable?]

variable {db} {t : Table} (ht : t ∈ db.tables.toList)
include ht

/-- What is found of the parts of one table is found in this table. -/
theorem flatMap_filterMap_ite {α β : Type} (parts : Table → List α) (g : α → β) :
    (db.tables.toList.flatMap fun u => (parts u).filterMap fun part =>
        if u.name = t.name then some (g part) else none) = (parts t).map g := by
  rw [← Catalog.flatMap_ite_of_mem ht fun u => (parts u).map g]
  refine congrArg (List.flatMap · db.tables.toList) (funext fun u => ?_)
  by_cases hu : u.name = t.name <;> simp [hu]

/-- A script adds the foreign keys of a table to this table, in their order. -/
theorem filterMap_foreignKeyOf? :
    (db.script defaultSchema create).filterMap (foreignKeyOf? t.name)
      = t.foreignKeys.toList.map ForeignKey.contents := by
  have hkeys := flatMap_filterMap_ite ht (fun u => u.foreignKeys.toList) ForeignKey.contents
  rw [filterMap_script _ _ _ (fun _ => rfl) fun _ => rfl, ← hkeys]
  simp [foreignKeyOf?]

/-- A script adds the relationships of a table to this table, in their order. -/
theorem filterMap_relationshipOf? :
    (db.script defaultSchema create).filterMap (relationshipOf? t.name)
      = t.relationships.toList.map Relationship.contents := by
  have hrelationships :=
    flatMap_filterMap_ite ht (fun u => u.relationships.toList) Relationship.contents
  rw [filterMap_script _ _ _ (fun _ => rfl) fun _ => rfl, ← hrelationships]
  simp [relationshipOf?]

end Database

/-! ## Unambiguous scripts -/

/-- A table consists of what its creation says and of what is added to it. -/
theorem Table.contents_eq {t u : Table} (hbare : t.bare = u.bare)
    (hkeys : t.foreignKeys.toList.map ForeignKey.contents
      = u.foreignKeys.toList.map ForeignKey.contents)
    (hrelationships : t.relationships.toList.map Relationship.contents
      = u.relationships.toList.map Relationship.contents) : t.contents = u.contents := by
  obtain ⟨hname, hschema, hkey, hshard, hcolumns, -, -⟩ := Table.mk.inj hbare
  rw [contents, contents, hname, hschema, hkey, hshard, hcolumns, hkeys, hrelationships]

/-- Whether the script of a database is legible: names are without quotes and line feeds, types are
standard, and conditions are without line feeds. -/
structure Database.IsLegible (db : Database) : Prop where
  /-- The names are legible. -/
  names : ∀ name ∈ db.identifiers, Naming.IsLegible name
  /-- The types are standard. -/
  types : ∀ t ∈ db.tables.toList, ∀ c ∈ t.columns.toList, c.type.IsStandard
  /-- The conditions are lines. -/
  conditions : ∀ t ∈ db.tables.toList, ∀ r ∈ t.relationships.toList, '\n' ∉ r.condition.toList

namespace Database

open Statement

variable {db db' : Database}

/-- The statements of a legible script are legible. -/
theorem IsLegible.of_mem_script (h : db.IsLegible) {defaultSchema : String} {create : Bool}
    {s : Statement} (hs : s ∈ db.script defaultSchema create) : s.IsLegible := by
  have hname : Naming.IsLegible db.name := h.names _ (by simp [identifiers])
  have hnames : ∀ {t : Table}, t ∈ db.tables.toList → ∀ name ∈ t.identifiers,
      Naming.IsLegible name := fun ht name hname => h.names name (mem_identifiers ht hname)
  rcases mem_script_cases hs with (rfl | rfl | ⟨schema, hschema, rfl⟩) | ⟨t, ht, hs⟩
  · exact hname
  · exact hname
  · exact h.names _ (by simp [identifiers, hschema])
  · have hschema : Naming.IsLegible t.schema := hnames ht _ (by simp [Table.identifiers])
    have htable : Naming.IsLegible t.name := hnames ht _ (by simp [Table.identifiers])
    rcases hs with rfl | rfl | ⟨key, hkey, rfl⟩ | ⟨r, hr, rfl⟩
    · exact ⟨hschema, htable⟩
    · exact {
        schema := hschema
        name := htable
        columns := fun c hc =>
          ⟨hnames ht _ (Table.name_mem_identifiers hc), h.types t ht c hc⟩
        primaryKey := fun name hname => hnames ht _ (by simp [Table.identifiers, hname])
        shardKey := fun key hkey name hname =>
          hnames ht _ (by simp [Table.identifiers, hkey, hname]) }
    · exact ⟨hschema, htable, fun name hname =>
        hnames ht _ (Table.mem_identifiers_of_foreignKey hkey hname)⟩
    · exact ⟨hschema, htable, fun name hname =>
        hnames ht _ (Table.mem_identifiers_of_relationship hr hname), h.conditions t ht r hr⟩

/-- **Scripts are unambiguous.** Databases with one script, written without a case style, have one
name, and their tables consist of the same, in the same order: name and schema, columns, keys,
foreign keys and relationships, but for the tables that the last two start from. Names are to be
without quotes and line feeds, types standard, and conditions without line feeds. -/
theorem contents_eq_of_databaseScript_eq {w : Writer} (hstyle : w.style = .unchanged)
    (h : db.IsLegible) (h' : db'.IsLegible) {create : Bool}
    (heq : w.databaseScript db create = w.databaseScript db' create) :
    db.name = db'.name
      ∧ db.tables.toList.map Table.contents = db'.tables.toList.map Table.contents := by
  have hplain : ∀ list, w.script list = Writer.plain.script list := fun list => by
    rw [Writer.script, Writer.script, Writer.statement_of_unchanged hstyle]
  have hsaid : (db.script w.defaultSchema create).map Statement.said
      = (db'.script w.defaultSchema create).map Statement.said := by
    rw [Writer.databaseScript, Writer.databaseScript, hplain, hplain] at heq
    exact Writer.map_said_eq_of_script_eq (fun s hs => h.of_mem_script hs)
      (fun s hs => h'.of_mem_script hs) heq
  constructor
  · have hname := filterMap_eq_of_map_said_eq usedDatabase?_said hsaid
    rw [filterMap_usedDatabase?, filterMap_usedDatabase?] at hname
    exact (List.cons.inj hname).1
  · have hbare := filterMap_eq_of_map_said_eq createdTable?_said hsaid
    rw [filterMap_createdTable?, filterMap_createdTable?] at hbare
    refine map_eq_map_of_map_eq hbare fun t ht u hu htu => ?_
    -- Tables that are created alike have one name, so the same keys are added to them.
    have hname : t.name = u.name := (Table.mk.inj htu).1
    have hkeys := filterMap_eq_of_map_said_eq (foreignKeyOf?_said t.name) hsaid
    have hrelationships := filterMap_eq_of_map_said_eq (relationshipOf?_said t.name) hsaid
    rw [filterMap_foreignKeyOf? _ _ ht, hname, filterMap_foreignKeyOf? _ _ hu] at hkeys
    rw [filterMap_relationshipOf? _ _ ht, hname, filterMap_relationshipOf? _ _ hu]
      at hrelationships
    exact Table.contents_eq htu hkeys hrelationships

/-- Databases whose foreign keys and relationships start from different tables have one script. -/
theorem contents_eq_of_databaseScript_eq_shop :
    let orders (source : String) : Table :=
      ⟨"orders", "sales", ["id"], some ⟨["id"], 8⟩,
        .ofList [⟨"id", .int⟩, ⟨"buyer", .varchar "(20)"⟩],
        .ofList [⟨"order_buyer", source, ["buyer"], "customers", ["name"]⟩],
        .ofList [⟨"order_seen", source, "customers", "orders.buyer = customers.name"⟩]⟩
    let customers : Table :=
      ⟨"customers", "people", [], none, .ofList [⟨"name", .varchar ""⟩], .empty, .empty⟩
    let shop (source : String) : Database :=
      ⟨"shop", .ofList [orders source, customers], ⟨[("sales", 1), ("people", 1)]⟩⟩
    (shop "orders").IsLegible ∧ (shop "elsewhere").IsLegible ∧ shop "orders" ≠ shop "elsewhere"
      ∧ Writer.plain.databaseScript (shop "orders") true
        = Writer.plain.databaseScript (shop "elsewhere") true
      ∧ (shop "orders").tables.toList.map Table.contents
        = (shop "elsewhere").tables.toList.map Table.contents := by
  intro orders customers shop
  have hlegible : ∀ source, (shop source).IsLegible := fun source => {
    names := by
      have hnames : (shop source).identifiers
          = (shop "").identifiers := rfl
      rw [hnames]
      decide +kernel
    types := by
      refine List.forall_mem_cons.2 ⟨List.forall_mem_cons.2 ⟨trivial, ?_⟩, ?_⟩
      · exact List.forall_mem_singleton.2 (.inr ⟨['2', '0'], by decide, rfl⟩)
      · exact List.forall_mem_singleton.2 (List.forall_mem_singleton.2 (.inl rfl))
    conditions := by
      have hcondition : '\n' ∉ "orders.buyer = customers.name".toList := by decide
      exact List.forall_mem_cons.2 ⟨List.forall_mem_singleton.2 hcondition,
        List.forall_mem_singleton.2 (by simp [customers])⟩ }
  have hsaid : ((shop "orders").script Writer.plain.defaultSchema true).map Statement.said
      = ((shop "elsewhere").script Writer.plain.defaultSchema true).map Statement.said := rfl
  have hscript : Writer.plain.databaseScript (shop "orders") true
      = Writer.plain.databaseScript (shop "elsewhere") true := by
    rw [Writer.databaseScript, Writer.databaseScript, ← Writer.script_map_said, hsaid,
      Writer.script_map_said]
  exact ⟨hlegible _, hlegible _, by decide +kernel, hscript,
    (contents_eq_of_databaseScript_eq rfl (hlegible _) (hlegible _) hscript).2⟩

end Database

end Schemata
