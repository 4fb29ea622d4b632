import Mathlib.Data.List.Basic
import Schemata.Proofs.ScriptText

/-! # The statements of a script

Which statements a script is made of, and which identifiers these are written with. A case style
reaches a statement through its identifiers only, and those of a script are identifiers of its
database. What is looked for in a script is found pass by pass. -/

namespace Schemata

/-! ## What a statement is written with -/

/-- The identifiers that an alteration is written with. -/
def Alteration.identifiers : Alteration → List String
  | .addPrimaryKey columns => columns
  | .dropPrimaryKey | .dropShardKey => []
  | .addShardKey key => key.columns
  | .addForeignKey key => key.identifiers
  | .addRelationship relationship => relationship.identifiers
  | .dropConstraint name | .dropColumn name => [name]
  | .addColumn column | .modifyColumn column => [column.name]

namespace Statement

/-- The identifiers that a statement is written with. -/
def identifiers : Statement → List String
  | .createDatabase name | .useDatabase name | .createSchema name => [name]
  | .createTable t =>
      [t.schema, t.name] ++ t.columnNames ++ t.primaryKey ++ (t.shardKey.map (·.columns)).getD []
  | .dropTable schema table => [schema, table]
  | .alterTable schema table alteration => [schema, table] ++ alteration.identifiers

/-- The table that a statement drops. -/
def droppedTable? : Statement → Option String
  | .dropTable _ table => some table
  | _ => none

/-- The table that a statement creates. -/
def createdName? : Statement → Option String
  | .createTable t => some t.name
  | _ => none

end Statement

namespace Writer

variable {w v : Writer}

/-- Writers that case the identifiers of an alteration alike write it alike. -/
theorem alteration_congr {a : Alteration}
    (h : ∀ name ∈ a.identifiers, w.cased name = v.cased name) :
    w.alteration a = v.alteration a := by
  have hident : ∀ name ∈ a.identifiers, w.ident name = v.ident name := fun name hname =>
    congrArg Naming.quote (h name hname)
  have hidents : ∀ names : List String, (∀ name ∈ names, name ∈ a.identifiers) →
      w.idents names = v.idents names := fun names hnames =>
    congrArg Naming.quoteList (List.map_congr_left fun name hname => h name (hnames name hname))
  unfold alteration
  cases a with
  | dropPrimaryKey => rfl
  | dropShardKey => rfl
  | addPrimaryKey columns => simp only [hidents columns fun _ => id]
  | addShardKey key => simp only [hidents key.columns fun _ => id]
  | addForeignKey key =>
      have hsource := hidents key.sourceKeys fun name hname => by
        simp [Alteration.identifiers, ForeignKey.identifiers, hname]
      have htarget := hidents key.targetKeys fun name hname => by
        simp [Alteration.identifiers, ForeignKey.identifiers, hname]
      simp only [hsource, htarget,
        hident key.name (by simp [Alteration.identifiers, ForeignKey.identifiers]),
        hident key.target (by simp [Alteration.identifiers, ForeignKey.identifiers])]
  | addRelationship r =>
      simp only [hident r.name (by simp [Alteration.identifiers, Relationship.identifiers]),
        hident r.target (by simp [Alteration.identifiers, Relationship.identifiers])]
  | dropConstraint name => simp only [hident name List.mem_cons_self]
  | dropColumn name => simp only [hident name List.mem_cons_self]
  | addColumn column => simp only [hident column.name List.mem_cons_self]
  | modifyColumn column => simp only [hident column.name List.mem_cons_self]

/-- A case style reaches the text of a statement through its identifiers only: writers that case
these alike write the statement alike. -/
theorem statement_congr {s : Statement}
    (h : ∀ name ∈ s.identifiers, w.cased name = v.cased name) : w.statement s = v.statement s := by
  have hident : ∀ name ∈ s.identifiers, w.ident name = v.ident name := fun name hname =>
    congrArg Naming.quote (h name hname)
  have hidents : ∀ names : List String, (∀ name ∈ names, name ∈ s.identifiers) →
      w.idents names = v.idents names := fun names hnames =>
    congrArg Naming.quoteList (List.map_congr_left fun name hname => h name (hnames name hname))
  cases s with
  | createTable t =>
      have hcolumns : (t.columns.toList.map fun c => w.ident c.name ++ " " ++ c.type.text)
          = t.columns.toList.map fun c => v.ident c.name ++ " " ++ c.type.text := by
        refine List.map_congr_left fun c hc => ?_
        have hname : c.name ∈ t.columnNames := List.mem_map_of_mem hc
        rw [hident c.name (by simp [Statement.identifiers, hname])]
      have hkey : w.idents t.primaryKey = v.idents t.primaryKey :=
        hidents _ fun name hname => by simp [Statement.identifiers, hname]
      have hend : w.tableEnd t.shardKey = v.tableEnd t.shardKey := by
        cases hshard : t.shardKey with
        | none => rfl
        | some key =>
            have hcolumns : w.idents key.columns = v.idents key.columns :=
              hidents _ fun name hname => by simp [Statement.identifiers, hshard, hname]
            rw [tableEnd_some, tableEnd_some, hcolumns]
      rw [statement_createTable, statement_createTable, tableItems, tableItems, hcolumns, hkey,
        hend, qualified, qualified, hident t.schema (by simp [Statement.identifiers]),
        hident t.name (by simp [Statement.identifiers])]
  | alterTable schema table a =>
      have halteration : w.alteration a = v.alteration a :=
        alteration_congr fun name hname => h name (List.mem_append_right _ hname)
      rw [statement_alterTable, statement_alterTable, halteration, qualified, qualified,
        hident schema (by simp [Statement.identifiers]),
        hident table (by simp [Statement.identifiers])]
  | dropTable schema table =>
      have htable := hident table (List.mem_cons_of_mem _ List.mem_cons_self)
      unfold statement
      simp only [qualified, hident schema List.mem_cons_self, htable]
  | createDatabase name =>
      unfold statement
      simp only [hident name List.mem_cons_self]
  | useDatabase name =>
      unfold statement
      simp only [hident name List.mem_cons_self]
  | createSchema name =>
      unfold statement
      simp only [hident name List.mem_cons_self]

end Writer

/-! ## The statements of a script -/

/-- Nothing is listed where nothing is listed for any member. -/
@[simp] theorem flatMap_const_nil {α β : Type} (xs : List α) :
    xs.flatMap (fun _ => ([] : List β)) = [] :=
  List.flatMap_eq_nil_iff.2 fun _ _ => rfl

namespace Database

open Statement

variable {db : Database} {defaultSchema : String} {create : Bool}

/-- The statements of a script: what opens it, and for each table that it is dropped and created and
that its foreign keys and relationships are added. -/
theorem mem_script_cases {s : Statement} (hs : s ∈ db.script defaultSchema create) :
    (s = .createDatabase db.name ∨ s = .useDatabase db.name
        ∨ ∃ schema ∈ db.schemaNames, s = .createSchema schema)
      ∨ ∃ t ∈ db.tables.toList, s = .dropTable t.schema t.name ∨ s = .createTable t
        ∨ (∃ key ∈ t.foreignKeys.toList, s = .alterTable t.schema t.name (.addForeignKey key))
        ∨ ∃ r ∈ t.relationships.toList, s = .alterTable t.schema t.name (.addRelationship r) := by
  simp only [script, List.mem_append] at hs
  rcases hs with ((hs | hs) | hs) | hs
  · refine .inl ?_
    cases create with
    | true =>
        simp only [openingStatements, if_true, List.mem_append, List.mem_cons, List.not_mem_nil,
          or_false, List.mem_map] at hs
        rcases hs with (hs | hs) | ⟨schema, hschema, hs⟩
        · exact .inl hs
        · exact .inr (.inl hs)
        · exact .inr (.inr ⟨schema, (List.mem_filter.1 hschema).1, hs.symm⟩)
    | false => exact .inr (.inl (List.mem_singleton.1 hs))
  all_goals obtain ⟨t, ht, hs⟩ := List.mem_flatMap.1 hs
  all_goals refine .inr ⟨t, ht, ?_⟩
  · simp only [List.mem_cons, List.not_mem_nil, or_false] at hs
    rcases hs with hs | hs
    · exact .inl hs
    · exact .inr (.inl hs)
  · obtain ⟨key, hkey, hs⟩ := List.mem_map.1 hs
    exact .inr (.inr (.inl ⟨key, hkey, hs.symm⟩))
  · obtain ⟨r, hr, hs⟩ := List.mem_map.1 hs
    exact .inr (.inr (.inr ⟨r, hr, hs.symm⟩))

/-- A script is written with the identifiers of its database. -/
theorem mem_identifiers_of_mem_script {s : Statement} (hs : s ∈ db.script defaultSchema create) :
    ∀ name ∈ s.identifiers, name ∈ db.identifiers := by
  rcases mem_script_cases hs with (rfl | rfl | ⟨schema, hschema, rfl⟩) | ⟨t, ht, hs⟩
  · exact List.forall_mem_singleton.2 (by simp [identifiers])
  · exact List.forall_mem_singleton.2 (by simp [identifiers])
  · exact List.forall_mem_singleton.2 (by simp [identifiers, hschema])
  · intro name hmem
    refine mem_identifiers ht ?_
    have hown : ∀ name ∈ [t.schema, t.name], name ∈ t.identifiers := by simp [Table.identifiers]
    rcases hs with rfl | rfl | ⟨key, hkey, rfl⟩ | ⟨r, hr, rfl⟩
    · exact hown name hmem
    · exact List.mem_append_left _ (List.mem_append_left _ hmem)
    · rcases List.mem_append.1 hmem with hmem | hmem
      · exact hown name hmem
      · exact Table.mem_identifiers_of_foreignKey hkey hmem
    · rcases List.mem_append.1 hmem with hmem | hmem
      · exact hown name hmem
      · exact Table.mem_identifiers_of_relationship hr hmem

variable (db defaultSchema create)

/-- What is found in a script, where nothing is found in statements that create a database or a
schema, is found pass by pass. -/
theorem filterMap_script {γ : Type} {f : Statement → Option γ}
    (hdatabase : ∀ database, f (.createDatabase database) = none)
    (hschema : ∀ schema, f (.createSchema schema) = none) :
    (db.script defaultSchema create).filterMap f
      = (f (.useDatabase db.name)).toList
        ++ (db.tables.toList.flatMap fun t =>
          (f (.dropTable t.schema t.name)).toList ++ (f (.createTable t)).toList)
        ++ (db.tables.toList.flatMap fun t => t.foreignKeys.toList.filterMap fun key =>
          f (.alterTable t.schema t.name (.addForeignKey key)))
        ++ db.tables.toList.flatMap fun t => t.relationships.toList.filterMap fun r =>
          f (.alterTable t.schema t.name (.addRelationship r)) := by
  have hopening : (db.openingStatements defaultSchema create).filterMap f
      = (f (.useDatabase db.name)).toList := by
    have hschemas : ∀ schemas : List String, (schemas.map createSchema).filterMap f = [] :=
      fun schemas => List.filterMap_eq_nil_iff.2 (List.forall_mem_map.2 fun s _ => hschema s)
    rw [openingStatements]
    cases create <;> cases huse : f (.useDatabase db.name) <;>
      simp [hdatabase, hschemas, huse]
  have htables : db.tableStatements.filterMap f = db.tables.toList.flatMap fun t =>
      (f (.dropTable t.schema t.name)).toList ++ (f (.createTable t)).toList := by
    rw [tableStatements, List.filterMap_flatMap]
    refine congrArg (List.flatMap · db.tables.toList) (funext fun t => ?_)
    cases hdrop : f (.dropTable t.schema t.name) <;> cases ht : f (.createTable t) <;>
      simp [hdrop, ht]
  have halter : ∀ {α : Type} (parts : Table → List α) (alteration : α → Alteration),
      (db.tables.toList.flatMap fun t => (parts t).map fun part =>
          .alterTable t.schema t.name (alteration part)).filterMap f
        = db.tables.toList.flatMap fun t => (parts t).filterMap fun part =>
          f (.alterTable t.schema t.name (alteration part)) := by
    intro α parts alteration
    rw [List.filterMap_flatMap]
    refine congrArg (List.flatMap · db.tables.toList) (funext fun t => ?_)
    rw [List.filterMap_map]
    rfl
  rw [script, List.filterMap_append, List.filterMap_append, List.filterMap_append, hopening,
    htables, foreignKeyStatements, halter, relationshipStatements, halter]

/-- A script drops the tables of its database, in their order. -/
theorem filterMap_droppedTable? :
    (db.script defaultSchema create).filterMap droppedTable? = db.tableNames := by
  rw [filterMap_script _ _ _ (fun _ => rfl) fun _ => rfl, tableNames, Catalog.names,
    List.map_eq_flatMap]
  simp [droppedTable?]

/-- A script creates the tables of its database, in their order. -/
theorem filterMap_createdName? :
    (db.script defaultSchema create).filterMap createdName? = db.tableNames := by
  rw [filterMap_script _ _ _ (fun _ => rfl) fun _ => rfl, tableNames, Catalog.names,
    List.map_eq_flatMap]
  simp [createdName?]

end Database

end Schemata
