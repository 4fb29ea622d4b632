import Schemata.Proofs.Agreement
import Schemata.Proofs.Calls

/-! # The constraints that a script adds

A script adds a foreign key or a relationship by a statement of its own, and it does so exactly for
the tables of both databases: where the table of the first lacks what the table of the second holds.
A table that only the second database has is created with its columns and its keys alone, so its
foreign keys and its relationships are in the list of changes but not in the text. -/

namespace Schemata

/-- Whether a catalog lacks a thing: what it has under the name of this, if anything, is not the
same. -/
def Catalog.Lacks {α : Type} [Named α] (same : α → α → Bool) (c : Catalog α) (x : α) : Prop :=
  ∀ y, c.get? (Named.name x) = some y → same y x = false

/-! ## Actions -/

namespace ChangeAction

/-- The actions that exchange the things of two catalogs add exactly the things of the second that
the first lacks. -/
theorem mem_exchange_iff {α : Type} [Named α] (c d : Catalog α) {same : α → α → Bool}
    {drop add : α → ChangeAction} (hne : ∀ a b, add b ≠ drop a)
    (hinj : ∀ a b, add a = add b → a = b) (x : α) :
    add x ∈ (c.pair d).flatMap (ofPairing same drop add fun a b => [drop a, add b])
      ↔ d.get? (Named.name x) = some x ∧ c.Lacks same x := by
  rw [List.mem_flatMap]
  constructor
  · rintro ⟨p, hp, hmem⟩
    obtain ⟨hleft, hright⟩ := (Catalog.mem_pair_iff c d p).1 hp
    cases p with
    | first a => exact absurd (List.mem_singleton.1 hmem) (hne a x)
    | second b =>
        obtain rfl := hinj _ _ (List.mem_singleton.1 hmem)
        refine ⟨hright, fun y hy => ?_⟩
        cases hleft.symm.trans hy
    | both a b =>
        -- Both catalogs have the name, so the thing is added where the two are not the same.
        have hname : Named.name b = Named.name a := Catalog.name_eq_of_both_mem hp
        rw [ofPairing] at hmem
        split at hmem
        · cases hmem
        · rename_i hsame
          rw [List.mem_cons, List.mem_singleton] at hmem
          obtain rfl := hinj _ _ (hmem.resolve_left (hne a x))
          refine ⟨hname ▸ hright, fun y hy => ?_⟩
          rw [hname] at hy
          cases hleft.symm.trans hy
          exact Bool.eq_false_iff.2 hsame
  · rintro ⟨hx, hlacks⟩
    obtain ⟨p, hp, hkey⟩ := Catalog.exists_mem_pair (c := c) (.inr (Catalog.mem_names_of_get? hx))
    obtain ⟨hleft, hright⟩ := (Catalog.mem_pair_iff c d p).1 hp
    rw [hkey] at hleft hright
    refine ⟨p, hp, ?_⟩
    cases p with
    | first a => cases hx.symm.trans hright
    | second b =>
        cases hx.symm.trans hright
        exact List.mem_singleton_self _
    | both a b =>
        cases hx.symm.trans hright
        rw [ofPairing, hlacks a hleft]
        exact List.mem_cons_of_mem _ (List.mem_singleton_self _)

/-- An action for two tables is one for the parts that it is about. -/
theorem mem_ofTables_iff (a b : Table) (action : ChangeAction) :
    action ∈ ofTables a b ↔
      match action.item with
      | .creation | .removal => False
      | .primaryKey => action ∈ ofPrimaryKeys a.primaryKey b.primaryKey
      | .shardKey => action ∈ ofShardKeys a.shardKey b.shardKey
      | .foreignKey _ => action ∈ (a.foreignKeys.pair b.foreignKeys).flatMap ofForeignKeys
      | .relationship _ => action ∈ (a.relationships.pair b.relationships).flatMap ofRelationships
      | .column _ => action ∈ (a.columns.pair b.columns).flatMap ofColumns := by
  have hprimary : action ∈ ofPrimaryKeys a.primaryKey b.primaryKey → action.item = .primaryKey :=
    fun h => ((touch_ofPrimaryKeys _ _ _).1 ⟨action, h, rfl⟩).1
  have hshard : action ∈ ofShardKeys a.shardKey b.shardKey → action.item = .shardKey :=
    fun h => ((touch_ofShardKeys _ _ _).1 ⟨action, h, rfl⟩).1
  have hfks : action ∈ (a.foreignKeys.pair b.foreignKeys).flatMap ofForeignKeys →
      ∃ key, action.item = .foreignKey key := fun h =>
    ((touch_ofForeignKeys _ _ _).1 ⟨action, h, rfl⟩).imp fun _ => And.left
  have hrels : action ∈ (a.relationships.pair b.relationships).flatMap ofRelationships →
      ∃ key, action.item = .relationship key := fun h =>
    ((touch_ofRelationships _ _ _).1 ⟨action, h, rfl⟩).imp fun _ => And.left
  have hcols : action ∈ (a.columns.pair b.columns).flatMap ofColumns →
      ∃ key, action.item = .column key := fun h =>
    ((touch_ofColumns _ _ _).1 ⟨action, h, rfl⟩).imp fun _ => And.left
  simp only [ofTables, List.mem_append]
  -- The item tells in which of the five sections the action may stand.
  cases hitem : action.item <;> simp only [hitem, reduceCtorEq, exists_false] at * <;> grind

/-- The actions for two tables add exactly the foreign keys of the second that the first lacks. -/
theorem foreignKeyAdded_mem_ofTables_iff (a b : Table) (key : ForeignKey) :
    .foreignKeyAdded key ∈ ofTables a b
      ↔ b.foreignKeys.get? key.name = some key ∧ a.foreignKeys.Lacks ForeignKey.same key :=
  (mem_ofTables_iff a b _).trans
    (mem_exchange_iff _ _ (fun _ _ => by simp) (fun _ _ => by simp) key)

/-- The actions for two tables add exactly the relationships of the second that the first lacks. -/
theorem relationshipAdded_mem_ofTables_iff (a b : Table) (r : Relationship) :
    .relationshipAdded r ∈ ofTables a b
      ↔ b.relationships.get? r.name = some r ∧ a.relationships.Lacks (· == ·) r :=
  (mem_ofTables_iff a b _).trans
    (mem_exchange_iff _ _ (fun _ _ => by simp) (fun _ _ => by simp) r)

end ChangeAction

/-! ## Statements -/

namespace Change

/-- A change that alters a table alters the one that it speaks of. -/
theorem target_of_statement {c : Change} {schema table : String} {alteration : Alteration}
    (h : c.statement = .alterTable schema table alteration) :
    c.target.schema = schema ∧ c.target.table = table := by
  obtain ⟨target, action⟩ := c
  cases action <;> simp_all [statement]

/-- Only a change for a foreign key adds it to the table that the change speaks of. -/
theorem statement_eq_addForeignKey_iff (c : Change) (schema table : String) (key : ForeignKey) :
    c.statement = .alterTable schema table (.addForeignKey key)
      ↔ c.target.schema = schema ∧ c.target.table = table ∧ c.action = .foreignKeyAdded key := by
  obtain ⟨target, action⟩ := c
  cases action <;> simp [statement]

/-- Only a change for a relationship adds it to the table that the change speaks of. -/
theorem statement_eq_addRelationship_iff (c : Change) (schema table : String) (r : Relationship) :
    c.statement = .alterTable schema table (.addRelationship r)
      ↔ c.target.schema = schema ∧ c.target.table = table ∧ c.action = .relationshipAdded r := by
  obtain ⟨target, action⟩ := c
  cases action <;> simp [statement]

end Change

/-- The text of changes contains the text of each of their statements. -/
theorem Writer.statement_isInfix_changes (w : Writer) {list : List Change} {s : Statement}
    (h : s ∈ list.map Change.statement) :
    (w.statement s).toList <:+: (w.changes list).toList := by
  rw [changes, statements, String.toList_join]
  obtain ⟨before, later, heq⟩ := List.append_of_mem (List.mem_map_of_mem (f := w.statement) h)
  rw [heq, List.flatMap_append, List.flatMap_cons, ← List.append_assoc]
  exact List.infix_append _ _ _

namespace Database

open ChangeAction

/-- A script alters no table but those of both databases, and these by the actions for the two
tables. -/
theorem alterTable_mem_statements_iff (db₁ db₂ : Database) (schema table : String)
    (alteration : Alteration) :
    .alterTable schema table alteration ∈ (db₁.changesTo db₂).map Change.statement
      ↔ ∃ t₁ t₂, db₁.table? table = some t₁ ∧ db₂.table? table = some t₂
        ∧ ∃ action ∈ ofTables t₁ t₂,
          (⟨db₁.place t₁, action⟩ : Change).statement = .alterTable schema table alteration := by
  constructor
  · intro h
    obtain ⟨c, hc, hstatement⟩ := List.mem_map.1 h
    rcases mem_changesTo_cases hc with
      ⟨t, rfl, -⟩ | ⟨t, rfl, -⟩ | ⟨t₁, t₂, action, hmem, rfl, h₁, h₂⟩
    · cases hstatement
    · cases hstatement
    · obtain rfl : t₁.name = table := (Change.target_of_statement hstatement).2
      exact ⟨t₁, t₂, h₁, h₂, action, hmem, hstatement⟩
  · rintro ⟨t₁, t₂, h₁, h₂, action, hmem, hstatement⟩
    obtain rfl : t₁.name = table := Catalog.name_of_get? h₁
    exact List.mem_map.2 ⟨_, mem_changesTo_of_mem_ofTables h₁ h₂ hmem, hstatement⟩

/-- A script makes an alteration that comes of one action exactly where the tables of both databases
need this action. -/
theorem alterTable_mem_statements_iff_action {action : ChangeAction} {alteration : Alteration}
    (honly : ∀ (c : Change) schema table, c.statement = .alterTable schema table alteration
      ↔ c.target.schema = schema ∧ c.target.table = table ∧ c.action = action)
    (db₁ db₂ : Database) (schema table : String) :
    .alterTable schema table alteration ∈ (db₁.changesTo db₂).map Change.statement
      ↔ ∃ t₁ t₂, db₁.table? table = some t₁ ∧ db₂.table? table = some t₂ ∧ t₁.schema = schema
        ∧ action ∈ ofTables t₁ t₂ := by
  rw [alterTable_mem_statements_iff]
  constructor
  · rintro ⟨t₁, t₂, h₁, h₂, _, hmem, hstatement⟩
    obtain ⟨hschema, -, rfl⟩ := (honly _ _ _).1 hstatement
    exact ⟨t₁, t₂, h₁, h₂, hschema, hmem⟩
  · rintro ⟨t₁, t₂, h₁, h₂, hschema, hmem⟩
    have hname : t₁.name = table := Catalog.name_of_get? h₁
    exact ⟨t₁, t₂, h₁, h₂, action, hmem, (honly _ _ _).2 ⟨hschema, hname, rfl⟩⟩

/-- **A script adds exactly the constraints that shared tables lack.** A foreign key or a
relationship is added to a table by a statement of the script exactly when both databases have the
table, the one of the second holds the constraint, and the one of the first lacks it. The text of
the script contains each of its statements. -/
theorem added_constraints_exact (db₁ db₂ : Database) :
    let script := (db₁.compare db₂).first.map Change.statement
    (∀ schema table key, .alterTable schema table (.addForeignKey key) ∈ script
        ↔ ∃ t₁ t₂, db₁.table? table = some t₁ ∧ db₂.table? table = some t₂ ∧ t₁.schema = schema
          ∧ t₂.foreignKeys.get? key.name = some key ∧ t₁.foreignKeys.Lacks ForeignKey.same key)
      ∧ (∀ schema table r, .alterTable schema table (.addRelationship r) ∈ script
        ↔ ∃ t₁ t₂, db₁.table? table = some t₁ ∧ db₂.table? table = some t₂ ∧ t₁.schema = schema
          ∧ t₂.relationships.get? r.name = some r ∧ t₁.relationships.Lacks (· == ·) r)
      ∧ ∀ (w : Writer), ∀ s ∈ script,
        (w.statement s).toList <:+: (w.changes (db₁.compare db₂).first).toList := by
  intro script
  have hscript : script = (db₁.changesTo db₂).map Change.statement := by
    simp only [script, compare_eq]
  refine ⟨fun schema table key => ?_, fun schema table r => ?_, fun w s hs => ?_⟩
  · rw [hscript, alterTable_mem_statements_iff_action
      fun c s t => c.statement_eq_addForeignKey_iff s t key]
    simp only [foreignKeyAdded_mem_ofTables_iff]
  · rw [hscript, alterTable_mem_statements_iff_action
      fun c s t => c.statement_eq_addRelationship_iff s t r]
    simp only [relationshipAdded_mem_ofTables_iff]
  · exact w.statement_isInfix_changes hs

/-- A table that the script creates refers to itself, and the text does not say so: neither the
foreign key nor the relationship is added anywhere. -/
theorem created_staff_without_constraints :
    let db₁ : Database := ⟨"old", .empty, .empty⟩
    let db₂ := (⟨"new", .empty, .empty⟩ : Database).run [
      .addTable "staff" "office" [.addColumn "id" "INT", .addColumn "boss" "INT",
        .setPrimaryKey (.one "id"), .referTo (.one "boss") "staff" (.one "id") (some "boss"),
        .relateTo "staff" "staff.boss = staff.boss" (some "peers")]]
    let text := Writer.plain.changes (db₁.compare db₂).first
    db₁.Built ∧ db₂.Built ∧ db₁.table? "staff" = none
      ∧ ∃ staff key r, db₂.table? "staff" = some staff
        ∧ staff.foreignKeys.get? "boss" = some key ∧ staff.relationships.get? "peers" = some r
        ∧ ¬ (Writer.plain.alteration (.addForeignKey key)).toList <:+: text.toList
        ∧ ¬ (Writer.plain.alteration (.addRelationship r)).toList <:+: text.toList := by
  intro db₁ db₂ text
  have hold : Database.make "old" = .ok db₁ := rfl
  have hnew : Database.make "new" = .ok ⟨"new", .empty, .empty⟩ := rfl
  -- The only change creates the table.
  have htext : text = "CREATE TABLE \"office\".\"staff\" (\n    \"id\" INT\n   ,\"boss\" INT\n"
      ++ "   ,CONSTRAINT PRIMARY KEY (\"id\")\n);\n" := by
    have hpair : db₁.tables.pair db₂.tables = db₂.tables.toList.map .second := by
      rw [Catalog.pair_eq_merge List.Pairwise.nil (List.pairwise_singleton _ _)]
      exact Pairing.merge_nil_left _
    simp only [text, compare_eq, changesTo, hpair]
    rfl
  refine ⟨.make hold, (Built.make hnew).run _, rfl, _, _, _, rfl, rfl, rfl, ?_, ?_⟩
  · rw [htext]
    decide +kernel
  · rw [htext]
    decide +kernel

end Database

end Schemata
