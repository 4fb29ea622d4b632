import Schemata.Comparison
import Schemata.Proofs.Pairing

/-! # The sides of a comparison

A comparison builds the changes for both databases at once. Here the changes for the first database
are listed on their own, and the comparison is shown to hold this list for the two databases in
either order. A comparison is therefore its own mirror image. -/

namespace Schemata

/-! ## What one table needs -/

namespace ChangeAction

/-- What turns the first of two primary keys into the second. -/
def ofPrimaryKeys (a b : List String) : List ChangeAction :=
  if a = b then []
  else if a.isEmpty then [.primaryKeyAdded b]
  else if b.isEmpty then [.primaryKeyDropped]
  else [.primaryKeyDropped, .primaryKeyAdded b]

/-- What turns the first of two shard keys into the second. -/
def ofShardKeys : Option ShardKey → Option ShardKey → List ChangeAction
  | none, none => []
  | none, some b => [.shardKeyAdded b]
  | some _, none => [.shardKeyDropped]
  | some a, some b => if a = b then [] else [.shardKeyAdded b]

/-- What turns the first of two things of one name into the second: one that is alone goes or comes,
and of two that are not the same the one is turned into the other. -/
def ofPairing {α : Type} (same : α → α → Bool) (drop add : α → ChangeAction)
    (turn : α → α → List ChangeAction) : Pairing α → List ChangeAction
  | .first a => [drop a]
  | .second b => [add b]
  | .both a b => if same a b then [] else turn a b

/-- What turns the first of two foreign keys of one name into the second. -/
def ofForeignKeys : Pairing ForeignKey → List ChangeAction :=
  ofPairing ForeignKey.same (.foreignKeyDropped ·.name) .foreignKeyAdded fun a b =>
    [.foreignKeyDropped a.name, .foreignKeyAdded b]

/-- What turns the first of two relationships of one name into the second. -/
def ofRelationships : Pairing Relationship → List ChangeAction :=
  ofPairing (· == ·) (.relationshipDropped ·.name) .relationshipAdded fun a b =>
    [.relationshipDropped a.name, .relationshipAdded b]

/-- What turns the first of two columns of one name into the second. -/
def ofColumns : Pairing Column → List ChangeAction :=
  ofPairing (fun a b => a.type == b.type) .columnDropped .columnAdded fun _ b => [.columnModified b]

/-- What turns the parts of the first of two tables into those of the second. -/
def ofTables (a b : Table) : List ChangeAction :=
  ofPrimaryKeys a.primaryKey b.primaryKey ++ ofShardKeys a.shardKey b.shardKey
    ++ (a.foreignKeys.pair b.foreignKeys).flatMap ofForeignKeys
    ++ (a.relationships.pair b.relationships).flatMap ofRelationships
    ++ (a.columns.pair b.columns).flatMap ofColumns

end ChangeAction

open ChangeAction

/-! ## What one database needs -/

namespace Database

/-- The changes to a database for the tables of one name. -/
def changesFor (db : Database) : Pairing Table → List Change
  | .first t => [⟨db.place t, .tableDropped t⟩]
  | .second t => [⟨db.place t, .tableCreated t⟩]
  | .both t₁ t₂ => (ofTables t₁ t₂).map (⟨db.place t₁, ·⟩)

/-- The changes that would make the first of two databases match the second. -/
def changesTo (db₁ db₂ : Database) : List Change :=
  (db₁.tables.pair db₂.tables).flatMap db₁.changesFor

/-- A change removes a table that only the first database has, creates one that only the second has,
or is one of the actions for two tables of one name. -/
theorem mem_changesTo_cases {db₁ db₂ : Database} {c : Change} (h : c ∈ db₁.changesTo db₂) :
    (∃ t, c = ⟨db₁.place t, .tableDropped t⟩
        ∧ db₁.table? t.name = some t ∧ db₂.table? t.name = none)
      ∨ (∃ t, c = ⟨db₁.place t, .tableCreated t⟩
        ∧ db₁.table? t.name = none ∧ db₂.table? t.name = some t)
      ∨ ∃ t₁ t₂, ∃ action ∈ ofTables t₁ t₂, c = ⟨db₁.place t₁, action⟩
        ∧ db₁.table? t₁.name = some t₁ ∧ db₂.table? t₁.name = some t₂ := by
  obtain ⟨p, hp, hc⟩ := List.mem_flatMap.1 h
  obtain ⟨hleft, hright⟩ := (Catalog.mem_pair_iff _ _ _).1 hp
  cases p with
  | first t => exact .inl ⟨t, List.mem_singleton.1 hc, hleft, hright⟩
  | second t => exact .inr (.inl ⟨t, List.mem_singleton.1 hc, hleft, hright⟩)
  | both t₁ t₂ =>
      obtain ⟨action, hmem, rfl⟩ := List.mem_map.1 hc
      exact .inr (.inr ⟨t₁, t₂, action, hmem, rfl, hleft, hright⟩)

/-- Every action for two tables of one name is a change. -/
theorem mem_changesTo_of_mem_ofTables {db₁ db₂ : Database} {t₁ t₂ : Table} {action : ChangeAction}
    (h₁ : db₁.table? t₁.name = some t₁) (h₂ : db₂.table? t₁.name = some t₂)
    (hmem : action ∈ ofTables t₁ t₂) : ⟨db₁.place t₁, action⟩ ∈ db₁.changesTo db₂ := by
  have hp : .both t₁ t₂ ∈ db₁.tables.pair db₂.tables := (Catalog.mem_pair_iff _ _ _).2 ⟨h₁, h₂⟩
  exact List.mem_flatMap.2 ⟨_, hp, List.mem_map_of_mem hmem⟩

end Database

/-! ## Both sides of a comparison -/

namespace Places

variable (p : Places)

/-- Changes one after the other are the changes of the actions one after the other. -/
theorem changes_append (a b c d : List ChangeAction) :
    p.changes a b ++ p.changes c d = p.changes (a ++ c) (b ++ d) := by
  show (⟨_, _⟩ : Comparison) = _
  simp only [changes, List.map_append]

/-- Both sides of the changes for primary keys. -/
theorem primaryKeys_eq (a b : List String) :
    p.primaryKeys a b = p.changes (ofPrimaryKeys a b) (ofPrimaryKeys b a) := by
  by_cases hab : a = b
  · simp [primaryKeys, ofPrimaryKeys, hab, changes, Comparison.empty]
  · have hba : ¬ b = a := fun e => hab e.symm
    -- Two lists without columns are equal, so at most one of these is empty.
    cases a with
    | nil =>
        have hb : b.isEmpty = false := by simpa using hba
        simp [primaryKeys, ofPrimaryKeys, hab, hba, hb]
    | cons x a => cases b <;> simp [primaryKeys, ofPrimaryKeys, hab, hba]

/-- Both sides of the changes for shard keys. -/
theorem shardKeys_eq (a b : Option ShardKey) :
    p.shardKeys a b = p.changes (ofShardKeys a b) (ofShardKeys b a) := by
  match a, b with
  | none, none => rfl
  | none, some _ => rfl
  | some _, none => rfl
  | some a, some b =>
      by_cases hab : a = b
      · simp [shardKeys, ofShardKeys, hab, changes, Comparison.empty]
      · have hba : ¬ b = a := fun e => hab e.symm
        simp [shardKeys, ofShardKeys, hab, hba]

/-- Both sides of the changes for foreign keys of one name. -/
theorem foreignKey_eq (x : Pairing ForeignKey) :
    p.foreignKey x = p.changes (ofForeignKeys x) (ofForeignKeys x.swap) := by
  match x with
  | .first _ => rfl
  | .second _ => rfl
  | .both a b =>
      have hcomm : b.same a = a.same b := b.same_comm a
      by_cases hab : a.same b = true
      · simp [foreignKey, ofForeignKeys, ofPairing, Pairing.swap, hcomm, hab, changes,
          Comparison.empty]
      · simp [foreignKey, ofForeignKeys, ofPairing, Pairing.swap, hcomm, hab]

/-- Both sides of the changes for relationships of one name. -/
theorem relationship_eq (x : Pairing Relationship) :
    p.relationship x = p.changes (ofRelationships x) (ofRelationships x.swap) := by
  match x with
  | .first _ => rfl
  | .second _ => rfl
  | .both a b =>
      by_cases hab : a = b
      · simp [relationship, ofRelationships, ofPairing, Pairing.swap, hab, changes,
          Comparison.empty]
      · have hba : ¬ b = a := fun e => hab e.symm
        simp [relationship, ofRelationships, ofPairing, Pairing.swap, hab, hba]

/-- Both sides of the changes for columns of one name. -/
theorem column_eq (x : Pairing Column) :
    p.column x = p.changes (ofColumns x) (ofColumns x.swap) := by
  match x with
  | .first _ => rfl
  | .second _ => rfl
  | .both a b =>
      by_cases hab : a.type = b.type
      · simp [column, ofColumns, ofPairing, Pairing.swap, hab, changes, Comparison.empty]
      · have hba : ¬ b.type = a.type := fun e => hab e.symm
        simp [column, ofColumns, ofPairing, Pairing.swap, hab, hba]

/-- Both sides of the changes for the paired things of two catalogs. -/
theorem join_map_pair {α : Type} [Named α] (c d : Catalog α)
    (both : Pairing α → Comparison) (one : Pairing α → List ChangeAction)
    (h : ∀ x, both x = p.changes (one x) (one x.swap)) :
    Comparison.join ((c.pair d).map both)
      = p.changes ((c.pair d).flatMap one) ((d.pair c).flatMap one) := by
  -- The other side pairs the catalogs the other way around.
  rw [← Catalog.map_swap_pair c d]
  simp [Comparison.join, changes, List.flatMap_map, List.map_flatMap, h]

end Places

namespace Database

/-- Both sides of the changes for the tables of one name. -/
theorem compareTables_eq (db₁ db₂ : Database) (x : Pairing Table) :
    compareTables db₁ db₂ x = ⟨db₁.changesFor x, db₂.changesFor x.swap⟩ := by
  match x with
  | .first _ => rfl
  | .second _ => rfl
  | .both t₁ t₂ =>
      let p : Places := ⟨db₁.place t₁, db₂.place t₂⟩
      show p.primaryKeys _ _ ++ p.shardKeys _ _ ++ _ ++ _ ++ _
        = p.changes (ofTables t₁ t₂) (ofTables t₂ t₁)
      rw [p.primaryKeys_eq, p.shardKeys_eq, p.join_map_pair _ _ _ _ p.foreignKey_eq,
        p.join_map_pair _ _ _ _ p.relationship_eq, p.join_map_pair _ _ _ _ p.column_eq]
      simp only [p.changes_append, ofTables]

/-- A comparison lists, on each side, the changes that this side needs. -/
theorem compare_eq (db₁ db₂ : Database) :
    db₁.compare db₂ = ⟨db₁.changesTo db₂, db₂.changesTo db₁⟩ := by
  simp only [compare, changesTo, Comparison.join, List.flatMap_map, compareTables_eq,
    ← Catalog.map_swap_pair db₁.tables db₂.tables]

/-- **A comparison is its own mirror image.** Comparing in the other order exchanges the two lists
of changes and alters nothing in them, so what any writer makes of one side in one order is what it
makes of the other side in the other. -/
theorem compare_mirror (db₁ db₂ : Database) :
    db₂.compare db₁ = (db₁.compare db₂).swap ∧
      ∀ w : Writer, w.changes (db₂.compare db₁).second = w.changes (db₁.compare db₂).first
        ∧ w.changes (db₂.compare db₁).first = w.changes (db₁.compare db₂).second := by
  have hswap : db₂.compare db₁ = (db₁.compare db₂).swap := by
    rw [compare_eq, compare_eq]
    rfl
  refine ⟨hswap, fun w => ?_⟩
  rw [hswap]
  exact ⟨rfl, rfl⟩

end Database

end Schemata
