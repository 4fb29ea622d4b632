import Schemata.Proofs.Sides

/-! # What a comparison reports

Two databases agree when their tables have the same names and tables of one name have the same
parts, whatever the schemas, the name of the database and the order inside catalogs. A comparison
has a change about an item exactly when the databases differ in that item, and so it has none
exactly when they agree. -/

namespace Schemata

/-- An item that a change to a table can be about. -/
inductive Item where
  /-- The existence of the table, which comes into being. -/
  | creation
  /-- The existence of the table, which goes. -/
  | removal
  /-- The primary key. -/
  | primaryKey
  /-- The shard key. -/
  | shardKey
  /-- The foreign key of a given name. -/
  | foreignKey (key : String)
  /-- The relationship of a given name. -/
  | relationship (relationship : String)
  /-- The column of a given name. -/
  | column (column : String)
  deriving DecidableEq, Repr

/-- The item that a change is about. -/
def ChangeAction.item : ChangeAction → Item
  | .tableCreated _ => .creation
  | .tableDropped _ => .removal
  | .primaryKeyAdded _ | .primaryKeyDropped => .primaryKey
  | .shardKeyAdded _ | .shardKeyDropped => .shardKey
  | .foreignKeyAdded key => .foreignKey key.name
  | .foreignKeyDropped key => .foreignKey key
  | .relationshipAdded relationship => .relationship relationship.name
  | .relationshipDropped relationship => .relationship relationship
  | .columnAdded column | .columnDropped column | .columnModified column => .column column.name

/-! ## Differences and agreement -/

/-- Whether two tables of one name differ in an item. Foreign keys that are the same up to the order
of their columns do not differ, and of columns only the types count. -/
def Table.DiffersIn (a b : Table) : Item → Prop
  | .creation | .removal => False
  | .primaryKey => a.primaryKey ≠ b.primaryKey
  | .shardKey => a.shardKey ≠ b.shardKey
  | .foreignKey key =>
      ¬ Option.Rel (fun x y => x.same y = true) (a.foreignKeys.get? key) (b.foreignKeys.get? key)
  | .relationship key => a.relationships.get? key ≠ b.relationships.get? key
  | .column key => (a.columns.get? key).map (·.type) ≠ (b.columns.get? key).map (·.type)

/-- Whether a database differs from another in an item of the tables of a given name. -/
def Database.DiffersIn (db₁ db₂ : Database) (table : String) : Item → Prop
  | .creation => table ∉ db₁.tableNames ∧ table ∈ db₂.tableNames
  | .removal => table ∈ db₁.tableNames ∧ table ∉ db₂.tableNames
  | item =>
      ∃ t₁ t₂, db₁.table? table = some t₁ ∧ db₂.table? table = some t₂ ∧ t₁.DiffersIn t₂ item

/-- Two tables agree in all their parts. -/
structure Table.Agrees (a b : Table) : Prop where
  /-- The primary keys have the same columns in the same order. -/
  primaryKey : a.primaryKey = b.primaryKey
  /-- The tables are spread over shards alike. -/
  shardKey : a.shardKey = b.shardKey
  /-- Under every name there are foreign keys that are the same, or none. -/
  foreignKeys : ∀ key,
    Option.Rel (fun x y => x.same y = true) (a.foreignKeys.get? key) (b.foreignKeys.get? key)
  /-- The relationships are equal. -/
  relationships : ∀ key, a.relationships.get? key = b.relationships.get? key
  /-- The columns have the same names and types. -/
  columns : ∀ key, (a.columns.get? key).map (·.type) = (b.columns.get? key).map (·.type)

/-- Agreement of tables is symmetric. -/
theorem Table.Agrees.symm {a b : Table} (h : a.Agrees b) : b.Agrees a where
  primaryKey := h.primaryKey.symm
  shardKey := h.shardKey.symm
  foreignKeys := by
    intro key
    have hsame := h.foreignKeys key
    cases ha : a.foreignKeys.get? key <;> cases hb : b.foreignKeys.get? key <;>
      simp_all [ForeignKey.same_comm]
  relationships key := (h.relationships key).symm
  columns key := (h.columns key).symm

/-- A table agrees with itself. -/
theorem Table.Agrees.refl (t : Table) : t.Agrees t where
  primaryKey := rfl
  shardKey := rfl
  foreignKeys := by
    intro key
    cases t.foreignKeys.get? key <;> simp [ForeignKey.same_self]
  relationships _ := rfl
  columns _ := rfl

/-- Two databases agree in their tables. -/
structure Database.Agrees (db₁ db₂ : Database) : Prop where
  /-- The tables have the same names. -/
  names : ∀ table, table ∈ db₁.tableNames ↔ table ∈ db₂.tableNames
  /-- Tables of one name agree. -/
  tables : ∀ table t₁ t₂, db₁.table? table = some t₁ → db₂.table? table = some t₂ → t₁.Agrees t₂

/-- Databases agree that hold, under every name, tables that agree or none. -/
theorem Database.agrees_of_rel {db₁ db₂ : Database}
    (h : ∀ table, Option.Rel Table.Agrees (db₁.table? table) (db₂.table? table)) :
    db₁.Agrees db₂ where
  names table := by
    have hrel := h table
    cases h₁ : db₁.table? table <;> cases h₂ : db₂.table? table <;>
      simp_all [mem_tableNames_iff]
  tables table t₁ t₂ h₁ h₂ := by
    have hrel := h table
    rw [h₁, h₂] at hrel
    exact Option.rel_some_some.1 hrel

/-- A database that agrees with another has its tables. -/
theorem Database.Agrees.exists_table? {db₁ db₂ : Database} (h : db₁.Agrees db₂) {table : String}
    {t₂ : Table} (found : db₂.table? table = some t₂) :
    ∃ t₁, db₁.table? table = some t₁ ∧ t₁.Agrees t₂ := by
  obtain ⟨t₁, h₁⟩ := (mem_tableNames_iff _ _).1
    ((h.names table).2 ((mem_tableNames_iff _ _).2 ⟨t₂, found⟩))
  exact ⟨t₁, h₁, h.tables table t₁ t₂ h₁ found⟩

/-- Tables agree exactly when they differ in no item. -/
theorem Table.agrees_iff (a b : Table) : a.Agrees b ↔ ∀ item, ¬ a.DiffersIn b item := by
  constructor
  · intro h item
    cases item with
    | creation => exact id
    | removal => exact id
    | primaryKey => exact not_not_intro h.primaryKey
    | shardKey => exact not_not_intro h.shardKey
    | foreignKey key => exact not_not_intro (h.foreignKeys key)
    | relationship key => exact not_not_intro (h.relationships key)
    | column key => exact not_not_intro (h.columns key)
  · intro h
    exact {
      primaryKey := Classical.not_not.1 (h .primaryKey)
      shardKey := Classical.not_not.1 (h .shardKey)
      foreignKeys := fun key => Classical.not_not.1 (h (.foreignKey key))
      relationships := fun key => Classical.not_not.1 (h (.relationship key))
      columns := fun key => Classical.not_not.1 (h (.column key)) }

/-- Databases differ in an item in which tables of one name differ. -/
theorem Database.differsIn_of_tables {db₁ db₂ : Database} {table : String} {t₁ t₂ : Table}
    {item : Item} (h₁ : db₁.table? table = some t₁) (h₂ : db₂.table? table = some t₂)
    (h : t₁.DiffersIn t₂ item) : db₁.DiffersIn db₂ table item := by
  cases item with
  | creation => exact h.elim
  | removal => exact h.elim
  | _ => exact ⟨t₁, t₂, h₁, h₂, h⟩

/-- Databases agree exactly when they differ in no item of any table. -/
theorem Database.agrees_iff (db₁ db₂ : Database) :
    db₁.Agrees db₂ ↔ ∀ table item, ¬ db₁.DiffersIn db₂ table item := by
  constructor
  · intro h table item hdiff
    cases item with
    | creation => exact hdiff.1 ((h.names table).2 hdiff.2)
    | removal => exact hdiff.2 ((h.names table).1 hdiff.1)
    | _ =>
        obtain ⟨t₁, t₂, h₁, h₂, hdiff⟩ := hdiff
        exact (t₁.agrees_iff t₂).1 (h.tables table t₁ t₂ h₁ h₂) _ hdiff
  · intro h
    refine ⟨fun table => ⟨fun h₁ => ?_, fun h₂ => ?_⟩, fun table t₁ t₂ h₁ h₂ => ?_⟩
    · exact Classical.not_not.1 fun h₂ => h table .removal ⟨h₁, h₂⟩
    · exact Classical.not_not.1 fun h₁ => h table .creation ⟨h₁, h₂⟩
    · exact (t₁.agrees_iff t₂).2 fun item hdiff => h table item (differsIn_of_tables h₁ h₂ hdiff)

/-! ## The items of a list of actions -/

/-- Whether one of some actions is about an item. -/
def ChangeAction.Touch (actions : List ChangeAction) (item : Item) : Prop :=
  ∃ action ∈ actions, action.item = item

namespace ChangeAction

/-- No action is about nothing. -/
@[simp] theorem touch_nil (item : Item) : ¬ Touch [] item := by simp [Touch]

/-- The items of actions one after the other. -/
@[simp] theorem touch_append (xs ys : List ChangeAction) (item : Item) :
    Touch (xs ++ ys) item ↔ Touch xs item ∨ Touch ys item := by
  simp only [Touch, List.mem_append, or_and_right, exists_or]

/-- The actions for a primary key are about it, and there are some exactly when it changes. -/
theorem touch_ofPrimaryKeys (a b : List String) (item : Item) :
    Touch (ofPrimaryKeys a b) item ↔ item = .primaryKey ∧ a ≠ b := by
  unfold ofPrimaryKeys
  split
  · simp [*]
  · split
    · simp [Touch, ChangeAction.item, eq_comm, *]
    · split <;> simp [Touch, ChangeAction.item, eq_comm, *]

/-- The actions for a shard key are about it, and there are some exactly when it changes. -/
theorem touch_ofShardKeys (a b : Option ShardKey) (item : Item) :
    Touch (ofShardKeys a b) item ↔ item = .shardKey ∧ a ≠ b := by
  unfold ofShardKeys
  split
  · simp
  · simp [Touch, ChangeAction.item, eq_comm]
  · simp [Touch, ChangeAction.item, eq_comm]
  · split <;> simp [Touch, ChangeAction.item, eq_comm, *]

/-- The actions for two catalogs are about the names under which the catalogs differ, when the
actions of a pairing are about its name and there are none exactly where its sides are related. -/
theorem touch_flatMap_pair {α : Type} [Named α] (c d : Catalog α)
    {actions : Pairing α → List ChangeAction} {about : String → Item} {related : α → α → Prop}
    (hitem : ∀ p ∈ c.pair d, ∀ action ∈ actions p, action.item = about p.key)
    (hnil : ∀ p : Pairing α, actions p = [] ↔ Option.Rel related p.left? p.right?) (item : Item) :
    Touch ((c.pair d).flatMap actions) item
      ↔ ∃ key, item = about key ∧ ¬ Option.Rel related (c.get? key) (d.get? key) := by
  constructor
  · rintro ⟨action, hmem, rfl⟩
    obtain ⟨p, hp, hmem⟩ := List.mem_flatMap.1 hmem
    obtain ⟨hleft, hright⟩ := (Catalog.mem_pair_iff c d p).1 hp
    refine ⟨p.key, hitem p hp action hmem, ?_⟩
    rw [hleft, hright, ← hnil]
    exact List.ne_nil_of_mem hmem
  · rintro ⟨key, rfl, hrel⟩
    have hname : key ∈ c.names ∨ key ∈ d.names := by
      -- Two look-ups that both fail are related.
      refine Catalog.mem_names_or ?_
      rintro ⟨hleft, hright⟩
      exact hrel (by rw [hleft, hright]; exact .none)
    obtain ⟨p, hp, rfl⟩ := Catalog.exists_mem_pair hname
    obtain ⟨hleft, hright⟩ := (Catalog.mem_pair_iff c d p).1 hp
    rw [hleft, hright, ← hnil] at hrel
    obtain ⟨action, hmem⟩ := List.exists_mem_of_ne_nil _ hrel
    exact ⟨action, List.mem_flatMap.2 ⟨p, hp, hmem⟩, hitem p hp action hmem⟩

/-- The actions that turn the things of one catalog into those of another are about the names under
which these are not the same, when each action is about the name of its thing. -/
theorem touch_ofPairing {α : Type} [Named α] (c d : Catalog α) {same : α → α → Bool}
    {drop add : α → ChangeAction} {turn : α → α → List ChangeAction} {about : String → Item}
    (hdrop : ∀ a, (drop a).item = about (Named.name a))
    (hadd : ∀ b, (add b).item = about (Named.name b)) (hne : ∀ a b, turn a b ≠ [])
    (hturn : ∀ a b, Named.name b = Named.name a →
      ∀ action ∈ turn a b, action.item = about (Named.name a)) (item : Item) :
    Touch ((c.pair d).flatMap (ofPairing same drop add turn)) item
      ↔ ∃ key, item = about key
        ∧ ¬ Option.Rel (fun x y => same x y = true) (c.get? key) (d.get? key) := by
  apply touch_flatMap_pair
  · intro p hp action hmem
    cases p with
    | first a =>
        obtain rfl := List.mem_singleton.1 hmem
        exact hdrop a
    | second b =>
        obtain rfl := List.mem_singleton.1 hmem
        exact hadd b
    | both a b =>
        -- Paired things share their name, so it does not matter which of them an action names.
        have hname : Named.name b = Named.name a := Catalog.name_eq_of_both_mem hp
        rw [ofPairing] at hmem
        split at hmem
        · cases hmem
        · exact hturn a b hname action hmem
  · intro p
    cases p <;> simp [ofPairing, Pairing.left?, Pairing.right?, hne]

/-- The actions for foreign keys are about the names under which they are not the same. -/
theorem touch_ofForeignKeys (c d : Catalog ForeignKey) (item : Item) :
    Touch ((c.pair d).flatMap ofForeignKeys) item
      ↔ ∃ key, item = .foreignKey key
        ∧ ¬ Option.Rel (fun x y => x.same y = true) (c.get? key) (d.get? key) := by
  apply touch_ofPairing
  · exact fun _ => rfl
  · exact fun _ => rfl
  · exact fun _ _ => List.cons_ne_nil _ _
  · intro a b hname action hmem
    rw [List.mem_cons, List.mem_singleton] at hmem
    rcases hmem with rfl | rfl
    · rfl
    · exact congrArg Item.foreignKey hname

/-- The actions for relationships are about the names under which they are not equal. -/
theorem touch_ofRelationships (c d : Catalog Relationship) (item : Item) :
    Touch ((c.pair d).flatMap ofRelationships) item
      ↔ ∃ key, item = .relationship key
        ∧ ¬ Option.Rel (fun x y => (x == y) = true) (c.get? key) (d.get? key) := by
  apply touch_ofPairing
  · exact fun _ => rfl
  · exact fun _ => rfl
  · exact fun _ _ => List.cons_ne_nil _ _
  · intro a b hname action hmem
    rw [List.mem_cons, List.mem_singleton] at hmem
    rcases hmem with rfl | rfl
    · rfl
    · exact congrArg Item.relationship hname

/-- The actions for columns are about the names under which the types are not equal. -/
theorem touch_ofColumns (c d : Catalog Column) (item : Item) :
    Touch ((c.pair d).flatMap ofColumns) item
      ↔ ∃ key, item = .column key
        ∧ ¬ Option.Rel (fun x y => (x.type == y.type) = true) (c.get? key) (d.get? key) := by
  apply touch_ofPairing
  · exact fun _ => rfl
  · exact fun _ => rfl
  · exact fun _ _ => List.cons_ne_nil _ _
  · intro a b hname action hmem
    obtain rfl := List.mem_singleton.1 hmem
    exact congrArg Item.column hname

/-- Options are related by equal images exactly when their images are equal. -/
theorem rel_image_iff {α β : Type} (f : α → β) (a b : Option α) :
    Option.Rel (fun x y => f x = f y) a b ↔ a.map f = b.map f := by
  cases a <;> cases b <;> simp

/-- The actions for two tables are about exactly the items in which the tables differ. -/
theorem touch_ofTables (a b : Table) (item : Item) :
    Touch (ofTables a b) item ↔ a.DiffersIn b item := by
  have hrel : ∀ key, Option.Rel (· = ·) (a.relationships.get? key) (b.relationships.get? key)
      ↔ a.relationships.get? key = b.relationships.get? key := by
    intro key
    simpa using rel_image_iff id (a.relationships.get? key) (b.relationships.get? key)
  simp only [ofTables, touch_append, touch_ofPrimaryKeys, touch_ofShardKeys, touch_ofForeignKeys,
    touch_ofRelationships, touch_ofColumns, beq_iff_eq, hrel, rel_image_iff]
  cases item <;> simp [Table.DiffersIn]

end ChangeAction

/-! ## The items of a comparison -/

/-- Whether a change is about an item of the tables of a given name. -/
def Change.IsAbout (c : Change) (table : String) (item : Item) : Prop :=
  c.target.table = table ∧ c.action.item = item

namespace Database

/-- Where only the first database has a table, the databases differ in its removal alone. -/
theorem differsIn_iff_of_left {db₁ db₂ : Database} {table : String} {t : Table}
    (h₁ : db₁.table? table = some t) (h₂ : db₂.table? table = none) (item : Item) :
    db₁.DiffersIn db₂ table item ↔ item = .removal := by
  cases item <;> simp [DiffersIn, mem_tableNames_iff, h₁, h₂]

/-- Where only the second database has a table, the databases differ in its creation alone. -/
theorem differsIn_iff_of_right {db₁ db₂ : Database} {table : String} {t : Table}
    (h₁ : db₁.table? table = none) (h₂ : db₂.table? table = some t) (item : Item) :
    db₁.DiffersIn db₂ table item ↔ item = .creation := by
  cases item <;> simp [DiffersIn, mem_tableNames_iff, h₁, h₂]

/-- Where both databases have a table, they differ where the tables do. -/
theorem differsIn_iff_of_both {db₁ db₂ : Database} {table : String} {t₁ t₂ : Table}
    (h₁ : db₁.table? table = some t₁) (h₂ : db₂.table? table = some t₂) (item : Item) :
    db₁.DiffersIn db₂ table item ↔ t₁.DiffersIn t₂ item := by
  cases item <;> simp [DiffersIn, Table.DiffersIn, mem_tableNames_iff, h₁, h₂]

/-- The changes for the tables of one name are about the items in which the databases differ under
this name. -/
theorem exists_mem_changesFor_iff {db₁ db₂ : Database} {p : Pairing Table}
    (hp : p ∈ db₁.tables.pair db₂.tables) (table : String) (item : Item) :
    (∃ c ∈ db₁.changesFor p, c.IsAbout table item)
      ↔ p.key = table ∧ db₁.DiffersIn db₂ table item := by
  obtain ⟨hleft, hright⟩ := (Catalog.mem_pair_iff _ _ _).1 hp
  by_cases hkey : p.key = table
  · subst hkey
    cases p with
    | first t =>
        rw [differsIn_iff_of_left hleft hright]
        simp [changesFor, Change.IsAbout, place, ChangeAction.item, Pairing.key, eq_comm]
    | second t =>
        rw [differsIn_iff_of_right hleft hright]
        simp [changesFor, Change.IsAbout, place, ChangeAction.item, Pairing.key, eq_comm]
    | both t₁ t₂ =>
        rw [differsIn_iff_of_both hleft hright, ← ChangeAction.touch_ofTables]
        simp only [changesFor, List.mem_map]
        constructor
        · rintro ⟨_, ⟨action, hmem, rfl⟩, -, hitem⟩
          exact ⟨trivial, action, hmem, hitem⟩
        · rintro ⟨-, action, hmem, hitem⟩
          exact ⟨_, ⟨action, hmem, rfl⟩, rfl, hitem⟩
  · -- Every change names its own table, so none is about another name.
    cases p <;> simp_all [changesFor, Change.IsAbout, place, Pairing.key]

/-- The changes to a database are about exactly the items in which it differs from the other. -/
theorem exists_mem_changesTo_iff (db₁ db₂ : Database) (table : String) (item : Item) :
    (∃ c ∈ db₁.changesTo db₂, c.IsAbout table item) ↔ db₁.DiffersIn db₂ table item := by
  have hflat : (∃ c ∈ db₁.changesTo db₂, c.IsAbout table item)
      ↔ ∃ p ∈ db₁.tables.pair db₂.tables, ∃ c ∈ db₁.changesFor p, c.IsAbout table item := by
    simp only [changesTo, List.mem_flatMap]
    grind
  rw [hflat]
  constructor
  · rintro ⟨p, hp, hc⟩
    exact ((exists_mem_changesFor_iff hp table item).1 hc).2
  · intro hdiff
    have hname : table ∈ db₁.tables.names ∨ table ∈ db₂.tables.names := by
      cases item with
      | creation => exact .inr hdiff.2
      | removal => exact .inl hdiff.1
      | _ =>
          obtain ⟨t₁, _, h₁, _⟩ := hdiff
          exact .inl ((mem_tableNames_iff db₁ table).2 ⟨t₁, h₁⟩)
    obtain ⟨p, hp, rfl⟩ := Catalog.exists_mem_pair hname
    exact ⟨p, hp, (exists_mem_changesFor_iff hp p.key item).2 ⟨rfl, hdiff⟩⟩

/-- A database needs no changes exactly when it agrees with the other. -/
theorem changesTo_eq_nil_iff (db₁ db₂ : Database) : db₁.changesTo db₂ = [] ↔ db₁.Agrees db₂ := by
  rw [agrees_iff]
  simp only [← exists_mem_changesTo_iff]
  constructor
  · rintro h table item ⟨c, hc, -⟩
    simp [h] at hc
  · intro h
    refine List.eq_nil_iff_forall_not_mem.2 fun c hc => ?_
    exact h c.target.table c.action.item ⟨c, hc, rfl, rfl⟩

/-- Agreement of databases is symmetric. -/
theorem Agrees.symm {db₁ db₂ : Database} (h : db₁.Agrees db₂) : db₂.Agrees db₁ :=
  ⟨fun table => (h.names table).symm, fun table t₂ t₁ h₂ h₁ => (h.tables table t₁ t₂ h₁ h₂).symm⟩

/-- A comparison is empty exactly when the databases agree. -/
theorem isEmpty_compare_iff (db₁ db₂ : Database) :
    (db₁.compare db₂).isEmpty = true ↔ db₁.Agrees db₂ := by
  simp only [compare_eq, Comparison.isEmpty, Bool.and_eq_true, List.isEmpty_iff,
    changesTo_eq_nil_iff]
  exact ⟨And.left, fun h => ⟨h, h.symm⟩⟩

/-- **A comparison reports every difference and nothing else.** Either list has a change about an
item of the tables of a name exactly when its database differs there from the other one: a creation
or a removal for a table that only one of them has, and for tables of both exactly the primary key,
the shard key, the foreign keys, the relationships and the columns that differ. So there is nothing
to change exactly when the databases agree. -/
theorem compare_exact (db₁ db₂ : Database) :
    (∀ table item, (∃ c ∈ (db₁.compare db₂).first, c.IsAbout table item)
        ↔ db₁.DiffersIn db₂ table item)
      ∧ (∀ table item, (∃ c ∈ (db₁.compare db₂).second, c.IsAbout table item)
        ↔ db₂.DiffersIn db₁ table item)
      ∧ ((db₁.compare db₂).isEmpty = true ↔ db₁.Agrees db₂) := by
  refine ⟨?_, ?_, isEmpty_compare_iff db₁ db₂⟩
  · simpa only [compare_eq] using exists_mem_changesTo_iff db₁ db₂
  · simpa only [compare_eq] using exists_mem_changesTo_iff db₂ db₁

end Database

end Schemata
