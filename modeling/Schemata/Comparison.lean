import Schemata.Change
import Schemata.Pairing

/-! # Comparing databases

A comparison lists, for each of two databases, the changes that would make it match the other.
Tables, foreign keys, relationships and columns are paired by name, so the lists are in the order
of names. Tables are told apart by name only: two tables of one name in different schemas are
compared with each other. -/

namespace Schemata

/-- The changes to each of two databases that would make it match the other. -/
structure Comparison where
  /-- The changes to the first database. -/
  first : List Change
  /-- The changes to the second database. -/
  second : List Change
  deriving DecidableEq

namespace Comparison

/-- No changes on either side. -/
def empty : Comparison := ⟨[], []⟩

/-- Changes followed by further changes, on each side. -/
def append (a b : Comparison) : Comparison := ⟨a.first ++ b.first, a.second ++ b.second⟩

instance : Append Comparison := ⟨append⟩

/-- The same comparison with the databases exchanged. -/
def swap (c : Comparison) : Comparison := ⟨c.second, c.first⟩

/-- Comparisons one after the other. -/
def join (parts : List Comparison) : Comparison :=
  ⟨parts.flatMap (·.first), parts.flatMap (·.second)⟩

/-- The first side of comparisons one after the other. -/
@[simp] theorem first_append (a b : Comparison) : (a ++ b).first = a.first ++ b.first := rfl

/-- The second side of comparisons one after the other. -/
@[simp] theorem second_append (a b : Comparison) : (a ++ b).second = a.second ++ b.second := rfl

/-- Exchanging the databases exchanges the sides part by part. -/
@[simp] theorem swap_append (a b : Comparison) : (a ++ b).swap = a.swap ++ b.swap := rfl

/-- Whether there is nothing to change. -/
def isEmpty (c : Comparison) : Bool := c.first.isEmpty && c.second.isEmpty

end Comparison

/-- The two places of a table that both databases have. -/
structure Places where
  /-- The place in the first database. -/
  first : TableRef
  /-- The place in the second database. -/
  second : TableRef
  deriving DecidableEq, Repr

namespace Places

/-- A comparison from what is changed on each side. -/
def changes (p : Places) (first second : List ChangeAction) : Comparison :=
  ⟨first.map (⟨p.first, ·⟩), second.map (⟨p.second, ·⟩)⟩

/-- The changes for a primary key. Where both tables have one, the old goes before the new comes. -/
def primaryKeys (p : Places) (a b : List String) : Comparison :=
  if a = b then .empty
  -- A table without a primary key has none to drop.
  else if a.isEmpty then p.changes [.primaryKeyAdded b] [.primaryKeyDropped]
  else if b.isEmpty then p.changes [.primaryKeyDropped] [.primaryKeyAdded a]
  else p.changes [.primaryKeyDropped, .primaryKeyAdded b] [.primaryKeyDropped, .primaryKeyAdded a]

/-- The changes for a shard key. A new shard key takes the place of the old one. -/
def shardKeys (p : Places) : Option ShardKey → Option ShardKey → Comparison
  | none, none => .empty
  | none, some b => p.changes [.shardKeyAdded b] [.shardKeyDropped]
  | some a, none => p.changes [.shardKeyDropped] [.shardKeyAdded a]
  | some a, some b => if a = b then .empty else p.changes [.shardKeyAdded b] [.shardKeyAdded a]

/-- The changes for foreign keys of one name. -/
def foreignKey (p : Places) : Pairing ForeignKey → Comparison
  | .first a => p.changes [.foreignKeyDropped a.name] [.foreignKeyAdded a]
  | .second b => p.changes [.foreignKeyAdded b] [.foreignKeyDropped b.name]
  | .both a b =>
      if a.same b then .empty
      else
        p.changes [.foreignKeyDropped a.name, .foreignKeyAdded b]
          [.foreignKeyDropped b.name, .foreignKeyAdded a]

/-- The changes for relationships of one name. -/
def relationship (p : Places) : Pairing Relationship → Comparison
  | .first a => p.changes [.relationshipDropped a.name] [.relationshipAdded a]
  | .second b => p.changes [.relationshipAdded b] [.relationshipDropped b.name]
  | .both a b =>
      if a = b then .empty
      else
        p.changes [.relationshipDropped a.name, .relationshipAdded b]
          [.relationshipDropped b.name, .relationshipAdded a]

/-- The changes for columns of one name. -/
def column (p : Places) : Pairing Column → Comparison
  | .first a => p.changes [.columnDropped a] [.columnAdded a]
  | .second b => p.changes [.columnAdded b] [.columnDropped b]
  | .both a b =>
      if a.type = b.type then .empty else p.changes [.columnModified b] [.columnModified a]

end Places

namespace Database

/-- The place of a table in a database. -/
def place (db : Database) (t : Table) : TableRef := ⟨db.name, t.schema, t.name⟩

/-- The changes for tables of one name. A table on one side only is dropped there or created on the
other side, in its own schema; the parts of a table on both sides are compared one by one. -/
def compareTables (db₁ db₂ : Database) : Pairing Table → Comparison
  | .first t => ⟨[⟨db₁.place t, .tableDropped t⟩], [⟨db₂.place t, .tableCreated t⟩]⟩
  | .second t => ⟨[⟨db₁.place t, .tableCreated t⟩], [⟨db₂.place t, .tableDropped t⟩]⟩
  | .both t₁ t₂ =>
      let p : Places := ⟨db₁.place t₁, db₂.place t₂⟩
      p.primaryKeys t₁.primaryKey t₂.primaryKey ++ p.shardKeys t₁.shardKey t₂.shardKey
        ++ .join ((t₁.foreignKeys.pair t₂.foreignKeys).map p.foreignKey)
        ++ .join ((t₁.relationships.pair t₂.relationships).map p.relationship)
        ++ .join ((t₁.columns.pair t₂.columns).map p.column)

/-- The changes that would make each of two databases match the other. -/
def compare (db₁ db₂ : Database) : Comparison :=
  .join ((db₁.tables.pair db₂.tables).map (compareTables db₁ db₂))

end Database

end Schemata
