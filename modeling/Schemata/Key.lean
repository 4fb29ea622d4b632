import Schemata.Error

/-! # Keys

A key is an ordered list of column names. The primary key of a table may be empty; a shard key names
at least one column and spreads the rows over at least one shard. -/

namespace Schemata

/-- The columns of a key as a caller gives them. -/
inductive KeyColumns where
  /-- A single column. -/
  | one (column : String)
  /-- A list of columns. -/
  | many (columns : List String)
  deriving DecidableEq, Repr

namespace KeyColumns

/-- The columns of a key, in order. -/
def toList : KeyColumns → List String
  | .one column => [column]
  | .many columns => columns

/-- Whether the key was given as a single column. -/
def isOne : KeyColumns → Bool
  | .one _ => true
  | .many _ => false

/-- A key is given as a single column exactly if it is one. -/
theorem isOne_iff {key : KeyColumns} : key.isOne = true ↔ ∃ column, key = .one column := by
  cases key <;> simp [isOne]

/-- The columns of a key, none of which may be blank. -/
def checked (role : Role) (columns : KeyColumns) : Except Error (List String) :=
  requireTexts role columns.toList

end KeyColumns

/-- How the rows of a table are spread over shards. -/
structure ShardKey where
  /-- The columns whose values are hashed. -/
  columns : List String
  /-- The number of shards. -/
  shards : Nat
  deriving DecidableEq, Repr

namespace ShardKey

/-- A shard key of at least one column and one shard. -/
def make (columns : KeyColumns) (shards : Nat) : Except Error ShardKey := do
  let columns ← columns.checked .shardKeyColumn
  if columns.isEmpty then throw .emptyShardKey
  if shards = 0 then throw .noShards
  return { columns, shards }

/-- A shard key is made exactly of columns that are not blank, at least one of them, and of at least
one shard. -/
theorem make_eq_ok_iff (columns : KeyColumns) (shards : Nat) (key : ShardKey) :
    make columns shards = .ok key ↔ (∀ column ∈ columns.toList, Text.isBlank column = false)
      ∧ columns.toList ≠ [] ∧ 0 < shards ∧ key = ⟨columns.toList, shards⟩ := by
  simp only [make, KeyColumns.checked, bind_eq_ok_iff, requireTexts_eq_ok_iff, refuse_eq_ok_iff,
    List.isEmpty_iff]
  constructor
  · rintro ⟨_, ⟨hblank, rfl⟩, hne, hpos, heq⟩
    exact ⟨hblank, hne, Nat.pos_of_ne_zero hpos, (Except.ok.inj heq).symm⟩
  · rintro ⟨hblank, hne, hpos, rfl⟩
    exact ⟨_, ⟨hblank, rfl⟩, hne, Nat.ne_of_gt hpos, rfl⟩

end ShardKey

end Schemata
