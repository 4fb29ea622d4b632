import Schemata.Catalog
import Schemata.ColumnType
import Schemata.Error

/-! # Columns -/

namespace Schemata

/-- A column: a name and a type. -/
structure Column where
  /-- The name, which is not blank in a column made by `Column.make`. -/
  name : String
  /-- The type. -/
  type : ColumnType
  deriving DecidableEq, Repr, Inhabited

instance : Named Column := ⟨Column.name⟩

/-- A column goes under its name. -/
@[simp] theorem Column.named_eq (x : Column) : Named.name x = x.name := rfl

namespace Column

/-- A column of a known type. -/
def ofType (name : String) (type : ColumnType) : Except Error Column := do
  return { name := ← requireText .columnName name, type }

/-- A column whose type is given by its text. A blank name is noticed before a wrong type. -/
def make (name type : String) : Except Error Column := do
  let name ← requireText .columnName name
  match ColumnType.ofText? type with
  | some type => return { name, type }
  | none => throw (.invalidType type name)

/-- A column is made exactly of a name that is not blank and of the text of a type. -/
theorem make_eq_ok_iff (name type : String) (column : Column) :
    make name type = .ok column ↔ Text.isBlank name = false
      ∧ ∃ known, ColumnType.ofText? type = some known ∧ column = ⟨name, known⟩ := by
  simp only [make, bind_eq_ok_iff, requireText_eq_ok_iff]
  cases h : ColumnType.ofText? type with
  | none => simp [throw, throwThe, MonadExceptOf.throw]
  | some known =>
      constructor
      · rintro ⟨_, ⟨hblank, rfl⟩, heq⟩
        cases heq
        exact ⟨hblank, known, rfl, rfl⟩
      · rintro ⟨hblank, _, hknown, rfl⟩
        cases hknown
        exact ⟨name, ⟨hblank, rfl⟩, rfl⟩

end Column

end Schemata
