import Schemata.Catalog
import Schemata.Error

/-! # Relationships

A relationship leads from one table to another under a condition that is kept as text. -/

namespace Schemata

/-- A named relationship between two tables. -/
structure Relationship where
  /-- The name of the relationship. -/
  name : String
  /-- The table that the relationship starts from. -/
  source : String
  /-- The table that the relationship leads to. -/
  target : String
  /-- The condition, in the words of the caller. -/
  condition : String
  deriving DecidableEq, Repr, Inhabited

instance : Named Relationship := ⟨Relationship.name⟩

/-- A relationship goes under its name. -/
@[simp] theorem Relationship.named_eq (x : Relationship) : Named.name x = x.name := rfl

namespace Relationship

/-- The name of a relationship that is given none. -/
def defaultName (source target : String) : String := s!"REL_{source}_to_{target}"

/-- A relationship. The tables, the condition and the name are checked, in this order. -/
def make (source target condition : String) (name? : Option String) :
    Except Error Relationship := do
  let source ← requireText .relationshipSource source
  let target ← requireText .relationshipTarget target
  let condition ← requireText .relationshipCondition condition
  let name ←
    match name? with
    | some name => requireText .relationshipName name
    | none => pure (defaultName source target)
  return { name, source, target, condition }

/-- The name that a relationship is given where it has none is not blank. -/
theorem isBlank_defaultName (source target : String) :
    Text.isBlank (defaultName source target) = false := by
  have hword : Text.isBlank "REL_" = false := by decide
  show Text.isBlank ("REL_" ++ source ++ "_to_" ++ target) = false
  simp [Text.isBlank_append, hword]

/-- A relationship is made exactly of tables, a condition and a name, if one is given, that are not
blank. -/
theorem make_eq_ok_iff (source target condition : String) (name? : Option String)
    (r : Relationship) :
    make source target condition name? = .ok r
      ↔ Text.isBlank source = false ∧ Text.isBlank target = false ∧ Text.isBlank condition = false
        ∧ (∀ name, name? = some name → Text.isBlank name = false)
        ∧ r = ⟨name?.getD (defaultName source target), source, target, condition⟩ := by
  simp only [make, bind_eq_ok_iff, requireText_eq_ok_iff]
  constructor
  · rintro ⟨_, ⟨hsource, rfl⟩, _, ⟨htarget, rfl⟩, _, ⟨hcondition, rfl⟩, h⟩
    cases name? with
    | none =>
        cases h
        exact ⟨hsource, htarget, hcondition, by simp, rfl⟩
    | some given =>
        simp only [bind_eq_ok_iff, requireText_eq_ok_iff] at h
        obtain ⟨_, ⟨hgiven, rfl⟩, heq⟩ := h
        cases heq
        refine ⟨hsource, htarget, hcondition, ?_, rfl⟩
        rintro _ ⟨⟩
        exact hgiven
  · rintro ⟨hsource, htarget, hcondition, hname, rfl⟩
    refine ⟨_, ⟨hsource, rfl⟩, _, ⟨htarget, rfl⟩, _, ⟨hcondition, rfl⟩, ?_⟩
    cases name? with
    | none => rfl
    | some given =>
        simp only [bind_eq_ok_iff, requireText_eq_ok_iff]
        exact ⟨_, ⟨hname given rfl, rfl⟩, rfl⟩

/-- A relationship that is made has a name. -/
theorem of_make_eq_ok {source target condition : String} {name? : Option String}
    {r : Relationship} (h : make source target condition name? = .ok r) :
    Text.isBlank r.name = false := by
  obtain ⟨-, -, -, hname, rfl⟩ := (make_eq_ok_iff ..).1 h
  cases name? with
  | none => exact isBlank_defaultName source target
  | some name => exact hname name rfl

end Relationship

end Schemata
