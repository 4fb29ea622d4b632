import Schemata.Catalog
import Schemata.Key

/-! # Foreign keys

A foreign key pairs the columns of one table, position by position, with columns of another. Two
foreign keys are the same when they agree up to the order of the columns on each side. -/

namespace Schemata

/-- A reference from columns of one table to columns of another. -/
structure ForeignKey where
  /-- The name of the constraint. -/
  name : String
  /-- The table whose columns are constrained. -/
  source : String
  /-- The constrained columns. -/
  sourceKeys : List String
  /-- The table referred to. -/
  target : String
  /-- The columns referred to, in step with the constrained ones. -/
  targetKeys : List String
  deriving DecidableEq, Repr, Inhabited

instance : Named ForeignKey := ⟨ForeignKey.name⟩

/-- A foreign key goes under its name. -/
@[simp] theorem ForeignKey.named_eq (x : ForeignKey) : Named.name x = x.name := rfl

/-- Column names in the order of their code points. -/
def sortedNames (names : List String) : List String := names.mergeSort fun a b => decide (a ≤ b)

namespace ForeignKey

/-- The name of a foreign key that is given none. -/
def defaultName (source target : String) : String := s!"FK_{source}_to_{target}"

/-- A foreign key. The tables, the columns, the lengths of the two lists and the name are checked,
in this order. -/
def make (source : String) (sourceKeys : KeyColumns) (target : String) (targetKeys : KeyColumns)
    (name? : Option String) : Except Error ForeignKey := do
  let source ← requireText .foreignKeySource source
  let target ← requireText .foreignKeyTarget target
  let sourceKeys ← sourceKeys.checked .foreignKeySourceColumn
  let targetKeys ← targetKeys.checked .foreignKeyTargetColumn
  if sourceKeys.isEmpty then throw (.emptyForeignKey source target)
  if sourceKeys.length ≠ targetKeys.length then
    throw (.keyMismatch source target sourceKeys.length targetKeys.length)
  let name ←
    match name? with
    | some name => requireText .foreignKeyName name
    | none => pure (defaultName source target)
  return { name, source, sourceKeys, target, targetKeys }

/-- The name that a foreign key is given where it has none is not blank. -/
theorem isBlank_defaultName (source target : String) :
    Text.isBlank (defaultName source target) = false := by
  have hword : Text.isBlank "FK_" = false := by decide
  show Text.isBlank ("FK_" ++ source ++ "_to_" ++ target) = false
  simp [Text.isBlank_append, hword]

/-- A foreign key is made exactly of tables, columns and a name, if one is given, that are not
blank, and of as many columns on the one side as on the other, at least one. -/
theorem make_eq_ok_iff (source : String) (sourceKeys : KeyColumns) (target : String)
    (targetKeys : KeyColumns) (name? : Option String) (key : ForeignKey) :
    make source sourceKeys target targetKeys name? = .ok key
      ↔ Text.isBlank source = false ∧ Text.isBlank target = false
        ∧ (∀ column ∈ sourceKeys.toList, Text.isBlank column = false)
        ∧ (∀ column ∈ targetKeys.toList, Text.isBlank column = false)
        ∧ sourceKeys.toList ≠ [] ∧ sourceKeys.toList.length = targetKeys.toList.length
        ∧ (∀ name, name? = some name → Text.isBlank name = false)
        ∧ key = ⟨name?.getD (defaultName source target), source, sourceKeys.toList, target,
          targetKeys.toList⟩ := by
  simp only [make, KeyColumns.checked, bind_eq_ok_iff, requireText_eq_ok_iff,
    requireTexts_eq_ok_iff, refuse_eq_ok_iff, List.isEmpty_iff, ne_eq, Decidable.not_not]
  constructor
  · rintro ⟨_, ⟨hsource, rfl⟩, _, ⟨htarget, rfl⟩, _, ⟨hsources, rfl⟩, _, ⟨htargets, rfl⟩, hne,
      heven, h⟩
    cases name? with
    | none =>
        cases h
        exact ⟨hsource, htarget, hsources, htargets, hne, heven, by simp, rfl⟩
    | some given =>
        simp only [bind_eq_ok_iff, requireText_eq_ok_iff] at h
        obtain ⟨_, ⟨hgiven, rfl⟩, heq⟩ := h
        cases heq
        refine ⟨hsource, htarget, hsources, htargets, hne, heven, ?_, rfl⟩
        rintro _ ⟨⟩
        exact hgiven
  · rintro ⟨hsource, htarget, hsources, htargets, hne, heven, hname, rfl⟩
    refine ⟨_, ⟨hsource, rfl⟩, _, ⟨htarget, rfl⟩, _, ⟨hsources, rfl⟩, _, ⟨htargets, rfl⟩, hne,
      heven, ?_⟩
    cases name? with
    | none => rfl
    | some given =>
        simp only [bind_eq_ok_iff, requireText_eq_ok_iff]
        exact ⟨_, ⟨hname given rfl, rfl⟩, rfl⟩

/-- A foreign key that is made has a name, and as many columns on the one side as on the other, at
least one. -/
theorem of_make_eq_ok {source target : String} {sourceKeys targetKeys : KeyColumns}
    {name? : Option String} {key : ForeignKey}
    (h : make source sourceKeys target targetKeys name? = .ok key) :
    Text.isBlank key.name = false ∧ key.sourceKeys.length = key.targetKeys.length
      ∧ key.sourceKeys ≠ [] := by
  obtain ⟨-, -, -, -, hne, heven, hname, rfl⟩ := (make_eq_ok_iff ..).1 h
  refine ⟨?_, heven, hne⟩
  cases name? with
  | none => exact isBlank_defaultName source target
  | some name => exact hname name rfl

/-- Whether two foreign keys agree up to the order of the columns on each side. -/
def same (a b : ForeignKey) : Bool :=
  a.name == b.name && a.source == b.source && a.target == b.target
    && sortedNames a.sourceKeys == sortedNames b.sourceKeys
    && sortedNames a.targetKeys == sortedNames b.targetKeys

/-- A foreign key is the same as itself. -/
@[simp] theorem same_self (a : ForeignKey) : a.same a = true := by simp [same]

/-- Sameness of foreign keys is symmetric. -/
theorem same_comm (a b : ForeignKey) : a.same b = b.same a := by
  simp only [same, Bool.beq_comm]

/-- The pairs of columns that a foreign key joins. -/
def links (a : ForeignKey) : List (String × String) := a.sourceKeys.zip a.targetKeys

end ForeignKey

end Schemata
