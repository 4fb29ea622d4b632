import Schemata.Ddl.Translate

/-! # The types that types are translated to

Whatever stands in the place of a type is translated, to one of eight types or to a text of a length
that fits 32 bits. -/

namespace Schemata.Ddl

/-- The types other than texts that types are translated to. -/
def targets : List ColumnType :=
  [.bigint, .int, .bool, .unknown, .double, .datetime, .time, .date]

/-- Whether types are translated to a type. -/
def IsTarget (type : ColumnType) : Prop :=
  type ∈ targets ∨ ∃ n ≤ maxNumber, type = .ofLength n

/-- A choice between types that types are translated to. -/
theorem IsTarget.ite {p : Prop} [Decidable p] {a b : ColumnType} (ha : IsTarget a)
    (hb : IsTarget b) : IsTarget (if p then a else b) := by
  split
  · exact ha
  · exact hb

/-- A number that is read is not too large. -/
theorem le_of_number? {digits : List Char} {n : Nat} (h : number? digits = some n) :
    n ≤ maxNumber := by
  unfold number? at h
  split at h
  · cases h
  · simp only at h
    split at h
    · cases h
      assumption
    · cases h

/-- A text type is translated to one of a length that fits. -/
theorem isTarget_ofLength (cs : List Char) : IsTarget (.ofLength (textLength cs)) := by
  refine .inr ⟨_, ?_, rfl⟩
  rw [textLength]
  cases h : (argument? cs).bind fun inner => number? (inner.filter Char.isDigit) with
  | none => exact Nat.zero_le _
  | some n =>
      obtain ⟨inner, -, hn⟩ := Option.bind_eq_some_iff.1 h
      exact le_of_number? hn

/-- The type of a number with an argument is one of three. -/
theorem isTarget_numberType (cs : List Char) : IsTarget (numberType cs) := by
  have hint : IsTarget .int := .inl (by decide)
  have hbigint : IsTarget .bigint := .inl (by decide)
  have hdouble : IsTarget .double := .inl (by decide)
  unfold numberType
  split
  · exact hbigint
  · split
    · exact hint
    · refine .ite ?_ hdouble
      split
      · exact .ite hint hbigint
      · exact hbigint

/-- Every type is translated to one of the types that types are translated to. -/
theorem isTarget_translate (cs : List Char) : IsTarget (translate cs) := by
  have htarget : ∀ type ∈ targets, IsTarget type := fun _ htype => .inl htype
  have hzero : IsTarget (.ofLength 0) := .inr ⟨0, Nat.zero_le _, rfl⟩
  rw [translate, translateWord]
  -- The rules in their order.
  exact .ite (htarget .bigint (by decide))
    <| .ite (htarget .int (by decide))
    <| .ite hzero
    <| .ite (htarget .int (by decide))
    <| .ite (htarget .bool (by decide))
    <| .ite (htarget .unknown (by decide))
    <| .ite (isTarget_numberType _)
    <| .ite (htarget .double (by decide))
    <| .ite (htarget .datetime (by decide))
    <| .ite (htarget .time (by decide))
    <| .ite (htarget .date (by decide))
    <| .ite (htarget .bool (by decide))
    <| .ite hzero
    <| .ite (isTarget_ofLength _) (htarget .unknown (by decide))

end Schemata.Ddl
