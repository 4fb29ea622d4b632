import Schemata.Text.Search

/-! # Column types

The types of the target engine. A `VARCHAR` carries whatever text follows the word, which is as a
rule a length in parentheses. -/

namespace Schemata

/-- A column type of the target engine. -/
inductive ColumnType where
  /-- A double precision number. -/
  | double
  /-- A single precision number. -/
  | float
  /-- A truth value. -/
  | bool
  /-- A 32 bit integer. -/
  | int
  /-- A 64 bit integer. -/
  | bigint
  /-- A calendar date. -/
  | date
  /-- A date with a time of day. -/
  | datetime
  /-- A point in time. -/
  | timestamp
  /-- A time of day. -/
  | time
  /-- A type without a counterpart in the target engine. -/
  | unknown
  /-- A text, with what follows the word `VARCHAR`. -/
  | varchar (rest : String)
  deriving DecidableEq, Repr, Inhabited

namespace ColumnType

/-- The word that every text type begins with. -/
def varcharWord : List Char := ['V', 'A', 'R', 'C', 'H', 'A', 'R']

/-- The text of a type. -/
def text : ColumnType → String
  | .double => "DOUBLE"
  | .float => "FLOAT"
  | .bool => "BOOL"
  | .int => "INT"
  | .bigint => "BIGINT"
  | .date => "DATE"
  | .datetime => "DATETIME"
  | .timestamp => "TIMESTAMP"
  | .time => "TIME"
  | .unknown => "UNKNOWN"
  | .varchar rest => String.ofList (varcharWord ++ rest.toList)

/-- The types other than `VARCHAR`. -/
def plain : List ColumnType :=
  [.double, .float, .bool, .int, .bigint, .date, .datetime, .timestamp, .time, .unknown]

/-- The type that a text names; case counts. -/
def ofText? (s : String) : Option ColumnType :=
  match plain.find? fun type => type.text == s with
  | some type => some type
  | none => (Text.skip? varcharWord s.toList).map fun rest => .varchar (String.ofList rest)

/-- The text of a type names this type. -/
theorem ofText?_text (type : ColumnType) : ofText? type.text = some type := by
  cases type with
  | varchar rest =>
      have hskip : Text.skip? varcharWord (text (.varchar rest)).toList = some rest.toList :=
        Text.skip?_eq_some_iff.2 (by simp [text])
      -- The other types do not begin with the word.
      have hplain : plain.find? (fun type => type.text == text (.varchar rest)) = none := by
        have hnone : ∀ type ∈ plain, Text.skip? varcharWord type.text.toList = none := by decide
        rw [List.find?_eq_none]
        intro type htype heq
        have h := hnone type htype
        rw [beq_iff_eq.1 heq, hskip] at h
        cases h
      simp [ofText?, hplain, hskip]
  | _ => rfl

/-- The text of a type says which type it is. -/
theorem text_inj {type other : ColumnType} (h : type.text = other.text) : type = other := by
  have htype := type.ofText?_text
  rw [h, other.ofText?_text] at htype
  exact (Option.some.inj htype).symm

/-- A text type of a given length. -/
def ofLength (length : Nat) : ColumnType := .varchar ("(" ++ toString length ++ ")")

/-- Whether a type holds text. -/
def isVarchar : ColumnType → Bool
  | .varchar _ => true
  | _ => false

end ColumnType

end Schemata
