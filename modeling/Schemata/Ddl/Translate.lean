import Schemata.ColumnType
import Schemata.Text.Blank
import Schemata.Text.Casing

/-! # Translating column types

The column type of the target engine for a column type of another dialect. The first word of the
type decides, by the first rule whose word it contains. -/

namespace Schemata.Ddl

/-- The largest length and precision that are read as numbers. -/
def maxNumber : Nat := 4294967295

/-- The number that decimal digits spell, if there are any and the number is not too large. -/
def number? (digits : List Char) : Option Nat :=
  if digits.isEmpty || !digits.all Char.isDigit then none
  else
    let n := digits.foldl (fun n d => 10 * n + (d.toNat - 48)) 0
    if n ≤ maxNumber then some n else none

/-- A number that may have a plus sign. -/
def signedNumber? : List Char → Option Nat
  | '+' :: digits => number? digits
  | digits => number? digits

/-- The word that decides: up to and with the first closing parenthesis, or else up to the first
blank. -/
def firstWord (cs : List Char) : List Char :=
  match Text.cutAt? (· == ')') cs with
  | some (before, _) => before ++ [')']
  | none => cs.takeWhile (· != ' ')

/-- What stands between the first opening parenthesis and the next closing one. -/
def argument? (cs : List Char) : Option (List Char) := do
  let (_, after) ← Text.cutAt? (· == '(') cs
  let (inner, _) ← Text.cutAt? (· == ')') after
  return inner

/-- The type of a number with the given argument: precision and scale. A scale other than `0` makes
a fraction; without one the number is small; a precision that is not a number counts as wide. -/
def numberType (cs : List Char) : ColumnType :=
  match argument? cs with
  | none => .bigint
  | some inner =>
      match Text.cutAt? (· == ',') inner with
      | none => .int
      | some (precision, scale) =>
          if Text.trim scale = ['0'] then
            match signedNumber? (Text.trim precision) with
            | some digits => if digits ≤ 9 then .int else .bigint
            | none => .bigint
          else .double

/-- The length in the argument of a text type: its digits, whatever stands between them. -/
def textLength (cs : List Char) : Nat :=
  ((argument? cs).bind fun inner => number? (inner.filter Char.isDigit)).getD 0

/-- The type that the word of a dialect, in lower case, is translated to. -/
def translateWord (cs : List Char) : ColumnType :=
  let has (word : String) : Bool := Text.occurs word.toList cs
  -- The first rule wins, so a word that holds another has to come before it.
  if has "int" then .bigint
  else if has "rowversion" then .int
  else if has "uniqueidentifier" then .ofLength 0
  else if has "serial" then .int
  else if has "bit" then .bool
  else if has "blob" || has "binary" then .unknown
  else if has "number" then numberType cs
  else if has "decimal" || has "numeric" || has "float" || has "double" || has "money"
      || has "real" then .double
  -- Both words hold `time`, and the first also holds `date`.
  else if has "datetime" || has "timestamp" then .datetime
  else if has "time" then .time
  else if has "date" then .date
  else if has "bool" then .bool
  else if has "text" then .ofLength 0
  else if has "char" then .ofLength (textLength cs)
  else .unknown

/-- The type that a type of another dialect is translated to. -/
def translate (cs : List Char) : ColumnType := translateWord (Text.lower (firstWord cs))

/-- The text of the type that a text is translated to. -/
def translateText (s : String) : String := (translate s.toList).text

end Schemata.Ddl
