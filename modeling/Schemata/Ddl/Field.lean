import Schemata.Text.Blank
import Schemata.Text.Search

/-! # The parts of a statement

The name of the table, the fields between the outer parentheses, and the name and the type of a
column. -/

namespace Schemata.Ddl

/-- The characters that quote a name. -/
def isQuote (c : Char) : Bool := c == '"' || c == '\'' || c == '\x60'

/-- A text with double quotes in the place of square brackets. -/
def quoteBrackets (cs : List Char) : List Char :=
  cs.map fun c => if c = '[' ∨ c = ']' then '"' else c

/-- Brackets are replaced part by part. -/
@[simp] theorem quoteBrackets_append (xs ys : List Char) :
    quoteBrackets (xs ++ ys) = quoteBrackets xs ++ quoteBrackets ys := List.map_append

/-- A character other than a bracket stays in place. -/
theorem quoteBrackets_cons {c : Char} (hopen : c ≠ '[') (hclose : c ≠ ']') (cs : List Char) :
    quoteBrackets (c :: cs) = c :: quoteBrackets cs := by
  rw [quoteBrackets, List.map_cons, if_neg (not_or.2 ⟨hopen, hclose⟩)]
  rfl

/-- A text without brackets stays as it is. -/
theorem quoteBrackets_of_forall {cs : List Char} (h : ∀ c ∈ cs, c ≠ '[' ∧ c ≠ ']') :
    quoteBrackets cs = cs := by
  conv => rhs; rw [← List.map_id cs]
  exact List.map_congr_left fun c hc => if_neg (not_or.2 (h c hc))

/-- Nothing but a double quote takes the place of a bracket. -/
theorem not_mem_quoteBrackets {c : Char} {cs : List Char} (hquote : c ≠ '"') (h : c ∉ cs) :
    c ∉ quoteBrackets cs := by
  intro hmem
  obtain ⟨d, hd, heq⟩ := List.mem_map.1 hmem
  split at heq
  · exact hquote heq.symm
  · exact h (heq ▸ hd)

/-- The table that the words before the first parenthesis name: the last word, without the
qualification before its last dot, and without quotes. `none` when nothing is left. -/
def tableName? (words : List Char) : Option (List Char) :=
  let word := Text.afterLast (· == ' ') (Text.trimEnd words)
  let name := (Text.afterLast (· == '.') word).filter fun c => !isQuote c
  if name.isEmpty then none else some name

/-- The depth of parentheses after a character. A parenthesis that closes nothing is passed over. -/
def depthAfter (depth : Nat) (c : Char) : Nat :=
  if c = '(' then depth + 1 else if c = ')' then depth - 1 else depth

/-- The pieces of a text between the commas outside parentheses. -/
def pieces (depth : Nat) : List Char → List (List Char)
  | [] => [[]]
  | c :: rest =>
      if c = ',' ∧ depth = 0 then [] :: pieces depth rest
      else
        match pieces (depthAfter depth c) rest with
        | [] => [[c]]
        | piece :: more => (c :: piece) :: more

/-- The fields of a text: the pieces that are not blank, trimmed. -/
def fields (body : List Char) : List (List Char) :=
  ((pieces 0 body).map Text.trim).filter fun field => !field.isEmpty

/-- No field is empty. -/
theorem ne_nil_of_mem_fields {body field : List Char} (h : field ∈ fields body) : field ≠ [] := by
  simpa using (List.mem_filter.1 h).2

/-- The name of a column, and what follows it. A name that starts with a quote reaches to the next
quote of the same kind, or to the end. -/
def splitName : List Char → List Char × List Char
  | [] => ([], [])
  | c :: rest =>
      if isQuote c then (Text.cutAt? (· == c) rest).getD (rest, [])
      else (Text.cutAt? (· == ' ') (c :: rest)).getD (c :: rest, [])

/-- The type at the start of a text: up to and with the first closing parenthesis, or else up to the
first blank or comma. -/
def typeWord (cs : List Char) : List Char :=
  match Text.cutAt? (· == ')') cs with
  | some (before, _) => before ++ [')']
  | none => cs.takeWhile fun c => c != ' ' && c != ','

/-- The name and the type of a column. -/
def splitColumn (field : List Char) : List Char × List Char :=
  let (name, rest) := splitName field
  (name, typeWord (Text.trimStart rest))

end Schemata.Ddl
