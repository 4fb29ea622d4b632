import Schemata.Text.Search

/-! # Lines of a text

A line ends at a line feed, and a carriage return right before it belongs to the ending. What
follows the last line feed is a line of its own unless it is empty. -/

namespace Schemata.Text

/-- A line that a line feed has ended, without the carriage return before it. -/
def chopReturn (cs : List Char) : List Char :=
  match cs.getLast? with
  | some '\r' => cs.dropLast
  | _ => cs

/-- The lines of a text whose pieces between line feeds are given: all but the last piece were ended
by a line feed. -/
def linesOfPieces : List (List Char) → List (List Char)
  | [] => []
  | [last] => if last.isEmpty then [] else [last]
  | piece :: pieces => chopReturn piece :: linesOfPieces pieces

/-- The lines of a text. -/
def lines (cs : List Char) : List (List Char) := linesOfPieces (splitOn (· == '\n') cs)

/-- An empty text has no lines. -/
@[simp] theorem lines_nil : lines [] = [] := rfl

/-- Pieces that more pieces follow are lines that a line feed has ended. -/
theorem linesOfPieces_append (pieces : List (List Char)) {more : List (List Char)}
    (h : more ≠ []) :
    linesOfPieces (pieces ++ more) = pieces.map chopReturn ++ linesOfPieces more := by
  induction pieces with
  | nil => rfl
  | cons piece pieces ih =>
      cases hrest : pieces ++ more with
      | nil => exact absurd (List.append_eq_nil_iff.1 hrest).2 h
      | cons q rest =>
          rw [hrest] at ih
          rw [List.cons_append, hrest]
          show chopReturn piece :: linesOfPieces (q :: rest) = _
          rw [ih]
          rfl

/-- The lines of a text up to a line feed are what the text is split into there, and the lines
behind the line feed follow them. -/
theorem lines_append_eq (cs rest : List Char) :
    lines (cs ++ '\n' :: rest) = (splitOn (· == '\n') cs).map chopReturn ++ lines rest := by
  rw [lines, splitOn_append (by decide), linesOfPieces_append _ (splitOn_ne_nil _ _)]
  rfl

/-- A line feed separates the lines before it from the lines after it. -/
theorem lines_append (cs rest : List Char) :
    lines (cs ++ '\n' :: rest) = lines (cs ++ ['\n']) ++ lines rest := by
  rw [lines_append_eq, lines_append_eq cs []]
  simp

/-- A text with a line feed at its end has as many lines as line feeds. -/
theorem length_lines_concat (cs : List Char) :
    (lines (cs ++ ['\n'])).length = cs.count '\n' + 1 := by
  rw [lines_append_eq, lines_nil, List.append_nil, List.length_map, length_splitOn]
  rfl

/-- A text without line feeds, before a line feed, is one line. -/
theorem lines_line {line : List Char} (h : '\n' ∉ line) (hreturn : line.getLast? ≠ some '\r') :
    lines (line ++ ['\n']) = [line] := by
  have hchop : chopReturn line = line := by
    unfold chopReturn
    split
    · rename_i hlast
      exact absurd hlast hreturn
    · rfl
  have hpiece : splitOn (· == '\n') line = [line] :=
    splitOn_of_forall fun c hc => by
      have hne : c ≠ '\n' := fun e => h (e ▸ hc)
      simpa using hne
  rw [lines, splitOn_append (by decide), hpiece]
  simp [linesOfPieces, splitOn, hchop]

/-- The text that a sequence of bytes encodes in UTF-8, or `none` when they encode none. -/
def decode? (bytes : ByteArray) : Option String := String.fromUTF8? bytes

/-- The bytes of a text encode it. -/
theorem decode?_toUTF8 (text : String) : decode? text.toUTF8 = some text := by
  rw [decode?, String.fromUTF8?]
  exact dif_pos text.isValidUTF8

end Schemata.Text
