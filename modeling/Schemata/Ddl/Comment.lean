import Schemata.Text.Search

/-! # Comments

Comments are taken out line by line. Two dashes hide the rest of their line. A block comment runs
from `/*` to the next `*/`, over as many lines as it takes, and leaves one blank where it starts.
Inside a block comment dashes and further starts mean nothing. -/

namespace Schemata.Ddl

/-- The mark that hides the rest of a line. -/
def dashes : List Char := ['-', '-']

/-- The mark that starts a block comment. -/
def blockStart : List Char := ['/', '*']

/-- The mark that ends a block comment. -/
def blockEnd : List Char := ['*', '/']

/-- What an uncommented text meets first. -/
inductive CommentMark where
  /-- No comment at all. -/
  | none
  /-- Two dashes, after `kept`. -/
  | line (kept : List Char)
  /-- The start of a block comment, between `kept` and `rest`. -/
  | block (kept rest : List Char)

/-- The first comment of a text that starts outside block comments. -/
def firstMark (cs : List Char) : CommentMark :=
  match Text.cut? dashes cs, Text.cut? blockStart cs with
  | some (kept, _), none => .line kept
  | some (kept, _), some (before, rest) =>
      if kept.length < before.length then .line kept else .block before rest
  | none, some (before, rest) => .block before rest
  | none, none => .none

/-- Dashes that hide the rest of a text stand where they occur first. -/
theorem cut?_of_firstMark_line {cs kept : List Char} (h : firstMark cs = .line kept) :
    ∃ hidden, Text.cut? dashes cs = some (kept, hidden) := by
  unfold firstMark at h
  split at h
  · rename_i hd _
    cases h
    exact ⟨_, hd⟩
  · rename_i hd _
    split at h
    · cases h
      exact ⟨_, hd⟩
    · cases h
  · cases h
  · cases h

/-- A block comment starts where its mark occurs first. -/
theorem cut?_of_firstMark_block {cs kept rest : List Char} (h : firstMark cs = .block kept rest) :
    Text.cut? blockStart cs = some (kept, rest) := by
  unfold firstMark at h
  split at h
  · cases h
  · rename_i hb
    split at h
    · cases h
    · cases h
      exact hb
  · rename_i hb
    cases h
    exact hb
  · cases h

/-- A block comment starts inside the text. -/
theorem length_lt_of_firstMark_block {cs kept rest : List Char}
    (h : firstMark cs = .block kept rest) : rest.length < cs.length := by
  rw [Text.cut?_eq_some (cut?_of_firstMark_block h)]
  simp [blockStart]
  omega

/-- A line without its comments, and whether it ends inside a block comment. -/
def strip (inBlock : Bool) (cs : List Char) : List Char × Bool :=
  if inBlock then
    match _h : Text.cut? blockEnd cs with
    | some (_, rest) => strip false rest
    | none => ([], true)
  else
    match _h : firstMark cs with
    | .none => (cs, false)
    | .line kept => (kept, false)
    | .block kept rest =>
        let (more, open') := strip true rest
        (kept ++ ' ' :: more, open')
termination_by cs.length
decreasing_by
  · rw [Text.cut?_eq_some _h]
    simp [blockEnd]
    omega
  · exact length_lt_of_firstMark_block _h

/-- A line that starts inside a block comment goes on behind its end, if this is there. -/
theorem strip_true (cs : List Char) :
    strip true cs
      = match Text.cut? blockEnd cs with
        | some (_, rest) => strip false rest
        | none => ([], true) := by
  rw [strip, if_pos rfl]
  split <;> simp [*]

/-- A line that starts outside block comments is kept up to its first comment. -/
theorem strip_false (cs : List Char) :
    strip false cs
      = match firstMark cs with
        | .none => (cs, false)
        | .line kept => (kept, false)
        | .block kept rest => (kept ++ ' ' :: (strip true rest).1, (strip true rest).2) := by
  rw [strip, if_neg Bool.false_ne_true]
  split <;> simp [*]

/-- Outside block comments, a line without the first characters of comment marks is kept. -/
theorem strip_false_of_not_mem {cs : List Char} (hdash : '-' ∉ cs) (hslash : '/' ∉ cs) :
    strip false cs = (cs, false) := by
  rw [strip_false, firstMark, dashes, blockStart, Text.cut?_eq_none_of_not_mem hdash,
    Text.cut?_eq_none_of_not_mem hslash]

/-- Inside a block comment, nothing is left of a line without the first character of its end. -/
theorem strip_true_of_not_mem {cs : List Char} (hstar : '*' ∉ cs) :
    strip true cs = ([], true) := by
  rw [strip_true, blockEnd, Text.cut?_eq_none_of_not_mem hstar]

/-- Lines without their comments, and whether they end inside a block comment. -/
def stripLines (inBlock : Bool) : List (List Char) → List (List Char) × Bool
  | [] => ([], inBlock)
  | line :: rest =>
      let (kept, inBlock) := strip inBlock line
      let (more, inBlock) := stripLines inBlock rest
      (kept :: more, inBlock)

end Schemata.Ddl
