import Schemata.Proofs.Layout

/-! # Reading comments character by character

Comments are taken out of a line by jumping from mark to mark. Here the same is done by a machine
that sees one character and the next, and carries nothing from line to line but whether it is inside
a block comment. The two give the same lines. In the lines of the machine no mark of a comment is
left, not even one made of what stood on both sides of a comment, so taking comments out once more
changes nothing. -/

namespace Schemata

/-! ## Neighbours in a text -/

/-- Two characters are neighbours in a text when they start it, or are neighbours behind its first
character. -/
theorem Text.pair_isInfix_cons_iff (a b c : Char) (cs : List Char) :
    [a, b] <:+: c :: cs ↔ (a = c ∧ cs.head? = some b) ∨ [a, b] <:+: cs := by
  rw [List.infix_cons_iff, List.cons_prefix_cons]
  cases cs with
  | nil => simp
  | cons d cs => simp [eq_comm]

namespace Ddl

/-- Whether no mark of a comment is left in a text. -/
structure MarkFree (cs : List Char) : Prop where
  /-- There are no two dashes. -/
  dashes : ¬ Ddl.dashes <:+: cs
  /-- No block comment starts. -/
  blockStart : ¬ Ddl.blockStart <:+: cs

/-- A part of a text without marks has none. -/
theorem MarkFree.of_isInfix {cs ds : List Char} (h : MarkFree cs) (hds : ds <:+: cs) :
    MarkFree ds where
  dashes hmark := h.dashes (hmark.trans hds)
  blockStart hmark := h.blockStart (hmark.trans hds)

/-- There are no marks in nothing. -/
theorem markFree_nil : MarkFree [] := by
  constructor <;> simp [dashes, blockStart]

/-- A character may stand before a text without marks unless the two make one. -/
theorem MarkFree.cons {c : Char} {cs : List Char} (h : MarkFree cs)
    (hdash : ¬ (c = '-' ∧ cs.head? = some '-')) (hstart : ¬ (c = '/' ∧ cs.head? = some '*')) :
    MarkFree (c :: cs) where
  dashes hmark := by
    rcases (Text.pair_isInfix_cons_iff '-' '-' c cs).1 hmark with ⟨rfl, hhead⟩ | hmark
    · exact hdash ⟨rfl, hhead⟩
    · exact h.dashes hmark
  blockStart hmark := by
    rcases (Text.pair_isInfix_cons_iff '/' '*' c cs).1 hmark with ⟨rfl, hhead⟩ | hmark
    · exact hstart ⟨rfl, hhead⟩
    · exact h.blockStart hmark

/-! ## The machine -/

/-- What a machine keeps of a line that it reads from left to right, and whether it ends inside a
block comment. Outside a block comment two dashes end the reading, a start of a block comment is
read as a blank, and any other character is kept; inside, everything up to the end of the comment is
left out. -/
def sift : Bool → List Char → List Char × Bool
  | inBlock, [] => ([], inBlock)
  | false, '-' :: '-' :: _ => ([], false)
  | false, '/' :: '*' :: rest => (' ' :: (sift true rest).1, (sift true rest).2)
  | false, c :: rest => (c :: (sift false rest).1, (sift false rest).2)
  | true, '*' :: '/' :: rest => sift false rest
  | true, _ :: rest => sift true rest

/-- What the machine keeps of lines, and whether it ends inside a block comment. -/
def siftLines (inBlock : Bool) : List (List Char) → List (List Char) × Bool
  | [] => ([], inBlock)
  | line :: lines =>
      ((sift inBlock line).1 :: (siftLines (sift inBlock line).2 lines).1,
        (siftLines (sift inBlock line).2 lines).2)

/-! ## Jumping as the machine reads -/

/-- A character that starts no comment is kept in front of what is kept of the rest. -/
theorem strip_false_cons {c : Char} {cs : List Char} (hdash : Text.skip? dashes (c :: cs) = none)
    (hstart : Text.skip? blockStart (c :: cs) = none) :
    strip false (c :: cs) = (c :: (strip false cs).1, (strip false cs).2) := by
  rw [strip_false, strip_false, firstMark_cons, hdash, hstart]
  cases firstMark cs <;> rfl

/-- A start of a block comment is read as a blank. -/
theorem strip_false_blockStart (cs : List Char) :
    strip false ('/' :: '*' :: cs) = (' ' :: (strip true cs).1, (strip true cs).2) := by
  have hmark : firstMark ('/' :: '*' :: cs) = .block [] cs := by
    rw [firstMark_cons]
    rfl
  rw [strip_false, hmark]
  rfl

/-- Two dashes end the reading. -/
theorem strip_false_dashes (cs : List Char) : strip false ('-' :: '-' :: cs) = ([], false) := by
  have hmark : firstMark ('-' :: '-' :: cs) = .line [] := by
    rw [firstMark_cons]
    rfl
  rw [strip_false, hmark]

/-- A character that does not end a block comment is left out. -/
theorem strip_true_cons {c : Char} {cs : List Char}
    (hend : Text.skip? blockEnd (c :: cs) = none) : strip true (c :: cs) = strip true cs := by
  rw [strip_true, strip_true, Text.cut?, hend]
  cases Text.cut? blockEnd cs <;> rfl

/-- Behind its end, a block comment is over. -/
theorem strip_true_blockEnd (cs : List Char) : strip true ('*' :: '/' :: cs) = strip false cs := by
  rw [strip_true]
  rfl

/-- A pair is not skipped in a text that does not start with it. -/
theorem skip?_pair_eq_none {a b c : Char} {cs : List Char}
    (h : ∀ rest, c = a → cs = b :: rest → False) : Text.skip? [a, b] (c :: cs) = none := by
  rw [Option.eq_none_iff_forall_ne_some]
  intro rest hskip
  obtain ⟨rfl, hcs⟩ := List.cons.inj (Text.skip?_eq_some_iff.1 hskip)
  exact h rest rfl hcs

/-- Comments are taken out of a line as the machine leaves them out. -/
theorem strip_eq_sift (inBlock : Bool) (cs : List Char) : strip inBlock cs = sift inBlock cs := by
  fun_induction sift inBlock cs with
  | case1 inBlock =>
      cases inBlock with
      | false => exact strip_false_of_not_mem List.not_mem_nil List.not_mem_nil
      | true => exact strip_true_of_not_mem List.not_mem_nil
  | case2 rest => exact strip_false_dashes rest
  | case3 rest ih => rw [strip_false_blockStart, ih]
  | case4 c rest hdash hstart ih =>
      rw [strip_false_cons (skip?_pair_eq_none hdash) (skip?_pair_eq_none hstart), ih]
  | case5 rest ih => rw [strip_true_blockEnd, ih]
  | case6 c rest hend ih => rw [strip_true_cons (skip?_pair_eq_none hend), ih]

/-- Comments are taken out of lines as the machine leaves them out. -/
theorem stripLines_eq_siftLines (inBlock : Bool) (lines : List (List Char)) :
    stripLines inBlock lines = siftLines inBlock lines := by
  induction lines generalizing inBlock with
  | nil => rfl
  | cons line lines ih => simp only [stripLines, siftLines, strip_eq_sift, ih]

/-! ## What is left of a line -/

/-- Outside block comments, what is kept of a text starts as the text does, or with a blank. -/
theorem head?_sift_false (cs : List Char) :
    ∀ c ∈ (sift false cs).1.head?, c = ' ' ∨ cs.head? = some c := by
  intro c hc
  rw [sift.eq_def] at hc
  split at hc
  · cases hc
  · cases hc
  · exact .inl (Option.some.inj hc).symm
  · exact .inr hc
  · contradiction
  · contradiction

/-- The machine lets no mark of a comment through. -/
theorem markFree_sift (inBlock : Bool) (cs : List Char) : MarkFree (sift inBlock cs).1 := by
  fun_induction sift inBlock cs with
  | case1 => exact markFree_nil
  | case2 => exact markFree_nil
  | case3 rest ih => exact ih.cons (by simp) (by simp)
  | case4 c rest hdash hstart ih =>
      -- A mark at the seam would have been one in the line, as a blank takes part in none.
      have hseam : ∀ d, d ≠ ' ' → (sift false rest).1.head? = some d →
          ∃ more, rest = d :: more := by
        intro d hblank hhead
        rcases head?_sift_false rest d hhead with rfl | hrest
        · exact absurd rfl hblank
        · exact List.head?_eq_some_iff.1 hrest
      refine ih.cons ?_ ?_
      · rintro ⟨rfl, hhead⟩
        obtain ⟨more, rfl⟩ := hseam '-' (by decide) hhead
        exact hdash more rfl rfl
      · rintro ⟨rfl, hhead⟩
        obtain ⟨more, rfl⟩ := hseam '*' (by decide) hhead
        exact hstart more rfl rfl
  | case5 rest ih => exact ih
  | case6 c rest _ ih => exact ih

/-- No mark of a comment is left in a line without its comments. -/
theorem markFree_strip (inBlock : Bool) (cs : List Char) : MarkFree (strip inBlock cs).1 := by
  rw [strip_eq_sift]
  exact markFree_sift inBlock cs

/-- There are no comments in a line without marks. -/
theorem MarkFree.strip {cs : List Char} (h : MarkFree cs) : strip false cs = (cs, false) := by
  have hnone : ∀ {word : List Char}, ¬ word <:+: cs → Text.cut? word cs = none := by
    intro word hword
    rw [Option.eq_none_iff_forall_ne_some]
    rintro ⟨before, after⟩ hcut
    exact hword ⟨before, after, (Text.cut?_eq_some hcut).symm⟩
  rw [strip_false, firstMark, hnone h.dashes, hnone h.blockStart]

/-- There are no comments in lines without marks. -/
theorem stripLines_of_markFree {lines : List (List Char)} (h : ∀ line ∈ lines, MarkFree line) :
    stripLines false lines = (lines, false) := by
  induction lines with
  | nil => rfl
  | cons line lines ih =>
      obtain ⟨hline, hlines⟩ := List.forall_mem_cons.1 h
      simp only [stripLines, hline.strip, ih hlines]

/-- No mark of a comment is left in lines without their comments. -/
theorem markFree_of_mem_stripLines {inBlock : Bool} {lines : List (List Char)} {line : List Char}
    (h : line ∈ (stripLines inBlock lines).1) : MarkFree line := by
  induction lines generalizing inBlock with
  | nil => cases h
  | cons first lines ih =>
      rcases List.mem_cons.1 h with rfl | h
      · exact markFree_strip inBlock first
      · exact ih h

/-- **Comments are read as by a machine that sees two characters at a time.** What is left of any
lines, and whether a block comment is open behind them, are what the machine keeps and where it
ends. No mark of a comment is left in any line, and taking comments out of what is left changes
nothing and ends outside block comments. -/
theorem stripLines_exact (inBlock : Bool) (lines : List (List Char)) :
    stripLines inBlock lines = siftLines inBlock lines
      ∧ (∀ line ∈ (stripLines inBlock lines).1, MarkFree line)
      ∧ stripLines false (stripLines inBlock lines).1 = ((stripLines inBlock lines).1, false) := by
  have hfree : ∀ line ∈ (stripLines inBlock lines).1, MarkFree line := fun _ hline =>
    markFree_of_mem_stripLines hline
  exact ⟨stripLines_eq_siftLines inBlock lines, hfree, stripLines_of_markFree hfree⟩

/-- Marks that overlap, marks inside comments, and comments between halves of marks. -/
theorem stripLines_exact_overlaps :
    let lines := ["a /*/ b */-/**/- c ---/* d".toList, "/-/*--".toList, "**//*/*/ -*/--".toList]
    let kept := ["a  - - c ".toList, "/- ".toList, "  -*/".toList]
    stripLines false lines = (kept, false) ∧ siftLines false lines = (kept, false)
      ∧ (∀ line ∈ kept, MarkFree line) ∧ stripLines false kept = (kept, false) := by
  intro lines kept
  have hsift : siftLines false lines = (kept, false) := by decide
  obtain ⟨heq, hfree, hagain⟩ := stripLines_exact false lines
  rw [heq, hsift] at hfree hagain
  exact ⟨heq.trans hsift, hsift, hfree, hagain⟩

end Ddl

end Schemata
