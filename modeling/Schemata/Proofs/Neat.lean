import Schemata.Proofs.Quiet

/-! # Neat lines

A line is neat when comments and cleaning have nothing to do to it: it holds no character of a
comment mark, no white space but single blanks, and no blank at its start. Texts are put together
from neat parts. A scanner reads a neat line as it is, blanks in front of it apart.

What a scanner makes of a text of whole lines is stated by `Scanner.Reads`, which composes. -/

namespace Schemata.Ddl

/-- Whether a character is a blank, or neither other white space nor part of a comment mark nor a
square bracket. -/
def isMild (c : Char) : Bool :=
  c == ' ' || !(Text.isWhite c || c == '-' || c == '/' || c == '[' || c == ']')

/-- Whether a text has only mild characters, no two blanks in a row and no blank at its start. -/
structure Neat (cs : List Char) : Prop where
  /-- Every character is mild. -/
  mild : ∀ c ∈ cs, isMild c = true
  /-- Squeezing changes nothing, also behind a blank. -/
  squeezed : ∀ gap, squeezeAfter gap cs = cs

instance (cs : List Char) : Decidable (Neat cs) :=
  decidable_of_iff ((∀ c ∈ cs, isMild c = true) ∧ ∀ gap, squeezeAfter gap cs = cs)
    ⟨fun h => ⟨h.1, h.2⟩, fun h => ⟨h.mild, h.squeezed⟩⟩

/-! ## Putting neat texts together -/

/-- Squeezing makes no text longer. -/
theorem length_squeezeAfter_le (gap : Bool) (cs : List Char) :
    (squeezeAfter gap cs).length ≤ cs.length := by
  induction cs generalizing gap with
  | nil => simp [squeezeAfter]
  | cons c cs ih =>
      rw [squeezeAfter]
      split
      · split
        · exact Nat.le_succ_of_le (ih true)
        · exact Nat.succ_le_succ (ih true)
      · exact Nat.succ_le_succ (ih false)

/-- A text that squeezing leaves as it is may be followed by one that it leaves as it is behind a
blank too. -/
theorem squeezeAfter_append {gap : Bool} {xs ys : List Char} (hx : squeezeAfter gap xs = xs)
    (hy : ∀ gap, squeezeAfter gap ys = ys) : squeezeAfter gap (xs ++ ys) = xs ++ ys := by
  induction xs generalizing gap with
  | nil => exact hy gap
  | cons x xs ih =>
      rw [List.cons_append]
      rw [squeezeAfter] at hx ⊢
      split
      · rename_i hblank
        rw [if_pos hblank] at hx
        split
        · -- A blank that goes makes the text shorter.
          rename_i hgap
          rw [if_pos hgap] at hx
          have hle := length_squeezeAfter_le true xs
          rw [hx, List.length_cons] at hle
          omega
        · rename_i hgap
          rw [if_neg hgap] at hx
          obtain ⟨rfl, hxs⟩ := List.cons.inj hx
          rw [ih hxs]
      · rename_i hblank
        rw [if_neg hblank] at hx
        rw [ih (List.cons.inj hx).2]

/-- Neat texts make a neat text. -/
theorem Neat.append {xs ys : List Char} (hx : Neat xs) (hy : Neat ys) : Neat (xs ++ ys) where
  mild c hc := by
    rcases List.mem_append.1 hc with hc | hc
    · exact hx.mild c hc
    · exact hy.mild c hc
  squeezed gap := squeezeAfter_append (hx.squeezed gap) hy.squeezed

/-- A text of mild characters without blanks is neat. -/
theorem neat_of_forall {cs : List Char} (h : ∀ c ∈ cs, isMild c = true ∧ c ≠ ' ') : Neat cs where
  mild c hc := (h c hc).1
  squeezed gap := by
    induction cs generalizing gap with
    | nil => rfl
    | cons c cs ih =>
        have htab : c ≠ '\t' := by
          rintro rfl
          exact absurd (h '\t' (by simp)).1 (by decide)
        rw [squeezeAfter, if_neg (not_or.2 ⟨(h c (by simp)).2, htab⟩),
          ih fun d hd => h d (by simp [hd])]

/-- A text that ends with another does not end with a blank if the other does not. -/
theorem last_append {xs ys : List Char} (hne : ys ≠ []) (h : ∀ c ∈ ys.getLast?, c ≠ ' ') :
    ∀ c ∈ (xs ++ ys).getLast?, c ≠ ' ' := by
  intro c hc
  have hlast := List.getLast?_eq_some_getLast hne
  rw [List.getLast?_append, hlast] at hc
  exact h c (hlast ▸ hc)

/-! ## Reading neat lines -/

/-- A line of mild characters has no comments. -/
theorem strip_of_mild {cs : List Char} (h : ∀ c ∈ cs, isMild c = true) :
    strip false cs = (cs, false) := by
  have hdash : '-' ∉ cs := fun hc => absurd (h _ hc) (by decide)
  have hslash : '/' ∉ cs := fun hc => absurd (h _ hc) (by decide)
  exact strip_false_of_not_mem hdash hslash

/-- White space among mild characters is a blank. -/
theorem eq_blank_of_isMild {c : Char} (h : isMild c = true) (hwhite : Text.isWhite c = true) :
    c = ' ' := by
  simpa [isMild, hwhite] using h

/-- A neat text does not start with white space. -/
theorem Neat.head {cs : List Char} (h : Neat cs) : ∀ c ∈ cs.head?, Text.isWhite c = false := by
  intro c hc
  cases cs with
  | nil => cases hc
  | cons d cs =>
      obtain rfl : d = c := by simpa using hc
      rw [← Bool.not_eq_true]
      intro hwhite
      have hd : d = ' ' := eq_blank_of_isMild (h.mild d (by simp)) hwhite
      -- A blank at the start would go behind another.
      have hlen := congrArg List.length (h.squeezed true)
      have hle := length_squeezeAfter_le true cs
      simp [squeezeAfter, hd] at hlen
      omega

/-- A neat text that does not end with a blank does not end with white space. -/
theorem Neat.last {cs : List Char} (h : Neat cs) (hlast : ∀ c ∈ cs.getLast?, c ≠ ' ') :
    ∀ c ∈ cs.getLast?, Text.isWhite c = false := by
  intro c hc
  rw [← Bool.not_eq_true]
  intro hwhite
  exact hlast c hc (eq_blank_of_isMild (h.mild c (List.mem_of_getLast? hc)) hwhite)

/-- Cleaning takes the blanks off the front of a neat line that does not end with one. -/
theorem Neat.clean {front cs : List Char} (h : Neat cs) (hfront : ∀ c ∈ front, c = ' ')
    (hlast : ∀ c ∈ cs.getLast?, c ≠ ' ') : clean (front ++ cs) = cs := by
  have hblank : Text.isWhite ' ' = true := by decide
  have hwhite : ∀ c ∈ front, Text.isWhite c = true := fun c hc => hfront c hc ▸ hblank
  have htrim : Text.trim (front ++ cs ++ []) = cs :=
    Text.trim_append hwhite (by simp) h.head (h.last hlast)
  rw [List.append_nil] at htrim
  rw [Ddl.clean, htrim, squeeze, h.squeezed false]

/-- The blanks that a neat line is indented by are mild, as the line is. -/
theorem Neat.mild_indented {front line : List Char} (h : Neat line)
    (hfront : ∀ c ∈ front, c = ' ') : ∀ c ∈ front ++ line, isMild c = true := by
  intro c hc
  rcases List.mem_append.1 hc with hc | hc
  · rw [hfront c hc]
    decide
  · exact h.mild c hc

/-- A scanner outside comments reads a neat line as it is. -/
theorem Neat.feed {front line : List Char} {position position' : Position}
    {found : List (List Char)} (h : Neat line) (hfront : ∀ c ∈ front, c = ' ')
    (hlast : ∀ c ∈ line.getLast?, c ≠ ' ') (hne : line ≠ []) (hbatch : isBatchEnd line = false)
    (hscan : scanLine position line = (found, position')) :
    Scanner.feed ⟨false, position⟩ (front ++ line) = (found, ⟨false, position'⟩) := by
  have hmild := strip_of_mild (h.mild_indented hfront)
  have hempty : line.isEmpty = false := by simpa using hne
  simp [Scanner.feed, hmild, h.clean hfront hlast, hempty, hbatch, hscan]

/-! ## Reading whole lines -/

/-- Whether a scanner that reads a text of whole lines finds these statements and ends in this
state. -/
def Scanner.Reads (s : Scanner) (text : List Char) (found : List (List Char)) (s' : Scanner) :
    Prop :=
  ∃ lines, (∀ rest, Text.lines (text ++ rest) = lines ++ Text.lines rest)
    ∧ s.run lines = (found, s')

namespace Scanner

/-- Lines one after the other are read one after the other. -/
theorem run_append (s : Scanner) (xs ys : List (List Char)) :
    s.run (xs ++ ys) = ((s.run xs).1 ++ ((s.run xs).2.run ys).1, ((s.run xs).2.run ys).2) := by
  induction xs generalizing s with
  | nil => simp [run]
  | cons x xs ih => simp [run, ih, List.append_assoc]

/-- Nothing is read from nothing. -/
theorem reads_nil (s : Scanner) : s.Reads [] [] s := ⟨[], fun _ => rfl, rfl⟩

/-- Texts of whole lines one after the other are read one after the other. -/
theorem Reads.append {s s' s'' : Scanner} {xs ys : List Char} {found more : List (List Char)}
    (hx : s.Reads xs found s') (hy : s'.Reads ys more s'') :
    s.Reads (xs ++ ys) (found ++ more) s'' := by
  obtain ⟨lines, hlines, hrun⟩ := hx
  obtain ⟨lines', hlines', hrun'⟩ := hy
  refine ⟨lines ++ lines', fun rest => ?_, ?_⟩
  · rw [List.append_assoc, hlines, hlines', List.append_assoc]
  · rw [run_append, hrun, hrun']

/-- A line is read as it is fed. -/
theorem reads_line {s s' : Scanner} {line : List Char} {found : List (List Char)}
    (h : '\n' ∉ line) (hreturn : '\r' ∉ line) (hfeed : s.feed line = (found, s')) :
    s.Reads (line ++ ['\n']) found s' := by
  refine ⟨[line], fun rest => ?_, ?_⟩
  · have hlast : line.getLast? ≠ some '\r' := fun hr => hreturn (List.mem_of_getLast? hr)
    rw [List.append_assoc, List.singleton_append, Text.lines_append, Text.lines_line h hlast]
  · simp [run, hfeed]

/-- A line of mild characters is read as it is fed. -/
theorem reads_line_of_mild {s s' : Scanner} {line : List Char} {found : List (List Char)}
    (h : ∀ c ∈ line, isMild c = true) (hfeed : s.feed line = (found, s')) :
    s.Reads (line ++ ['\n']) found s' := by
  have hnewline : '\n' ∉ line := fun hc => absurd (h _ hc) (by decide)
  have hreturn : '\r' ∉ line := fun hc => absurd (h _ hc) (by decide)
  exact reads_line hnewline hreturn hfeed

/-- No statement is read from a quiet text of whole lines. -/
theorem exists_reads_of_quiet {text : List Char} (h : Quiet (text ++ ['\n'])) (inBlock : Bool) :
    ∃ inBlock', Reads ⟨inBlock, .outside⟩ (text ++ ['\n']) [] ⟨inBlock', .outside⟩ := by
  have hlines : ∀ line ∈ Text.lines (text ++ ['\n']), Quiet line := fun _ hline => h.lines hline
  obtain ⟨inBlock', hrun⟩ := run_quiet hlines inBlock
  refine ⟨inBlock', _, fun rest => ?_, hrun⟩
  rw [List.append_assoc, List.singleton_append, Text.lines_append]

/-- The statements of a text that a scanner reads. -/
theorem Reads.statements {text : List Char} {found : List (List Char)} {s : Scanner}
    (h : start.Reads text found s) : statements (Text.lines text) = found := by
  obtain ⟨lines, hlines, hrun⟩ := h
  have htext : Text.lines text = lines := by simpa using hlines []
  rw [Ddl.statements, htext, hrun]

end Scanner

end Schemata.Ddl
