import Schemata.Proofs.Neat
import Schemata.Proofs.Registers

/-! # Reading in parts

A scanner that has read some lines goes on with others as if they had come together, so what it has
handed out stays. All that it takes along is an open block comment and the statement that it is in:
the text of this one begins with the first words of a statement, its parentheses are the counted
ones, and they do not end it yet. Where neither is open, the scanner is as before the first line,
and so is a loop that keeps the text and the counters in registers. -/

namespace Schemata.Ddl

/-! ## The first words of a statement -/

/-- Whether a text is white space, and some of it. -/
def IsGap (cs : List Char) : Prop := cs ≠ [] ∧ ∀ c ∈ cs, Text.isWhite c = true

/-- Whether a text is a word, which is given in lower case, in some letter case. -/
def Spells (word cs : List Char) : Prop := cs.map Char.toLower = word

/-- Whether a text begins with the words `create table` or `create or replace table`, in any letter
case and with white space between them. -/
def OpensTable (cs : List Char) : Prop :=
  ∃ create gap replace table after, cs = create ++ gap ++ replace ++ table ++ after
    ∧ Spells ['c', 'r', 'e', 'a', 't', 'e'] create ∧ IsGap gap
    ∧ (replace = [] ∨ ∃ or gap word gap', replace = or ++ gap ++ word ++ gap'
      ∧ Spells ['o', 'r'] or ∧ IsGap gap
      ∧ Spells ['r', 'e', 'p', 'l', 'a', 'c', 'e'] word ∧ IsGap gap')
    ∧ Spells ['t', 'a', 'b', 'l', 'e'] table

/-- What follows does not matter to how a text begins. -/
theorem OpensTable.append {cs : List Char} (h : OpensTable cs) (more : List Char) :
    OpensTable (cs ++ more) := by
  obtain ⟨create, gap, replace, table, after, rfl, hwords⟩ := h
  exact ⟨create, gap, replace, table, after ++ more, by simp, hwords⟩

/-- White space that is skipped is a gap. -/
theorem isGap_of_skipWhite? {cs after : List Char} (h : skipWhite? cs = some after) :
    ∃ gap, cs = gap ++ after ∧ IsGap gap := by
  cases cs with
  | nil => cases h
  | cons c cs =>
      rw [skipWhite?] at h
      split at h
      · rename_i hc
        cases h
        refine ⟨c :: cs.takeWhile Text.isWhite, by simp, by simp, ?_⟩
        exact List.forall_mem_cons.2 ⟨hc, List.all_eq_true.1 List.all_takeWhile⟩
      · cases h

/-- The words `or replace` that are skipped are there, with their gaps. -/
theorem exists_of_skipReplace? {cs after : List Char} (h : skipReplace? cs = some after) :
    ∃ or gap word gap', cs = or ++ gap ++ word ++ gap' ++ after
      ∧ Spells ['o', 'r'] or ∧ IsGap gap
      ∧ Spells ['r', 'e', 'p', 'l', 'a', 'c', 'e'] word ∧ IsGap gap' := by
  simp only [skipReplace?, Option.bind_eq_bind, Option.bind_eq_some_iff] at h
  obtain ⟨_, skipOr, _, skipGap, _, skipWord, skipGap'⟩ := h
  obtain ⟨or, rfl, hor⟩ := skipWord?_eq_some_iff.1 skipOr
  obtain ⟨gap, rfl, hgap⟩ := isGap_of_skipWhite? skipGap
  obtain ⟨word, rfl, hword⟩ := skipWord?_eq_some_iff.1 skipWord
  obtain ⟨gap', rfl, hgap'⟩ := isGap_of_skipWhite? skipGap'
  exact ⟨or, gap, word, gap', by simp, hor, hgap, hword, hgap'⟩

/-- The first words of a statement that are skipped are there. -/
theorem opensTable_of_skipCreateTable? {cs after : List Char}
    (h : skipCreateTable? cs = some after) : OpensTable cs := by
  simp only [skipCreateTable?, Option.bind_eq_bind, Option.bind_eq_some_iff] at h
  obtain ⟨_, skipCreate, rest, skipGap, skipTable⟩ := h
  obtain ⟨create, rfl, hcreate⟩ := skipWord?_eq_some_iff.1 skipCreate
  obtain ⟨gap, rfl, hgap⟩ := isGap_of_skipWhite? skipGap
  obtain ⟨table, htext, htable⟩ := skipWord?_eq_some_iff.1 skipTable
  cases skipped : skipReplace? rest with
  | none =>
      rw [skipped, Option.getD_none] at htext
      exact ⟨create, gap, [], table, after, by simp [htext], hcreate, hgap, .inl rfl, htable⟩
  | some rest' =>
      rw [skipped, Option.getD_some] at htext
      obtain ⟨or, gap₁, word, gap₂, hrest, hreplace⟩ := exists_of_skipReplace? skipped
      exact ⟨create, gap, or ++ gap₁ ++ word ++ gap₂, table, after, by simp [hrest, htext], hcreate,
        hgap, .inr ⟨or, gap₁, word, gap₂, rfl, hreplace⟩, htable⟩

/-- A text from the first place on where a statement starts begins with its first words. -/
theorem opensTable_of_fromCreateTable? {cs start : List Char}
    (h : fromCreateTable? cs = some start) : OpensTable start := by
  induction cs with
  | nil => cases h
  | cons c rest ih =>
      rw [fromCreateTable?] at h
      split at h
      · rename_i hskip
        cases h
        obtain ⟨after, hafter⟩ := Option.isSome_iff_exists.1 hskip
        exact opensTable_of_skipCreateTable? hafter
      · exact ih h

/-! ## The parentheses of a statement -/

/-- Whether parentheses end a statement: as many are closed as opened, and some are. -/
def Balanced (opened closed : Nat) : Prop := 0 < opened ∧ opened = closed

/-- The parentheses of a text that does not end a statement are counted, and they do not end it. -/
theorem of_reach_eq_goesOn {cs : List Char} {opened closed opened' closed' : Nat}
    (h : reach opened closed cs = .goesOn opened' closed') (hopen : ¬ Balanced opened closed) :
    opened' = opened + cs.count '(' ∧ closed' = closed + cs.count ')'
      ∧ ¬ Balanced opened' closed' := by
  induction cs generalizing opened closed with
  | nil =>
      cases h
      exact ⟨by simp, by simp, hopen⟩
  | cons c rest ih =>
      rw [reach] at h
      split at h
      · cases h
      · rename_i hends
        -- Another character than a parenthesis leaves the counts as they are.
        have hopen' : ¬ Balanced (countAfter '(' c opened) (countAfter ')' c closed) := by
          intro hbalanced
          by_cases hparen : c = '(' ∨ c = ')'
          · exact hends (by simpa [endsWith, hparen, Balanced] using hbalanced)
          · rw [not_or] at hparen
            simp only [countAfter, if_neg hparen.1, if_neg hparen.2] at hbalanced
            exact hopen hbalanced
        split at h
        · rename_i hrest
          cases h
          obtain ⟨hopened, hclosed, hbalanced⟩ := ih hrest hopen'
          refine ⟨?_, ?_, hbalanced⟩
          · rw [hopened, countAfter, List.count_cons]
            by_cases hc : c = '('
            · simp [hc]
              omega
            · simp [hc]
          · rw [hclosed, countAfter, List.count_cons]
            by_cases hc : c = ')'
            · simp [hc]
              omega
            · simp [hc]
        · cases h

/-! ## What a scanner takes along -/

/-- What is known of a statement that a scanner is in: its text begins with the first words, and the
counted parentheses are those of the text and do not end the statement. -/
structure Unfinished (read : List Char) (opened closed : Nat) : Prop where
  /-- The text begins with the first words of a statement. -/
  opens : OpensTable read
  /-- The opening parentheses are counted. -/
  opened_eq : opened = read.count '('
  /-- The closing parentheses are counted. -/
  closed_eq : closed = read.count ')'
  /-- The statement has not ended. -/
  unbalanced : ¬ Balanced opened closed

/-- Whether a scanner is between statements, or in one that is unfinished. -/
def Position.Sound : Position → Prop
  | .outside => True
  | .inside read opened closed => Unfinished read opened closed

/-- A text that goes on with an unfinished statement, and does not end it, leaves it unfinished. -/
theorem Unfinished.append {read cs : List Char} {opened closed opened' closed' : Nat}
    (h : Unfinished read opened closed) (hcs : reach opened closed cs = .goesOn opened' closed') :
    Unfinished (read ++ [' '] ++ cs) opened' closed' := by
  obtain ⟨hopened, hclosed, hopen⟩ := of_reach_eq_goesOn hcs h.unbalanced
  refine ⟨(h.opens.append _).append _, ?_, ?_, hopen⟩
  · simp [hopened, h.opened_eq]
  · simp [hclosed, h.closed_eq]

/-- What a text between statements leaves is sound. -/
theorem sound_scanOutside (cs : List Char) : (scanOutside cs).2.Sound := by
  fun_induction scanOutside cs with
  | case1 => trivial
  | case2 cs start hstart opened closed hreach =>
      have hnone : ¬ Balanced 0 0 := fun h => Nat.lt_irrefl 0 h.1
      obtain ⟨hopened, hclosed, hopen⟩ := of_reach_eq_goesOn hreach hnone
      exact ⟨opensTable_of_fromCreateTable? hstart, by simpa using hopened, by simpa using hclosed,
        hopen⟩
  | case3 cs start _ taken rest _ more position hrest ih => simpa [hrest] using ih

/-- What a line leaves is sound. -/
theorem sound_scanLine {position : Position} (h : position.Sound) (cs : List Char) :
    (scanLine position cs).2.Sound := by
  cases position with
  | outside => exact sound_scanOutside cs
  | inside read opened closed =>
      have hread : read.isEmpty = false := by
        obtain ⟨_ | ⟨c, create⟩, _, _, _, _, rfl, hcreate, -⟩ := h.opens
        · cases hcreate
        · rfl
      simp only [scanLine, hread, Bool.false_eq_true, if_false]
      split
      · rename_i hreach
        exact h.append hreach
      · exact sound_scanOutside _

namespace Scanner

/-- What a line leaves of a scanner is sound. -/
theorem sound_feed {s : Scanner} (h : s.position.Sound) (line : List Char) :
    (s.feed line).2.position.Sound := by
  simp only [feed]
  split
  · exact h
  · exact sound_scanLine h _

/-- What lines leave of a scanner is sound. -/
theorem sound_run {s : Scanner} (h : s.position.Sound) (lines : List (List Char)) :
    (s.run lines).2.position.Sound := by
  induction lines generalizing s with
  | nil => exact h
  | cons line lines ih => exact ih (sound_feed h line)

/-- Whether neither a block comment nor a statement is open. -/
structure Idle (s : Scanner) : Prop where
  /-- No block comment is open. -/
  inBlock : s.inBlock = false
  /-- The scanner is between statements. -/
  position : s.position = .outside

/-- A scanner where nothing is open is as before the first line. -/
theorem Idle.eq_start {s : Scanner} (h : s.Idle) : s = start := by
  obtain ⟨inBlock, position⟩ := s
  obtain ⟨rfl, rfl⟩ := h
  rfl

end Scanner

/-- **Statements can be found in parts.** More lines leave the statements that have been found as
they are. Where some lines leave neither a block comment nor a statement open, further lines are
read as if they were the first; and where they leave a statement open, what has been read of it
begins with its first words, and what has been counted are its own parentheses, which do not end
it. A loop that keeps its registers at any time finds the same statements, with the registers of the
scanner; where it has no block comment and no statement open, the text that it keeps is empty and
its counters are zero again. -/
theorem statements_append (xs ys : List (List Char)) :
    statements xs <+: statements (xs ++ ys)
      ∧ ((Scanner.start.run xs).2.Idle →
        statements (xs ++ ys) = statements xs ++ statements ys
          ∧ (Scanner.start.run (xs ++ ys)).2 = (Scanner.start.run ys).2)
      ∧ (Scanner.start.run xs).2.position.Sound
      ∧ Registers.start.run xs = (statements xs, .ofScanner (Scanner.start.run xs).2)
      ∧ ((Registers.start.run xs).2.Idle → (Registers.start.run xs).2 = .start) := by
  have hsound : Scanner.start.position.Sound := trivial
  have hregisters := Registers.run_start xs
  refine ⟨?_, fun hidle => ?_, Scanner.sound_run hsound xs, hregisters, fun hidle => ?_⟩
  · rw [statements, statements, Scanner.run_append]
    exact List.prefix_append _ _
  · have hrun := Scanner.start.run_append xs ys
    rw [hidle.eq_start] at hrun
    exact ⟨congrArg Prod.fst hrun, by rw [hrun]⟩
  · rw [hregisters] at hidle ⊢
    exact hidle.ofScanner_eq_start

/-- Two statements and a block comment that share their lines, and one statement after them. -/
theorem statements_append_shared_lines :
    let xs := ["create table a (i int); /* (".toList, "(( */ create table b (j".toList,
      "int)".toList]
    let ys := ["Create Or Replace Table c (k int)".toList]
    (Scanner.start.run xs).2.Idle
      ∧ (Registers.start.run xs).2.Idle ∧ (Registers.start.run xs).2 = .start
      ∧ statements (xs ++ ys) = statements xs ++ statements ys
      ∧ statements xs = ["create table a (i int)".toList, "create table b (j int)".toList]
      ∧ statements ys = ys := by
  intro xs ys
  have hxs : Scanner.start.run xs
      = (["create table a (i int)".toList, "create table b (j int)".toList], .start) := by
    decide +kernel
  have hidle : (Scanner.start.run xs).2.Idle := by
    rw [hxs]
    exact ⟨rfl, rfl⟩
  obtain ⟨-, happend, -, hregisters, hstart⟩ := statements_append xs ys
  have hidle' : (Registers.start.run xs).2.Idle := by
    rw [hregisters, hxs]
    exact ⟨rfl, rfl⟩
  refine ⟨hidle, hidle', hstart hidle', (happend hidle).1, congrArg Prod.fst hxs, ?_⟩
  decide +kernel

end Schemata.Ddl
