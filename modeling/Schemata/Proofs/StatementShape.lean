import Schemata.Proofs.CommentReading
import Schemata.Proofs.Nested
import Schemata.Proofs.ReadCharacters
import Schemata.Proofs.Streaming

/-! # The shape of statements

Every statement that a scanner hands out begins with the first words of a statement and ends with
the first parenthesis that closes as many as were opened. Its text has been put together from
several lines, but nothing shows where: there is no tab in it, no two blanks are neighbours, and no
mark of a comment is left or has come about where lines meet. A scanner that is inside a statement
has read a text of the same kind that does not end yet, and each line keeps this. -/

namespace Schemata

namespace Text

/-- Two characters are neighbours in a text in two parts when they are so in one of the parts, or
when the one ends the first part and the other starts the second. -/
theorem pair_isInfix_append_iff (a b : Char) (xs ys : List Char) :
    [a, b] <:+: xs ++ ys ↔ [a, b] <:+: xs ∨ (xs.getLast? = some a ∧ ys.head? = some b)
      ∨ [a, b] <:+: ys := by
  induction xs with
  | nil => simp
  | cons x xs ih =>
      rw [List.cons_append, pair_isInfix_cons_iff, pair_isInfix_cons_iff, ih]
      have hcomm : x = a ↔ a = x := eq_comm
      cases xs with
      | nil => simp [hcomm]
      | cons y xs => simp [or_assoc]

/-- A pair without a blank is on one side of a blank. -/
theorem pair_isInfix_blank {a b : Char} (ha : a ≠ ' ') (hb : b ≠ ' ') {xs ys : List Char}
    (h : [a, b] <:+: xs ++ ' ' :: ys) : [a, b] <:+: xs ∨ [a, b] <:+: ys := by
  rcases (pair_isInfix_append_iff a b xs (' ' :: ys)).1 h with h | ⟨-, hhead⟩ | h
  · exact .inl h
  · exact absurd (Option.some.inj hhead).symm hb
  · rcases (pair_isInfix_cons_iff a b ' ' ys).1 h with ⟨rfl, -⟩ | h
    · exact absurd rfl ha
    · exact .inr h

end Text

namespace Ddl

/-! ## Tidy texts -/

/-- Whether a text has no tab, no two blanks in a row and no mark of a comment. -/
structure Tidy (cs : List Char) : Prop where
  /-- There is no tab. -/
  tab : '\t' ∉ cs
  /-- No two blanks are neighbours. -/
  blanks : ¬ [' ', ' '] <:+: cs
  /-- No mark of a comment is left. -/
  marks : MarkFree cs

/-- A part of a tidy text is tidy. -/
theorem Tidy.of_isInfix {cs ds : List Char} (h : Tidy cs) (hds : ds <:+: cs) : Tidy ds where
  tab hmem := h.tab (hds.subset hmem)
  blanks hpair := h.blanks (hpair.trans hds)
  marks := h.marks.of_isInfix hds

/-- Two tidy texts are tidy with a blank between them, if there is none beside it. -/
theorem Tidy.join {xs ys : List Char} (hx : Tidy xs) (hy : Tidy ys)
    (hlast : ∀ c ∈ xs.getLast?, c ≠ ' ') (hfirst : ∀ c ∈ ys.head?, c ≠ ' ') :
    Tidy (xs ++ ' ' :: ys) where
  tab := by simp [hx.tab, hy.tab]
  blanks hpair := by
    rcases (Text.pair_isInfix_append_iff ' ' ' ' xs (' ' :: ys)).1 hpair with h | ⟨h, -⟩ | h
    · exact hx.blanks h
    · exact hlast ' ' h rfl
    · rcases (Text.pair_isInfix_cons_iff ' ' ' ' ' ' ys).1 h with ⟨-, h⟩ | h
      · exact hfirst ' ' h rfl
      · exact hy.blanks h
  marks :=
    { dashes := fun hmark =>
        (Text.pair_isInfix_blank (by decide) (by decide) hmark).elim hx.marks.dashes
          hy.marks.dashes
      blockStart := fun hmark =>
        (Text.pair_isInfix_blank (by decide) (by decide) hmark).elim hx.marks.blockStart
          hy.marks.blockStart }

/-- Whether a tidy text does not end with a blank. -/
structure TidyEnd (cs : List Char) : Prop extends Tidy cs where
  /-- The last character is no blank. -/
  last : ∀ c ∈ cs.getLast?, c ≠ ' '

/-- An end of such a text is one. -/
theorem TidyEnd.of_isSuffix {cs ds : List Char} (h : TidyEnd cs) (hds : ds <:+ cs) :
    TidyEnd ds where
  toTidy := h.toTidy.of_isInfix hds.isInfix
  last c hc := by
    obtain ⟨front, rfl⟩ := hds
    refine h.last c ?_
    rw [List.getLast?_append, hc]
    rfl

/-! ## Cleaning makes a line tidy -/

/-- Squeezing leaves no tab. -/
theorem tab_not_mem_squeezeAfter (gap : Bool) (cs : List Char) : '\t' ∉ squeezeAfter gap cs := by
  induction cs generalizing gap with
  | nil => exact List.not_mem_nil
  | cons c cs ih =>
      rw [squeezeAfter]
      split
      · split
        · exact ih true
        · exact List.not_mem_cons_of_ne_of_not_mem (by decide) (ih true)
      · rename_i hc
        rw [not_or] at hc
        exact List.not_mem_cons_of_ne_of_not_mem (Ne.symm hc.2) (ih false)

/-- Behind a blank that has been written, squeezing writes no other one. -/
theorem head?_squeezeAfter_true (cs : List Char) : ∀ c ∈ (squeezeAfter true cs).head?, c ≠ ' ' := by
  induction cs with
  | nil => simp [squeezeAfter]
  | cons c cs ih =>
      intro d hd
      rw [squeezeAfter, if_pos rfl] at hd
      split at hd
      · exact ih d hd
      · rename_i hc
        rw [not_or] at hc
        obtain rfl := Option.some.inj hd
        exact hc.1

/-- Squeezing leaves no two blanks in a row. -/
theorem blanks_squeezeAfter (gap : Bool) (cs : List Char) :
    ¬ [' ', ' '] <:+: squeezeAfter gap cs := by
  induction cs generalizing gap with
  | nil => simp [squeezeAfter]
  | cons c cs ih =>
      rw [squeezeAfter]
      split
      · split
        · exact ih true
        · intro hpair
          rcases (Text.pair_isInfix_cons_iff _ _ _ _).1 hpair with ⟨-, hhead⟩ | hpair
          · exact head?_squeezeAfter_true cs ' ' hhead rfl
          · exact ih true hpair
      · rename_i hc
        rw [not_or] at hc
        intro hpair
        rcases (Text.pair_isInfix_cons_iff _ _ _ _).1 hpair with ⟨hblank, -⟩ | hpair
        · exact hc.1 hblank.symm
        · exact ih false hpair

/-- A word without blanks that a squeezed text starts with was there before. -/
theorem isPrefix_of_squeezeAfter {word cs : List Char} (hblank : ' ' ∉ word)
    (h : word <+: squeezeAfter false cs) : word <+: cs := by
  induction cs generalizing word with
  | nil => exact h
  | cons c cs ih =>
      rw [squeezeAfter] at h
      split at h
      · rcases List.prefix_cons_iff.1 h with rfl | ⟨more, rfl, -⟩
        · exact List.nil_prefix
        · exact absurd List.mem_cons_self hblank
      · rcases List.prefix_cons_iff.1 h with rfl | ⟨more, rfl, hmore⟩
        · exact List.nil_prefix
        · rw [List.mem_cons, not_or] at hblank
          exact (List.prefix_cons_inj c).2 (ih hblank.2 hmore)

/-- A word without blanks in a squeezed text was there before: squeezing moves no two characters
together that a blank does not stay between. -/
theorem isInfix_of_squeezeAfter {word cs : List Char} (hblank : ' ' ∉ word) {gap : Bool}
    (h : word <:+: squeezeAfter gap cs) : word <:+: cs := by
  induction cs generalizing gap with
  | nil => exact h
  | cons c cs ih =>
      have hback : cs <:+: c :: cs := (List.suffix_cons c cs).isInfix
      rw [squeezeAfter] at h
      split at h
      · split at h
        · exact (ih h).trans hback
        · rcases List.infix_cons_iff.1 h with hfront | h
          · rcases List.prefix_cons_iff.1 hfront with rfl | ⟨more, rfl, -⟩
            · exact List.nil_infix
            · exact absurd List.mem_cons_self hblank
          · exact (ih h).trans hback
      · rename_i hc
        rcases List.infix_cons_iff.1 h with hfront | h
        · refine (isPrefix_of_squeezeAfter hblank ?_).isInfix
          rwa [squeezeAfter, if_neg hc]
        · exact (ih h).trans hback

/-- A text that starts with no white space does not start with a blank when it is squeezed. -/
theorem head?_squeezeAfter {gap : Bool} {cs : List Char}
    (h : ∀ c ∈ cs.head?, Text.isWhite c = false) : ∀ c ∈ (squeezeAfter gap cs).head?, c ≠ ' ' := by
  cases cs with
  | nil => simp [squeezeAfter]
  | cons d cs =>
      have hd : Text.isWhite d = false := h d rfl
      have hblank : d ≠ ' ' := (Text.ne_of_isWhite (by decide) hd).symm
      have htab : d ≠ '\t' := (Text.ne_of_isWhite (by decide) hd).symm
      rw [squeezeAfter, if_neg (not_or.2 ⟨hblank, htab⟩)]
      intro c hc
      obtain rfl := Option.some.inj hc
      exact hblank

/-- The last character of a text is also the last one when the text is squeezed, if it is no white
space. -/
theorem getLast?_squeezeAfter_concat {d : Char} (hd : Text.isWhite d = false) (gap : Bool)
    (cs : List Char) : (squeezeAfter gap (cs ++ [d])).getLast? = some d := by
  induction cs generalizing gap with
  | nil =>
      have hblank : d ≠ ' ' := (Text.ne_of_isWhite (by decide) hd).symm
      have htab : d ≠ '\t' := (Text.ne_of_isWhite (by decide) hd).symm
      rw [List.nil_append, squeezeAfter, if_neg (not_or.2 ⟨hblank, htab⟩)]
      rfl
  | cons c cs ih =>
      rw [List.cons_append, squeezeAfter]
      split
      · split
        · exact ih true
        · rw [List.getLast?_cons, ih true, Option.getD_some]
      · rw [List.getLast?_cons, ih false, Option.getD_some]

/-- A text that ends with no white space does not end with a blank when it is squeezed. -/
theorem getLast?_squeezeAfter {gap : Bool} {cs : List Char}
    (h : ∀ c ∈ cs.getLast?, Text.isWhite c = false) :
    ∀ c ∈ (squeezeAfter gap cs).getLast?, c ≠ ' ' := by
  intro c hc
  rcases List.eq_nil_or_concat cs with rfl | ⟨front, d, heq⟩
  · cases hc
  · rw [List.concat_eq_append] at heq
    subst heq
    have hd : Text.isWhite d = false := h d (by simp)
    rw [getLast?_squeezeAfter_concat hd] at hc
    obtain rfl := Option.some.inj hc
    exact (Text.ne_of_isWhite (by decide) hd).symm

/-- A cleaned line without comments is tidy, and has no blanks at its ends. -/
theorem tidyEnd_clean {cs : List Char} (h : MarkFree cs) :
    TidyEnd (clean cs) ∧ ∀ c ∈ (clean cs).head?, c ≠ ' ' := by
  obtain ⟨-, -, -, -, -, hfirst, hlast⟩ := Text.exists_trim cs
  have hpart : ∀ {word : List Char}, ' ' ∉ word → word <:+: clean cs → word <:+: cs :=
    fun hblank hword => (isInfix_of_squeezeAfter hblank hword).trans (trim_isInfix cs)
  refine ⟨⟨⟨tab_not_mem_squeezeAfter _ _, blanks_squeezeAfter _ _, ?_, ?_⟩,
    getLast?_squeezeAfter hlast⟩, head?_squeezeAfter hfirst⟩
  · exact fun hmark => h.dashes (hpart (by decide) hmark)
  · exact fun hmark => h.blockStart (hpart (by decide) hmark)

/-! ## Where a statement ends -/

/-- A text that ends a statement has as many parentheses closed as opened, and no start of it has.
-/
theorem balanced_of_reach_eq_ends {cs taken rest : List Char} {opened closed : Nat}
    (h : reach opened closed cs = .ends taken rest) (hopen : ¬ Balanced opened closed) :
    Balanced (opened + taken.count '(') (closed + taken.count ')')
      ∧ ∀ front, front <+: taken → front ≠ taken →
        ¬ Balanced (opened + front.count '(') (closed + front.count ')') := by
  induction cs generalizing opened closed taken with
  | nil => cases h
  | cons c cs ih =>
      -- Counting the first character apart leaves the same sums.
      have hcount : ∀ front : List Char,
          opened + (c :: front).count '(' = countAfter '(' c opened + front.count '('
            ∧ closed + (c :: front).count ')' = countAfter ')' c closed + front.count ')' := by
        intro front
        simp only [List.count_cons, countAfter, beq_iff_eq]
        constructor <;> split <;> omega
      rw [reach] at h
      split at h
      · rename_i hends
        cases h
        obtain ⟨hopened, hclosed⟩ := hcount []
        simp only [endsWith, Bool.and_eq_true, decide_eq_true_eq, beq_iff_eq] at hends
        refine ⟨?_, fun front hfront hne => ?_⟩
        · rw [hopened, hclosed]
          exact ⟨hends.1.2, hends.2⟩
        · rcases List.prefix_cons_iff.1 hfront with rfl | ⟨more, rfl, hmore⟩
          · simpa using hopen
          · exact absurd (by rw [List.prefix_nil.1 hmore]) hne
      · rename_i hends
        split at h
        · cases h
        · rename_i hrest
          cases h
          have hopen' : ¬ Balanced (countAfter '(' c opened) (countAfter ')' c closed) := by
            intro hbalanced
            by_cases hparen : c = '(' ∨ c = ')'
            · exact hends (by simpa [endsWith, hparen, Balanced] using hbalanced)
            · rw [not_or] at hparen
              simp only [countAfter, if_neg hparen.1, if_neg hparen.2] at hbalanced
              exact hopen hbalanced
          obtain ⟨hall, hleast⟩ := ih hrest hopen'
          refine ⟨?_, fun front hfront hne => ?_⟩
          · rw [(hcount _).1, (hcount _).2]
            exact hall
          · rcases List.prefix_cons_iff.1 hfront with rfl | ⟨more, rfl, hmore⟩
            · simpa using hopen
            · rw [(hcount more).1, (hcount more).2]
              exact hleast more hmore fun heq => hne (by rw [heq])

/-- The first words of a statement hold no parentheses. -/
theorem OpensTable.exists_words {cs : List Char} (h : OpensTable cs) :
    ∃ words after, cs = words ++ after ∧ OpensTable words ∧ '(' ∉ words := by
  obtain ⟨create, gap, replace, table, after, rfl, hcreate, hgap, hreplace, htable⟩ := h
  have hword : ∀ {word cs : List Char}, '(' ∉ word → Spells word cs → '(' ∉ cs := by
    intro word cs hparen hspells hmem
    have hlower := List.mem_map_of_mem (f := Char.toLower) hmem
    rw [hspells] at hlower
    exact hparen hlower
  have hwhite : ∀ {cs : List Char}, IsGap cs → '(' ∉ cs := by
    intro cs hcs hmem
    exact absurd (hcs.2 '(' hmem) (by decide)
  have hnone : '(' ∉ replace := by
    rcases hreplace with rfl | ⟨or, gap₁, word, gap₂, rfl, hor, hgap₁, hreplace, hgap₂⟩
    · exact List.not_mem_nil
    · simp only [List.mem_append, not_or]
      exact ⟨⟨⟨hword (by decide) hor, hwhite hgap₁⟩, hword (by decide) hreplace⟩, hwhite hgap₂⟩
  refine ⟨create ++ gap ++ replace ++ table, after, rfl,
    ⟨create, gap, replace, table, [], by simp, hcreate, hgap, hreplace, htable⟩, ?_⟩
  simp only [List.mem_append, not_or]
  exact ⟨⟨⟨hword (by decide) hcreate, hwhite hgap⟩, hnone⟩, hword (by decide) htable⟩

/-- What follows an opening parenthesis does not matter to how a text begins. -/
theorem OpensTable.of_append {xs ys : List Char} (h : OpensTable (xs ++ ys)) (hparen : '(' ∈ xs) :
    OpensTable xs := by
  obtain ⟨words, after, heq, hwords, hnone⟩ := h.exists_words
  have hends : words <+: xs ++ ys := ⟨after, heq.symm⟩
  rcases List.prefix_or_prefix_of_prefix hends (List.prefix_append xs ys) with hle | hle
  · obtain ⟨more, rfl⟩ := hle
    exact hwords.append more
  · exact absurd (hle.subset hparen) hnone

/-! ## Statements -/

/-- The shape of a statement. -/
structure IsStatement (cs : List Char) : Prop extends Tidy cs where
  /-- It begins with the first words of a statement. -/
  opens : OpensTable cs
  /-- It opens a parenthesis, and closes as many as it opens. -/
  balanced : Balanced (cs.count '(') (cs.count ')')
  /-- No start of it has opened a parenthesis and closed as many as it opens. -/
  least : ∀ front, front <+: cs → front ≠ cs → ¬ Balanced (front.count '(') (front.count ')')

/-- What is read of a statement, from its first words on, up to its end is a statement if it is
tidy. -/
theorem isStatement_of_reach {cs rest : List Char} (hopens : OpensTable (cs ++ rest))
    (hreach : reach 0 0 (cs ++ rest) = .ends cs rest) (htidy : Tidy cs) : IsStatement cs := by
  have hnone : ¬ Balanced 0 0 := fun h => Nat.lt_irrefl 0 h.1
  obtain ⟨hall, hleast⟩ := balanced_of_reach_eq_ends hreach hnone
  simp only [Nat.zero_add] at hall hleast
  have hparen : '(' ∈ cs := List.count_pos_iff.1 hall.1
  exact { htidy with opens := hopens.of_append hparen, balanced := hall, least := hleast }

/-- What is known of a statement that a scanner is inside: it begins with the first words, its text
does not end it, and it is tidy as far as it goes. -/
structure Begun (read : List Char) (opened closed : Nat) : Prop extends TidyEnd read where
  /-- It begins with the first words of a statement. -/
  opens : OpensTable read
  /-- It goes on. -/
  reach : Ddl.reach 0 0 read = .goesOn opened closed

/-- Whether a scanner is between statements, or inside one that has begun. -/
def Position.HasBegun : Position → Prop
  | .outside => True
  | .inside read opened closed => Begun read opened closed

/-- Whether all that is found are statements, and what is left open has begun. -/
def Shaped (scanned : List (List Char) × Position) : Prop :=
  (∀ s ∈ scanned.1, IsStatement s) ∧ scanned.2.HasBegun

/-- What is found in a tidy text between statements. -/
theorem shaped_scanOutside {cs : List Char} (h : TidyEnd cs) : Shaped (scanOutside cs) := by
  fun_induction scanOutside cs with
  | case1 => exact ⟨by simp, trivial⟩
  | case2 cs start hstart opened closed hreach =>
      refine ⟨by simp, ?_⟩
      exact ⟨h.of_isSuffix (fromCreateTable?_isSuffix hstart),
        opensTable_of_fromCreateTable? hstart, hreach⟩
  | case3 cs start hstart taken rest hreach more position hrest ih =>
      have hsuffix := fromCreateTable?_isSuffix hstart
      have hopens := opensTable_of_fromCreateTable? hstart
      obtain ⟨rfl, -⟩ := reach_eq_ends hreach
      have hmore := ih (h.of_isSuffix ((List.suffix_append taken rest).trans hsuffix))
      rw [hrest] at hmore
      have htaken : IsStatement taken := isStatement_of_reach hopens hreach
        (h.of_isInfix ((List.prefix_append taken rest).isInfix.trans hsuffix.isInfix))
      exact ⟨List.forall_mem_cons.2 ⟨htaken, hmore.1⟩, hmore.2⟩

/-- A text behind another behind a third. -/
theorem Reach.behind_append (xs ys : List Char) (r : Reach) :
    (r.behind ys).behind xs = r.behind (xs ++ ys) := by
  cases r with
  | goesOn => rfl
  | ends taken rest => simp [Reach.behind]

/-- What a line takes on is read as one text with a blank where the line starts. -/
theorem Begun.reach_append {read : List Char} {opened closed : Nat} (h : Begun read opened closed)
    (cs : List Char) :
    Ddl.reach 0 0 (read ++ ' ' :: cs) = (Ddl.reach opened closed cs).behind (read ++ [' ']) := by
  have hblank : Ddl.reach opened closed [' '] = .goesOn opened closed :=
    reach_of_forall (by decide) opened closed
  calc Ddl.reach 0 0 (read ++ ' ' :: cs)
      = (Ddl.reach opened closed ([' '] ++ cs)).behind read := by
        rw [Ddl.reach_append, h.reach, List.singleton_append]
    _ = ((Ddl.reach opened closed cs).behind [' ']).behind read := by
        rw [Ddl.reach_append, hblank]
    _ = (Ddl.reach opened closed cs).behind (read ++ [' ']) := Reach.behind_append _ _ _

/-- What a tidy line ends and holds. -/
theorem shaped_scanLine {position : Position} (hposition : position.HasBegun) {cs : List Char}
    (h : TidyEnd cs) (hfirst : ∀ c ∈ cs.head?, c ≠ ' ') (hne : cs ≠ []) :
    Shaped (scanLine position cs) := by
  cases position with
  | outside => exact shaped_scanOutside h
  | inside read opened closed =>
      have hbegun : Begun read opened closed := hposition
      have hread : read.isEmpty = false := by
        obtain ⟨_ | ⟨c, create⟩, _, _, _, _, rfl, hcreate, -⟩ := hbegun.opens
        · cases hcreate
        · rfl
      have htidy : Tidy (read ++ ' ' :: cs) :=
        hbegun.toTidy.join h.toTidy hbegun.last hfirst
      have hreach := hbegun.reach_append cs
      have hopens : OpensTable (read ++ ' ' :: cs) := hbegun.opens.append _
      simp only [scanLine, hread, Bool.false_eq_true, if_false]
      split
      · -- The statement goes on, and its text now ends as the line does.
        rename_i hgoes
        rw [hgoes] at hreach
        have heq : read ++ [' '] ++ cs = read ++ ' ' :: cs := by simp
        rw [heq]
        refine ⟨by simp, ⟨htidy, fun c hc => ?_⟩, hopens, hreach⟩
        rw [← heq] at hc
        exact last_append hne h.last c hc
      · -- The line ends the statement, and what is behind is read as between statements.
        rename_i taken rest hends
        rw [hends] at hreach
        obtain ⟨rfl, -⟩ := reach_eq_ends hends
        have hmore := shaped_scanOutside (h.of_isSuffix (List.suffix_append taken rest))
        have heq : read ++ ' ' :: (taken ++ rest) = read ++ [' '] ++ taken ++ rest := by simp
        rw [heq] at htidy hreach hopens
        have hstatement : IsStatement (read ++ [' '] ++ taken) :=
          isStatement_of_reach hopens hreach (htidy.of_isInfix (List.prefix_append _ _).isInfix)
        exact ⟨List.forall_mem_cons.2 ⟨hstatement, hmore.1⟩, hmore.2⟩

namespace Scanner

/-- What a line gives. -/
theorem shaped_feed {s : Scanner} (hs : s.position.HasBegun) (line : List Char) :
    Shaped ((s.feed line).1, (s.feed line).2.position) := by
  obtain ⟨htidy, hfirst⟩ := tidyEnd_clean (markFree_strip s.inBlock line)
  simp only [feed]
  split
  · exact ⟨by simp, hs⟩
  · rename_i hskip
    simp only [Bool.or_eq_true, not_or, List.isEmpty_iff] at hskip
    exact shaped_scanLine hs htidy hfirst hskip.1

/-- What lines give. -/
theorem shaped_run {s : Scanner} (hs : s.position.HasBegun) (lines : List (List Char)) :
    Shaped ((s.run lines).1, (s.run lines).2.position) := by
  induction lines generalizing s with
  | nil => exact ⟨by simp [run], hs⟩
  | cons line lines ih =>
      have hfed := shaped_feed hs line
      have hrest := ih hfed.2
      exact ⟨List.forall_mem_append.2 ⟨hfed.1, hrest.1⟩, hrest.2⟩

end Scanner

/-- **Every statement has its shape.** It begins with the words `create table` or `create or replace
table`, in any letter case; it has parentheses, closes as many as it opens, and does so nowhere
before its end; and it holds no tab, no two blanks in a row and no mark of a comment, however many
lines it has come from. -/
theorem isStatement_of_mem_statements {lines : List (List Char)} {s : List Char}
    (h : s ∈ statements lines) : IsStatement s := by
  have hstart : Scanner.start.position.HasBegun := trivial
  exact (Scanner.shaped_run hstart lines).1 s h

/-- A statement from the middle of one line to the middle of another, with comments between halves
of marks, a tab and gaps; and one that closes a parenthesis before it opens the first. -/
theorem isStatement_of_mem_statements_days :
    let lines := ["go create\t OR  /**/ Replace table d-".toList, " -/*".toList,
      "*/ ((day\t /* ( */ date)  ".toList, ")  -".toList, "-create table x ) (i int)".toList]
    let s := "create OR Replace table d- - ((day date) )".toList
    let s' := "create table x ) (".toList
    statements lines = [s, s'] ∧ IsStatement s ∧ IsStatement s' := by
  intro lines s s'
  have hlines : statements lines = [s, s'] := by decide +kernel
  have hmem : s ∈ statements lines := by simp [hlines]
  have hmem' : s' ∈ statements lines := by simp [hlines]
  exact ⟨hlines, isStatement_of_mem_statements hmem, isStatement_of_mem_statements hmem'⟩

end Ddl

end Schemata
