import Schemata.Ddl.Scan
import Schemata.Text.Lines

/-! # Quiet text

A statement begins with the word `create` and white space. A text is quiet when none of its
occurrences of these letters is followed by white space, nor by the slash of a comment, which would
become a blank. Taking comments out and cleaning keep a text quiet, and a scanner between statements
passes quiet lines over.

Texts are put together from sealed parts: a quiet text whose last character is no letter of the word
can be followed by any other. -/

namespace Schemata.Ddl

/-- The word that statements begin with. -/
def createWord : List Char := ['c', 'r', 'e', 'a', 't', 'e']

/-- Whether the letters of `create` are nowhere right before white space or a slash. -/
def Quiet (cs : List Char) : Prop :=
  ∀ before taken c after, cs = before ++ taken ++ c :: after →
    taken.map Char.toLower = createWord → Text.isWhite c = false ∧ c ≠ '/'

/-- Whether a text is quiet and stays so in front of any quiet text. -/
def Sealed (cs : List Char) : Prop := Quiet cs ∧ ∀ c ∈ cs.getLast?, c.toLower ∉ createWord

/-! ## Deciding quietness -/

/-- A word is skipped exactly where the text starts with it in some letter case. -/
theorem skipWord?_eq_some_iff {word cs after : List Char} :
    skipWord? word cs = some after
      ↔ ∃ taken, cs = taken ++ after ∧ taken.map Char.toLower = word := by
  induction word generalizing cs with
  | nil => simp [skipWord?]
  | cons w word ih =>
      cases cs with
      | nil => simp [skipWord?]
      | cons c cs =>
          simp only [skipWord?]
          constructor
          · intro h
            split at h
            · rename_i hc
              obtain ⟨taken, rfl, htaken⟩ := ih.1 h
              exact ⟨c :: taken, rfl, by simp [hc, htaken]⟩
            · cases h
          · rintro ⟨taken, heq, htaken⟩
            cases taken with
            | nil => simp at htaken
            | cons d taken =>
                simp only [List.cons_append, List.cons.injEq, List.map_cons] at heq htaken
                obtain ⟨rfl, rfl⟩ := heq
                rw [if_pos htaken.1]
                exact ih.2 ⟨taken, rfl, htaken.2⟩

/-- Whether a text starts with the letters of `create` and white space or a slash. -/
def startsLoud (cs : List Char) : Bool :=
  match skipWord? createWord cs with
  | some (c :: _) => Text.isWhite c || c == '/'
  | _ => false

/-- A text starts loudly exactly when its start breaks quietness. -/
theorem startsLoud_iff (cs : List Char) :
    startsLoud cs = true ↔ ∃ taken c after, cs = taken ++ c :: after
      ∧ taken.map Char.toLower = createWord ∧ ¬ (Text.isWhite c = false ∧ c ≠ '/') := by
  unfold startsLoud
  constructor
  · intro h
    split at h
    · rename_i c after hskip
      obtain ⟨taken, rfl, htaken⟩ := skipWord?_eq_some_iff.1 hskip
      refine ⟨taken, c, after, rfl, htaken, ?_⟩
      rintro ⟨hwhite, hslash⟩
      simp [hwhite, hslash] at h
    · cases h
  · rintro ⟨taken, c, after, rfl, htaken, hc⟩
    rw [skipWord?_eq_some_iff.2 ⟨taken, rfl, htaken⟩]
    cases hwhite : Text.isWhite c <;> simp_all

/-- Quietness of a text is that of its start and that of its rest. -/
theorem quiet_cons_iff (c : Char) (cs : List Char) :
    Quiet (c :: cs) ↔ startsLoud (c :: cs) = false ∧ Quiet cs := by
  rw [Bool.eq_false_iff, ne_eq, startsLoud_iff]
  constructor
  · intro h
    refine ⟨?_, fun before taken d after heq => h (c :: before) taken d after (by simp [heq])⟩
    rintro ⟨taken, d, after, heq, htaken, hd⟩
    exact hd (h [] taken d after heq htaken)
  · rintro ⟨hstart, hrest⟩ before taken d after heq htaken
    cases before with
    | nil =>
        apply Classical.byContradiction
        intro hd
        exact hstart ⟨taken, d, after, heq, htaken, hd⟩
    | cons b before =>
        obtain ⟨-, rfl⟩ := List.cons.inj heq
        -- Letters that do not start here lie in the rest.
        exact hrest before taken d after rfl htaken

/-- Nothing is quiet. -/
@[simp] theorem quiet_nil : Quiet [] := by
  intro before taken c after heq
  simp at heq

instance decidableQuiet : (cs : List Char) → Decidable (Quiet cs)
  | [] => isTrue quiet_nil
  | c :: cs =>
      have := decidableQuiet cs
      decidable_of_iff _ (quiet_cons_iff c cs).symm

instance (cs : List Char) : Decidable (Sealed cs) := inferInstanceAs (Decidable (_ ∧ _))

/-! ## Putting quiet texts together -/

/-- A part of a quiet text is quiet. -/
theorem Quiet.of_isInfix {cs ds : List Char} (h : Quiet cs) (hds : ds <:+: cs) : Quiet ds := by
  obtain ⟨front, back, rfl⟩ := hds
  rintro before taken c after rfl
  exact h (front ++ before) taken c (after ++ back) (by simp)

/-- A text without white space and slashes is quiet. -/
theorem quiet_of_forall {cs : List Char} (h : ∀ c ∈ cs, Text.isWhite c = false ∧ c ≠ '/') :
    Quiet cs := by
  rintro before taken c after rfl -
  exact h c (by simp)

/-- A text in two parts that ends before a given place, or has the place in its second part. -/
theorem append_cons_eq_append {front xs ys after : List Char} {c : Char}
    (h : front ++ c :: after = xs ++ ys) :
    (∃ more, xs = front ++ c :: more) ∨ ∃ more, front = xs ++ more ∧ ys = more ++ c :: after := by
  rcases List.append_eq_append_iff.1 h with ⟨more, hxs, hafter⟩ | ⟨more, hfront, hys⟩
  · cases more with
    | nil => exact .inr ⟨[], by simpa using hxs.symm, by simpa using hafter.symm⟩
    | cons d more =>
        obtain ⟨rfl, -⟩ := List.cons.inj hafter
        exact .inl ⟨more, hxs⟩
  · exact .inr ⟨more, hfront, hys⟩

/-- A quiet text may follow a sealed one. -/
theorem Sealed.quiet_append {xs ys : List Char} (hx : Sealed xs) (hy : Quiet ys) :
    Quiet (xs ++ ys) := by
  intro before taken c after heq htaken
  rcases append_cons_eq_append heq.symm with ⟨more, rfl⟩ | ⟨more, hfront, rfl⟩
  · exact hx.1 before taken c more rfl htaken
  · -- The letters cannot reach over the border, as the last character before it is none of them.
    rcases List.append_eq_append_iff.1 hfront with ⟨border, rfl, rfl⟩ | ⟨border, rfl, rfl⟩
    · rcases List.eq_nil_or_concat border with rfl | ⟨rest, d, rfl⟩
      · exact hy [] more c after (by simp) (by simpa using htaken)
      · have hd : d.toLower ∉ createWord := hx.2 d (by simp [← List.append_assoc])
        exact absurd (htaken ▸ by simp) hd
    · exact hy border taken c after (by simp) htaken

/-- Sealed texts make a sealed text. -/
theorem Sealed.append {xs ys : List Char} (hx : Sealed xs) (hy : Sealed ys) :
    Sealed (xs ++ ys) := by
  refine ⟨hx.quiet_append hy.1, fun c hc => ?_⟩
  rw [List.getLast?_append, Option.mem_def, Option.or_eq_some_iff] at hc
  rcases hc with hc | ⟨-, hc⟩
  · exact hy.2 c hc
  · exact hx.2 c hc

/-! ## What keeps a text quiet -/

/-- A quiet text before a slash is quiet before a blank too. -/
theorem Quiet.seal {xs : List Char} (h : Quiet (xs ++ ['/'])) : Sealed (xs ++ [' ']) := by
  refine ⟨?_, by simp; decide⟩
  intro before taken c after heq htaken
  rcases append_cons_eq_append heq.symm with ⟨more, rfl⟩ | ⟨more, hfront, hrest⟩
  · exact h before taken c (more ++ ['/']) (by simp) htaken
  -- The blank stands where the slash stood, which is as loud.
  · cases more with
    | nil => exact absurd rfl (h before taken '/' [] (by simp [hfront]) htaken).2
    | cons d more => simp at hrest

/-- A quiet text is sealed by a character that is no white space, no slash and no letter of the
word. -/
theorem Quiet.concat {xs : List Char} {d : Char} (h : Quiet xs)
    (hd : Text.isWhite d = false ∧ d ≠ '/') (hletter : d.toLower ∉ createWord) :
    Sealed (xs ++ [d]) := by
  refine ⟨?_, by simpa using hletter⟩
  intro before taken c after heq htaken
  rcases append_cons_eq_append heq.symm with ⟨more, rfl⟩ | ⟨more, -, hrest⟩
  · exact h before taken c more rfl htaken
  · cases more with
    | nil =>
        obtain ⟨rfl, -⟩ := List.cons.inj hrest
        exact hd
    | cons e more => simp at hrest

/-- Taking comments out keeps a line quiet. -/
theorem Quiet.strip {cs : List Char} (h : Quiet cs) (inBlock : Bool) :
    Quiet (strip inBlock cs).1 := by
  fun_induction Ddl.strip inBlock cs with
  | case1 cs before rest hcut ih =>
      -- Behind the end of a block comment.
      rw [Text.cut?_eq_some hcut] at h
      exact ih (h.of_isInfix ⟨before ++ blockEnd, [], by simp⟩)
  | case2 => exact quiet_nil
  | case3 => exact h
  | case4 inBlock cs _ kept hmark =>
      -- Before a line comment.
      obtain ⟨hidden, hcut⟩ := cut?_of_firstMark_line hmark
      rw [Text.cut?_eq_some hcut] at h
      exact h.of_isInfix ⟨[], dashes ++ hidden, by simp⟩
  | case5 inBlock cs _ kept rest hmark more _ hmore ih =>
      -- Before and behind a block comment, which leaves a blank.
      rw [Text.cut?_eq_some (cut?_of_firstMark_block hmark)] at h
      have hrest : Quiet rest := h.of_isInfix ⟨kept ++ blockStart, [], by simp⟩
      have hkept : Quiet (kept ++ ['/']) := h.of_isInfix ⟨[], '*' :: rest, by simp [blockStart]⟩
      have hmore' : Quiet more := by simpa [hmore] using ih hrest
      simpa using hkept.seal.quiet_append hmore'

/-- White space taken off the ends of a text leaves a part of it. -/
theorem trim_isInfix (cs : List Char) : Text.trim cs <:+: cs := by
  have hend : ∀ ds : List Char, Text.trimEnd ds <+: ds := fun ds => by
    have h := List.reverse_prefix.2 (List.dropWhile_suffix (l := ds.reverse) Text.isWhite)
    simpa [Text.trimEnd] using h
  exact (hend _).isInfix.trans (List.dropWhile_suffix _).isInfix

/-- Behind a word without blanks, a squeezed text shows white space or a slash only where there was
some before. -/
theorem exists_of_squeezeAfter {cs taken after : List Char} {c : Char}
    (h : squeezeAfter false cs = taken ++ c :: after) (htaken : ' ' ∉ taken) :
    ∃ d after', cs = taken ++ d :: after'
      ∧ (Text.isWhite d = false ∧ d ≠ '/' → Text.isWhite c = false ∧ c ≠ '/') := by
  induction taken generalizing cs with
  | nil =>
      cases cs with
      | nil => simp [squeezeAfter] at h
      | cons d cs =>
          refine ⟨d, cs, rfl, ?_⟩
          -- A blank may stand for a tab, and that is white space too.
          rw [squeezeAfter] at h
          split at h
          · rename_i hd
            intro hquiet
            rcases hd with rfl | rfl
            · exact absurd hquiet (by decide)
            · exact absurd hquiet (by decide)
          · obtain ⟨rfl, -⟩ := List.cons.inj h
            exact id
  | cons t taken ih =>
      rw [List.mem_cons, not_or] at htaken
      cases cs with
      | nil => simp [squeezeAfter] at h
      | cons d cs =>
          rw [squeezeAfter] at h
          split at h
          · simp only [Bool.false_eq_true, if_false, List.cons_append, List.cons.injEq] at h
            exact absurd h.1 htaken.1
          · obtain ⟨rfl, hrest⟩ := List.cons.inj h
            obtain ⟨e, after', rfl, hkeep⟩ := ih hrest htaken.2
            exact ⟨e, after', rfl, hkeep⟩

/-- Squeezing keeps a text quiet. -/
theorem Quiet.squeezeAfter {cs : List Char} (h : Quiet cs) (gap : Bool) :
    Quiet (squeezeAfter gap cs) := by
  induction cs generalizing gap with
  | nil => exact quiet_nil
  | cons c cs ih =>
      have hrest : Quiet cs := ((quiet_cons_iff c cs).1 h).2
      rw [Ddl.squeezeAfter]
      split
      · split
        · exact ih hrest true
        · have hblank : Sealed [' '] := by decide
          exact hblank.quiet_append (ih hrest true)
      · rename_i hc
        rintro before taken d after heq htaken
        cases before with
        | nil =>
            have hsq : Ddl.squeezeAfter false (c :: cs) = taken ++ d :: after := by
              rw [Ddl.squeezeAfter, if_neg hc]
              exact heq
            have hblank : ' ' ∉ taken := by
              -- No letter of the word is a blank, so squeezing leaves the letters alone.
              intro hmem
              have := List.mem_map_of_mem (f := Char.toLower) hmem
              rw [htaken] at this
              exact absurd this (by decide)
            obtain ⟨e, after', hcs, hkeep⟩ := exists_of_squeezeAfter hsq hblank
            exact hkeep (h [] taken e after' hcs htaken)
        | cons b before =>
            obtain ⟨-, heq⟩ := List.cons.inj heq
            exact ih hrest false before taken d after heq htaken

/-- Cleaning keeps a line quiet. -/
theorem Quiet.clean {cs : List Char} (h : Quiet cs) : Quiet (clean cs) :=
  (h.of_isInfix (trim_isInfix cs)).squeezeAfter false

/-! ## Quiet lines hold no statement -/

/-- No statement starts in a quiet text. -/
theorem Quiet.fromCreateTable? {cs : List Char} (h : Quiet cs) : fromCreateTable? cs = none := by
  induction cs with
  | nil => rfl
  | cons c cs ih =>
      obtain ⟨hstart, hrest⟩ := (quiet_cons_iff c cs).1 h
      have hskip : skipCreateTable? (c :: cs) = none := by
        unfold skipCreateTable?
        cases hword : skipWord? createWord (c :: cs) with
        | none =>
            rw [createWord] at hword
            rw [hword]
            rfl
        | some after =>
            rw [createWord] at hword
            rw [hword]
            cases after with
            | nil => rfl
            | cons d after =>
                have hwhite : Text.isWhite d = false := by
                  simp only [startsLoud, createWord, hword, Bool.or_eq_false_iff] at hstart
                  exact hstart.1
                show (skipWhite? (d :: after)).bind _ = none
                simp [skipWhite?, hwhite]
      rw [Ddl.fromCreateTable?, hskip, ih hrest]
      rfl

/-- A scanner between statements finds none in a quiet text. -/
theorem Quiet.scanOutside {cs : List Char} (h : Quiet cs) : scanOutside cs = ([], .outside) := by
  rw [Ddl.scanOutside]
  split
  · rfl
  · rename_i hstart
    cases hstart.symm.trans h.fromCreateTable?

/-- A scanner between statements passes a quiet line over. -/
theorem Quiet.feed {line : List Char} (h : Quiet line) (inBlock : Bool) :
    Scanner.feed ⟨inBlock, .outside⟩ line = ([], ⟨(Ddl.strip inBlock line).2, .outside⟩) := by
  simp only [Scanner.feed, scanLine, (h.strip inBlock).clean.scanOutside]
  split <;> rfl

/-- A scanner between statements passes quiet lines over. -/
theorem run_quiet {lines : List (List Char)} (h : ∀ line ∈ lines, Quiet line) (inBlock : Bool) :
    ∃ inBlock', Scanner.run ⟨inBlock, .outside⟩ lines = ([], ⟨inBlock', .outside⟩) := by
  induction lines generalizing inBlock with
  | nil => exact ⟨inBlock, rfl⟩
  | cons line lines ih =>
      obtain ⟨inBlock', hrun⟩ := ih (fun l hl => h l (by simp [hl])) (Ddl.strip inBlock line).2
      refine ⟨inBlock', ?_⟩
      simp only [Scanner.run, (h line (by simp)).feed, hrun, List.append_nil]

/-! ## The lines of a quiet text -/

/-- The first piece of a split text stands at its start. -/
theorem isPrefix_of_splitOn {p : Char → Bool} {cs piece : List Char} {more : List (List Char)}
    (h : Text.splitOn p cs = piece :: more) : piece <+: cs := by
  induction cs generalizing piece more with
  | nil =>
      simp only [Text.splitOn, List.cons.injEq] at h
      exact h.1 ▸ List.nil_prefix
  | cons c cs ih =>
      rw [Text.splitOn] at h
      split at h
      · obtain ⟨rfl, -⟩ := List.cons.inj h
        exact List.nil_prefix
      · split at h
        · rename_i hnil
          exact absurd hnil (Text.splitOn_ne_nil p cs)
        · rename_i hsplit
          obtain ⟨rfl, -⟩ := List.cons.inj h
          exact List.prefix_cons_inj c |>.2 (ih hsplit)

/-- The pieces of a split text are parts of it. -/
theorem isInfix_of_mem_splitOn {p : Char → Bool} {cs piece : List Char}
    (h : piece ∈ Text.splitOn p cs) : piece <:+: cs := by
  induction cs with
  | nil =>
      simp only [Text.splitOn, List.mem_singleton] at h
      exact h ▸ List.nil_infix
  | cons c cs ih =>
      have hrest : cs <:+: c :: cs := (List.suffix_cons c cs).isInfix
      cases hsplit : Text.splitOn p cs with
      | nil => exact absurd hsplit (Text.splitOn_ne_nil p cs)
      | cons first more =>
          rw [Text.splitOn, hsplit] at h
          rw [hsplit] at ih
          split at h
          · rcases List.mem_cons.1 h with rfl | h
            · exact List.nil_infix
            · exact (ih h).trans hrest
          · rcases List.mem_cons.1 h with rfl | h
            · exact ((List.prefix_cons_inj c).2 (isPrefix_of_splitOn hsplit)).isInfix
            · exact (ih (List.mem_cons_of_mem _ h)).trans hrest

/-- A line is a part of a piece between line feeds. -/
theorem exists_of_mem_linesOfPieces {pieces : List (List Char)} {line : List Char}
    (h : line ∈ Text.linesOfPieces pieces) : ∃ piece ∈ pieces, line <:+: piece := by
  fun_induction Text.linesOfPieces pieces with
  | case1 => simp at h
  | case2 last => simp at h
  | case3 last _ =>
      obtain rfl := List.mem_singleton.1 h
      exact ⟨_, by simp, List.infix_refl _⟩
  | case4 piece pieces _ ih =>
      rcases List.mem_cons.1 h with rfl | h
      · refine ⟨piece, by simp, ?_⟩
        unfold Text.chopReturn
        split
        · exact (List.dropLast_prefix piece).isInfix
        · exact List.infix_refl piece
      · obtain ⟨q, hq, hline⟩ := ih h
        exact ⟨q, List.mem_cons_of_mem _ hq, hline⟩

/-- The lines of a quiet text are quiet. -/
theorem Quiet.lines {cs line : List Char} (h : Quiet cs) (hline : line ∈ Text.lines cs) :
    Quiet line := by
  obtain ⟨piece, hpiece, hpart⟩ := exists_of_mem_linesOfPieces hline
  exact h.of_isInfix (hpart.trans (isInfix_of_mem_splitOn hpiece))

end Schemata.Ddl
