import Mathlib.Logic.Relation
import Schemata.Ddl.Reader
import Schemata.Proofs.Neat

/-! # Layout

How the lines of a text are laid out does not matter to a reader: how wide the gaps between words
are, what stands at the ends of a line, and how many lines without words there are. Two lines are
alike when they differ in their gaps and in the gap at their end only. Comments are found at the
same places of alike lines, so what is left of these is alike, and cleaning makes it equal. -/

namespace Schemata.Ddl

/-! ## Alike texts -/

/-- The characters that a gap is made of. -/
abbrev IsGapChar (c : Char) : Prop := c = ' ' ∨ c = '\t'

/-- Whether a text is made of blanks and tabs. -/
def IsPadding (cs : List Char) : Prop := ∀ c ∈ cs, IsGapChar c

instance (cs : List Char) : Decidable (IsPadding cs) :=
  inferInstanceAs (Decidable (∀ c ∈ cs, IsGapChar c))

/-- Whether two texts differ only in the width and the make of their gaps, and in the gap at their
end, which may be missing. -/
inductive Alike : List Char → List Char → Prop where
  /-- Gaps at the end. -/
  | ends {gap gap' : List Char} (h : IsPadding gap) (h' : IsPadding gap') : Alike gap gap'
  /-- The same character at the start. -/
  | cons (c : Char) {cs ds : List Char} (rest : Alike cs ds) : Alike (c :: cs) (c :: ds)
  /-- Gaps at the start, both of which are there. -/
  | gap {gap gap' cs ds : List Char} (h : IsPadding gap) (h' : IsPadding gap') (hne : gap ≠ [])
      (hne' : gap' ≠ []) (rest : Alike cs ds) : Alike (gap ++ cs) (gap' ++ ds)

namespace Alike

/-- A text is like itself. -/
theorem refl (cs : List Char) : Alike cs cs := by
  induction cs with
  | nil => exact .ends (by simp [IsPadding]) (by simp [IsPadding])
  | cons c cs ih => exact .cons c ih

/-- Texts are like each other. -/
theorem symm {cs ds : List Char} (h : Alike cs ds) : Alike ds cs := by
  induction h with
  | ends h h' => exact .ends h' h
  | cons c _ ih => exact .cons c ih
  | gap h h' hne hne' _ ih => exact .gap h' h hne' hne ih

/-- The same text may stand before alike ones. -/
theorem append_left (front : List Char) {cs ds : List Char} (h : Alike cs ds) :
    Alike (front ++ cs) (front ++ ds) := by
  induction front with
  | nil => exact h
  | cons c front ih => exact .cons c ih

/-- Alike texts may follow alike ones behind a blank, which takes up the gaps before it. -/
theorem append_blank {cs ds more more' : List Char} (h : Alike cs ds) (hmore : Alike more more') :
    Alike (cs ++ ' ' :: more) (ds ++ ' ' :: more') := by
  induction h with
  | @ends gap gap' h h' =>
      have hblank : ∀ {gap : List Char}, IsPadding gap → IsPadding (gap ++ [' ']) := fun h =>
        List.forall_mem_append.2 ⟨h, by simp [IsGapChar]⟩
      have hgap := Alike.gap (hblank h) (hblank h') (by simp) (by simp) hmore
      rwa [List.append_assoc, List.append_assoc] at hgap
  | cons c _ ih => exact .cons c ih
  | gap h h' hne hne' _ ih =>
      rw [List.append_assoc, List.append_assoc]
      exact .gap h h' hne hne' ih

/-- What is like a text that starts with no gap starts with the same character. -/
theorem of_cons {c : Char} {cs ds : List Char} (h : Alike (c :: cs) ds) (hc : ¬ IsGapChar c) :
    ∃ ds', ds = c :: ds' ∧ Alike cs ds' := by
  generalize hxs : c :: cs = xs at h
  cases h with
  | ends h _ => exact absurd (h c (hxs ▸ List.mem_cons_self)) hc
  | cons d rest =>
      obtain ⟨rfl, rfl⟩ := List.cons.inj hxs
      exact ⟨_, rfl, rest⟩
  | @gap gap _ _ _ h _ hne =>
      cases gap with
      | nil => exact absurd rfl hne
      | cons d gap =>
          obtain ⟨rfl, -⟩ := List.cons.inj hxs
          exact absurd (h c List.mem_cons_self) hc

/-! ## Words in alike texts -/

variable {word cs ds : List Char}

/-- A word without gaps that one of two alike texts starts with starts the other one too. -/
theorem skip? (hword : ∀ c ∈ word, ¬ IsGapChar c) (h : Alike cs ds) :
    Option.Rel Alike (Text.skip? word cs) (Text.skip? word ds) := by
  have hsome : ∀ {cs ds after}, Alike cs ds → Text.skip? word cs = some after →
      ∃ after', Text.skip? word ds = some after' ∧ Alike after after' := by
    simp only [Text.skip?_eq_some_iff]
    induction word with
    | nil =>
        rintro cs ds after h rfl
        exact ⟨ds, rfl, h⟩
    | cons w word ih =>
        rintro cs ds after h rfl
        obtain ⟨hw, hword⟩ := List.forall_mem_cons.1 hword
        obtain ⟨ds', rfl, h'⟩ := h.of_cons hw
        obtain ⟨after', rfl, hafter⟩ := ih hword h' rfl
        exact ⟨after', rfl, hafter⟩
  cases hcs : Text.skip? word cs with
  | some after =>
      obtain ⟨after', hds, hafter⟩ := hsome h hcs
      rw [hds]
      exact .some hafter
  | none =>
      cases hds : Text.skip? word ds with
      | some after =>
          obtain ⟨_, hcs', -⟩ := hsome h.symm hds
          cases hcs.symm.trans hcs'
      | none => exact .none

end Alike

/-- A word without gaps does not start in a gap. -/
theorem skip?_gap {w c : Char} (hw : ¬ IsGapChar w) (hc : IsGapChar c) (word cs : List Char) :
    Text.skip? (w :: word) (c :: cs) = none := by
  have hne : w ≠ c := fun e => hw (e ▸ hc)
  rw [Text.skip?, if_neg hne]

/-- A text is cut at a word behind the gap that it starts with. -/
theorem cut?_padding_append {w : Char} {word gap : List Char} (hw : ¬ IsGapChar w)
    (h : IsPadding gap) (cs : List Char) :
    Text.cut? (w :: word) (gap ++ cs)
      = (Text.cut? (w :: word) cs).map fun parts => (gap ++ parts.1, parts.2) := by
  induction gap with
  | nil => simp
  | cons c gap ih =>
      obtain ⟨hc, hgap⟩ := List.forall_mem_cons.1 h
      rw [List.cons_append, Text.cut?, skip?_gap hw hc, ih hgap, Option.map_map]
      rfl

/-- No word without gaps is in a gap. -/
theorem cut?_padding {w : Char} {word gap : List Char} (hw : ¬ IsGapChar w) (h : IsPadding gap) :
    Text.cut? (w :: word) gap = none :=
  Text.cut?_eq_none_of_not_mem (fun hmem => hw (h w hmem)) word

/-- A word without gaps is found in alike texts alike. -/
theorem Alike.cut? {w : Char} {word cs ds : List Char} (hword : ∀ c ∈ w :: word, ¬ IsGapChar c)
    (h : Alike cs ds) :
    Option.Rel (fun p q => Alike p.2 q.2) (Text.cut? (w :: word) cs)
      (Text.cut? (w :: word) ds) := by
  have hw : ¬ IsGapChar w := hword w List.mem_cons_self
  have hmap : ∀ {p? q? : Option (List Char × List Char)} (f g : List Char → List Char),
      Option.Rel (fun p q => Alike p.2 q.2) p? q? →
      Option.Rel (fun p q => Alike p.2 q.2) (p?.map fun p => (f p.1, p.2))
        (q?.map fun q => (g q.1, q.2)) := by
    rintro _ _ f g (hrest | _)
    · exact .some hrest
    · exact .none
  induction h with
  | ends h h' =>
      rw [cut?_padding hw h, cut?_padding hw h']
      exact .none
  | @cons c cs ds rest ih =>
      have hskip := (Alike.cons c rest).skip? hword
      rw [Text.cut?, Text.cut?]
      generalize Text.skip? (w :: word) (c :: cs) = skipped at hskip
      generalize Text.skip? (w :: word) (c :: ds) = skipped' at hskip
      cases hskip with
      | some hafter => exact .some hafter
      | none => exact hmap _ _ ih
  | gap h h' _ _ _ ih =>
      rw [cut?_padding_append hw h, cut?_padding_append hw h']
      exact hmap _ _ ih

/-! ## Comments of alike lines -/

namespace CommentMark

/-- A comment mark behind further text. -/
def behind (front : List Char) : CommentMark → CommentMark
  | .none => .none
  | .line kept => .line (front ++ kept)
  | .block kept rest => .block (front ++ kept) rest

/-- Whether what stands before and after two comment marks of one kind is alike. -/
inductive Alike : CommentMark → CommentMark → Prop where
  /-- No comment in either text. -/
  | none : Alike .none .none
  /-- A comment up to the end of the line. -/
  | line {kept kept' : List Char} (h : Ddl.Alike kept kept') : Alike (.line kept) (.line kept')
  /-- A block comment. -/
  | block {kept kept' rest rest' : List Char} (h : Ddl.Alike kept kept')
      (h' : Ddl.Alike rest rest') : Alike (.block kept rest) (.block kept' rest')

end CommentMark

/-- The first comment of a text starts at its first character, or is that of the text behind. -/
theorem firstMark_cons (c : Char) (cs : List Char) :
    firstMark (c :: cs)
      = match Text.skip? dashes (c :: cs), Text.skip? blockStart (c :: cs) with
        | some _, _ => .line []
        | none, some rest => .block [] rest
        | none, none => (firstMark cs).behind [c] := by
  simp only [firstMark, Text.cut?]
  cases hdashes : Text.skip? dashes (c :: cs) with
  | some hidden =>
      -- A text that starts with dashes starts with no block comment.
      obtain ⟨rfl, -⟩ := List.cons.inj (Text.skip?_eq_some_iff.1 hdashes)
      have hblock : Text.skip? blockStart ('-' :: cs) = none := by
        rw [blockStart, Text.skip?, if_neg (by decide)]
      rw [hblock]
      cases Text.cut? blockStart cs <;> simp
  | none =>
      cases hblock : Text.skip? blockStart (c :: cs) with
      | some rest => cases Text.cut? dashes cs <;> simp
      | none =>
          cases Text.cut? dashes cs <;> cases Text.cut? blockStart cs <;>
            simp [CommentMark.behind]
          split <;> simp

/-- The first comment of a text behind a gap. -/
theorem firstMark_padding_append {gap : List Char} (h : IsPadding gap) (cs : List Char) :
    firstMark (gap ++ cs) = (firstMark cs).behind gap := by
  induction gap with
  | nil => cases hmark : firstMark cs <;> simp [hmark, CommentMark.behind]
  | cons c gap ih =>
      obtain ⟨hc, hgap⟩ := List.forall_mem_cons.1 h
      rw [List.cons_append, firstMark_cons, dashes, blockStart, skip?_gap (by decide) hc,
        skip?_gap (by decide) hc, ih hgap]
      cases firstMark cs <;> rfl

/-- The first comments of alike texts are alike. -/
theorem Alike.firstMark {cs ds : List Char} (h : Alike cs ds) :
    (firstMark cs).Alike (firstMark ds) := by
  induction h with
  | @ends gap gap' h h' =>
      have hnone : ∀ {gap : List Char}, IsPadding gap → Ddl.firstMark gap = .none := by
        intro gap h
        have hbehind := firstMark_padding_append h []
        rwa [List.append_nil] at hbehind
      rw [hnone h, hnone h']
      exact .none
  | @cons c cs ds rest ih =>
      have hdashes := (Alike.cons c rest).skip? (by decide : ∀ c ∈ dashes, ¬ IsGapChar c)
      have hblock := (Alike.cons c rest).skip? (by decide : ∀ c ∈ blockStart, ¬ IsGapChar c)
      rw [firstMark_cons, firstMark_cons]
      generalize Text.skip? dashes (c :: cs) = skipped at hdashes
      generalize Text.skip? dashes (c :: ds) = skipped' at hdashes
      generalize Text.skip? blockStart (c :: cs) = started at hblock
      generalize Text.skip? blockStart (c :: ds) = started' at hblock
      cases hdashes with
      | some => exact .line (.refl [])
      | none =>
          cases hblock with
          | some hrest => exact .block (.refl []) hrest
          | none =>
              generalize Ddl.firstMark cs = mark at ih
              generalize Ddl.firstMark ds = mark' at ih
              cases ih with
              | none => exact .none
              | line hkept => exact .line (.cons c hkept)
              | block hkept hrest => exact .block (.cons c hkept) hrest
  | @gap _ _ cs ds h h' hne hne' _ ih =>
      rw [firstMark_padding_append h, firstMark_padding_append h']
      generalize Ddl.firstMark cs = mark at ih
      generalize Ddl.firstMark ds = mark' at ih
      cases ih with
      | none => exact .none
      | line hkept => exact .line (.gap h h' hne hne' hkept)
      | block hkept hrest => exact .block (.gap h h' hne hne' hkept) hrest

/-- Without their comments, alike lines are alike, and they end inside a block comment or not
alike. -/
theorem Alike.strip {cs ds : List Char} (h : Alike cs ds) (inBlock : Bool) :
    Alike (strip inBlock cs).1 (strip inBlock ds).1
      ∧ (Ddl.strip inBlock cs).2 = (Ddl.strip inBlock ds).2 := by
  -- Along the comments of the first line; those of the second are where the relation has them.
  fun_induction Ddl.strip inBlock cs generalizing ds with
  | case1 cs before rest hcut ih =>
      have hrel := h.cut? (by decide : ∀ c ∈ blockEnd, ¬ IsGapChar c)
      rw [show ['*', '/'] = blockEnd from rfl, hcut] at hrel
      rw [strip_true]
      generalize Text.cut? blockEnd ds = cut at hrel
      cases hrel with
      | some hrest => exact ih hrest
  | case2 cs hcut =>
      have hrel := h.cut? (by decide : ∀ c ∈ blockEnd, ¬ IsGapChar c)
      rw [show ['*', '/'] = blockEnd from rfl, hcut] at hrel
      rw [strip_true]
      generalize Text.cut? blockEnd ds = cut at hrel
      cases hrel
      exact ⟨.refl [], rfl⟩
  | case3 inBlock cs hblock hmark =>
      obtain rfl : inBlock = false := by simpa using hblock
      have hrel := h.firstMark
      rw [hmark] at hrel
      rw [strip_false]
      generalize Ddl.firstMark ds = mark at hrel
      cases hrel
      exact ⟨h, rfl⟩
  | case4 inBlock cs hblock kept hmark =>
      obtain rfl : inBlock = false := by simpa using hblock
      have hrel := h.firstMark
      rw [hmark] at hrel
      rw [strip_false]
      generalize Ddl.firstMark ds = mark at hrel
      cases hrel with
      | line hkept => exact ⟨hkept, rfl⟩
  | case5 inBlock cs hblock kept rest hmark more closes hmore ih =>
      obtain rfl : inBlock = false := by simpa using hblock
      have hrel := h.firstMark
      rw [hmark] at hrel
      rw [strip_false]
      generalize Ddl.firstMark ds = mark at hrel
      cases hrel with
      | block hkept hrest =>
          have hmore' := ih hrest
          rw [hmore] at hmore'
          exact ⟨hkept.append_blank hmore'.1, hmore'.2⟩

/-- The gap in front of a line does not matter to what is left of its comments. -/
theorem strip_padding_append {gap : List Char} (h : IsPadding gap) (inBlock : Bool)
    (cs : List Char) : (strip inBlock (gap ++ cs)).2 = (strip inBlock cs).2
      ∧ ∃ gap', IsPadding gap' ∧ (strip inBlock (gap ++ cs)).1 = gap' ++ (strip inBlock cs).1 := by
  cases inBlock with
  | true =>
      rw [strip_true, strip_true, blockEnd, cut?_padding_append (by decide) h]
      refine ⟨?_, [], by simp [IsPadding], ?_⟩ <;> cases Text.cut? ['*', '/'] cs <;> rfl
  | false =>
      rw [strip_false, strip_false, firstMark_padding_append h]
      refine ⟨?_, gap, h, ?_⟩ <;> cases firstMark cs <;> simp [CommentMark.behind]

/-! ## Cleaning alike lines -/

/-- Gaps are white space. -/
theorem IsPadding.isWhite {gap : List Char} (h : IsPadding gap) :
    ∀ c ∈ gap, Text.isWhite c = true := by
  intro c hc
  rcases h c hc with rfl | rfl <;> decide

/-- Trimming takes the gap in front off. -/
theorem trimStart_padding_append {gap : List Char} (h : IsPadding gap) (cs : List Char) :
    Text.trimStart (gap ++ cs) = Text.trimStart cs :=
  List.dropWhile_append_of_pos h.isWhite

/-- Trimming takes a gap off the end only where nothing but white space follows. -/
theorem trimEnd_padding_append {gap : List Char} (h : IsPadding gap) (cs : List Char) :
    Text.trimEnd (gap ++ cs)
      = if (Text.trimEnd cs).isEmpty then [] else gap ++ Text.trimEnd cs := by
  induction gap with
  | nil => cases hcs : Text.trimEnd cs <;> simp [hcs]
  | cons c gap ih =>
      obtain ⟨hc, hgap⟩ := List.forall_mem_cons.1 h
      have hwhite : Text.isWhite c = true := h.isWhite c List.mem_cons_self
      rw [List.cons_append, Text.trimEnd_cons, ih hgap, hwhite]
      cases Text.trimEnd cs <;> simp

/-- A gap behind a gap is squeezed away. -/
theorem squeezeAfter_padding_append {gap : List Char} (h : IsPadding gap) (cs : List Char) :
    squeezeAfter true (gap ++ cs) = squeezeAfter true cs := by
  induction gap with
  | nil => rfl
  | cons c gap ih =>
      obtain ⟨hc, hgap⟩ := List.forall_mem_cons.1 h
      rw [List.cons_append, squeezeAfter, if_pos hc, if_pos rfl, ih hgap]

/-- Gaps that are there are squeezed alike. -/
theorem squeezeAfter_gap {gap : List Char} (h : IsPadding gap) (hne : gap ≠ []) (after : Bool)
    (cs : List Char) :
    squeezeAfter after (gap ++ cs) = (if after then [] else [' ']) ++ squeezeAfter true cs := by
  cases gap with
  | nil => exact absurd rfl hne
  | cons c gap =>
      obtain ⟨hc, hgap⟩ := List.forall_mem_cons.1 h
      rw [List.cons_append, squeezeAfter, if_pos hc, squeezeAfter_padding_append hgap]
      cases after <;> rfl

namespace Alike

/-- Alike texts are alike without the white space in front. -/
theorem trimStart {cs ds : List Char} (h : Alike cs ds) :
    Alike (Text.trimStart cs) (Text.trimStart ds) := by
  induction h with
  | ends h h' =>
      have hnil : ∀ {gap : List Char}, IsPadding gap → Text.trimStart gap = [] := by
        intro gap h
        have hgap := trimStart_padding_append h []
        rwa [List.append_nil] at hgap
      rw [hnil h, hnil h']
      exact .refl []
  | @cons c cs ds rest ih =>
      rw [Text.trimStart, Text.trimStart, List.dropWhile_cons, List.dropWhile_cons]
      cases Text.isWhite c with
      | true => exact ih
      | false => exact .cons c rest
  | gap h h' _ _ _ ih =>
      rw [trimStart_padding_append h, trimStart_padding_append h']
      exact ih

/-- Alike texts without the white space behind are squeezed to one text, whatever stands before
them. -/
theorem squeeze_trimEnd {cs ds : List Char} (h : Alike cs ds) :
    (Text.trimEnd cs).isEmpty = (Text.trimEnd ds).isEmpty
      ∧ ∀ after, squeezeAfter after (Text.trimEnd cs) = squeezeAfter after (Text.trimEnd ds) := by
  induction h with
  | ends h h' =>
      have hnil : ∀ {gap : List Char}, IsPadding gap → Text.trimEnd gap = [] := by
        intro gap h
        have hgap := trimEnd_padding_append h []
        rwa [List.append_nil] at hgap
      rw [hnil h, hnil h']
      exact ⟨rfl, fun _ => rfl⟩
  | @cons c cs ds rest ih =>
      obtain ⟨hempty, hsqueeze⟩ := ih
      rw [Text.trimEnd_cons, Text.trimEnd_cons, hempty]
      split
      · exact ⟨rfl, fun _ => rfl⟩
      · refine ⟨rfl, fun after => ?_⟩
        rw [squeezeAfter, squeezeAfter, hsqueeze, hsqueeze]
  | gap h h' hne hne' _ ih =>
      obtain ⟨hempty, hsqueeze⟩ := ih
      rw [trimEnd_padding_append h, trimEnd_padding_append h', hempty]
      split
      · exact ⟨rfl, fun _ => rfl⟩
      · refine ⟨?_, fun after => ?_⟩
        · rw [List.isEmpty_eq_false_iff.2 (List.append_ne_nil_of_left_ne_nil hne _),
            List.isEmpty_eq_false_iff.2 (List.append_ne_nil_of_left_ne_nil hne' _)]
        · rw [squeezeAfter_gap h hne, squeezeAfter_gap h' hne', hsqueeze]

/-- Cleaning makes alike lines equal. -/
theorem clean {cs ds : List Char} (h : Alike cs ds) : clean cs = clean ds :=
  h.trimStart.squeeze_trimEnd.2 false

end Alike

/-- Cleaning takes the gap in front off. -/
theorem clean_padding_append {gap : List Char} (h : IsPadding gap) (cs : List Char) :
    clean (gap ++ cs) = clean cs := by
  rw [clean, clean, Text.trim, Text.trim, trimStart_padding_append h]

/-! ## Edits of a line -/

/-- One edit of the layout of a line. -/
inductive LineEdit : List Char → List Char → Prop where
  /-- A gap is replaced by another one. -/
  | gap (before after : List Char) {gap gap' : List Char} (h : IsPadding gap)
      (h' : IsPadding gap') (hne : gap ≠ []) (hne' : gap' ≠ []) :
      LineEdit (before ++ gap ++ after) (before ++ gap' ++ after)
  /-- Blanks and tabs are put in front. -/
  | front (line : List Char) {gap : List Char} (h : IsPadding gap) : LineEdit line (gap ++ line)
  /-- Blanks and tabs are put at the end. -/
  | back (line : List Char) {gap : List Char} (h : IsPadding gap) : LineEdit line (line ++ gap)

namespace Scanner

/-- A scanner does the same with lines of which the same is left. -/
theorem feed_congr {s : Scanner} {line line' : List Char}
    (hblock : (strip s.inBlock line).2 = (strip s.inBlock line').2)
    (hclean : clean (strip s.inBlock line).1 = clean (strip s.inBlock line').1) :
    s.feed line = s.feed line' := by
  simp only [feed, hblock, hclean]

/-- A scanner does the same with alike lines. -/
theorem feed_alike (s : Scanner) {line line' : List Char} (h : Alike line line') :
    s.feed line = s.feed line' :=
  have hstrip := h.strip s.inBlock
  feed_congr hstrip.2 hstrip.1.clean

/-- A scanner does the same with a line before and after an edit of its layout. -/
theorem feed_edit (s : Scanner) {line line' : List Char} (h : LineEdit line line') :
    s.feed line = s.feed line' := by
  cases h with
  | gap before after h h' hne hne' =>
      rw [List.append_assoc, List.append_assoc]
      exact s.feed_alike ((Alike.gap h h' hne hne' (.refl after)).append_left before)
  | @front line gap h =>
      -- The other line has no gap there, so the lines are not alike before they are cleaned.
      obtain ⟨hblock, gap', h', hkept⟩ := strip_padding_append h s.inBlock line
      refine (feed_congr hblock ?_).symm
      rw [hkept, clean_padding_append h']
  | @back line gap h =>
      have hends : Alike [] gap := .ends (by simp [IsPadding]) h
      have halike := hends.append_left line
      rw [List.append_nil] at halike
      exact s.feed_alike halike

end Scanner

/-! ## Lines that are passed over -/

/-- Where no comment mark is, a line is kept outside block comments and hidden inside. -/
theorem strip_of_unmarked {line : List Char} (hdash : '-' ∉ line) (hslash : '/' ∉ line)
    (hstar : '*' ∉ line) (inBlock : Bool) :
    strip inBlock line = (if inBlock then [] else line, inBlock) := by
  cases inBlock with
  | true => exact strip_true_of_not_mem hstar
  | false => exact strip_false_of_not_mem hdash hslash

/-- Nothing is left of white space when it is cleaned. -/
theorem clean_of_isWhite {line : List Char} (h : ∀ c ∈ line, Text.isWhite c = true) :
    clean line = [] := by
  have htrim : Text.trim (line ++ [] ++ []) = [] :=
    Text.trim_append h (by simp) (by simp) (by simp)
  rw [List.append_nil, List.append_nil] at htrim
  rw [clean, htrim]
  rfl

/-- The lines that only separate batches, in any letter case. -/
def batchLines : List (List Char) := [['G', 'O'], ['G', 'o'], ['g', 'O'], ['g', 'o']]

namespace Scanner

/-- A scanner passes over a line of which nothing but a batch end is left, or nothing at all. -/
theorem feed_eq_nil {s : Scanner} {line : List Char} (hblock : (strip s.inBlock line).2 = s.inBlock)
    (hclean : clean (strip s.inBlock line).1 = []
      ∨ isBatchEnd (clean (strip s.inBlock line).1) = true) : s.feed line = ([], s) := by
  have hskipped : ((clean (strip s.inBlock line).1).isEmpty
      || isBatchEnd (clean (strip s.inBlock line).1)) = true := by
    rcases hclean with hnil | hbatch
    · rw [hnil]
      rfl
    · rw [hbatch, Bool.or_true]
  simp only [feed, hblock, hskipped, if_true]

/-- A scanner passes over a blank line, wherever it stands. -/
theorem feed_blank (s : Scanner) {line : List Char} (h : ∀ c ∈ line, Text.isWhite c = true) :
    s.feed line = ([], s) := by
  have hnot : ∀ c, Text.isWhite c = false → c ∉ line := by
    intro c hc hmem
    rw [h c hmem] at hc
    cases hc
  have hstrip := strip_of_unmarked (hnot '-' (by decide)) (hnot '/' (by decide))
    (hnot '*' (by decide)) s.inBlock
  refine feed_eq_nil (by rw [hstrip]) (.inl ?_)
  rw [hstrip]
  split
  · rfl
  · exact clean_of_isWhite h

/-- A scanner passes over a line that separates batches, wherever it stands. -/
theorem feed_batchLine (s : Scanner) {line : List Char} (h : line ∈ batchLines) :
    s.feed line = ([], s) := by
  have hmarks : ∀ line ∈ batchLines, '-' ∉ line ∧ '/' ∉ line ∧ '*' ∉ line := by decide
  have hbatch : ∀ line ∈ batchLines, isBatchEnd (clean line) = true := by decide
  obtain ⟨hdash, hslash, hstar⟩ := hmarks line h
  have hstrip := strip_of_unmarked hdash hslash hstar s.inBlock
  refine feed_eq_nil (by rw [hstrip]) ?_
  rw [hstrip]
  split
  · exact .inl rfl
  · exact .inr (hbatch line h)

/-- A scanner outside block comments passes over a line that is a comment. -/
theorem feed_commentLine {s : Scanner} (h : s.inBlock = false) (hidden : List Char) :
    s.feed (dashes ++ hidden) = ([], s) := by
  have hmark : firstMark ('-' :: '-' :: hidden) = .line [] := by
    rw [firstMark_cons, show Text.skip? dashes ('-' :: '-' :: hidden) = some hidden from rfl]
  have hstrip : strip s.inBlock (dashes ++ hidden) = ([], false) := by
    rw [h, dashes, List.cons_append, List.cons_append, List.nil_append, strip_false, hmark]
  refine feed_eq_nil (by rw [hstrip, h]) (.inl ?_)
  rw [hstrip]
  rfl

/-- Whether a scanner ends inside a block comment depends on the comments alone. -/
theorem inBlock_run (s : Scanner) (lines : List (List Char)) :
    (s.run lines).2.inBlock = (stripLines s.inBlock lines).2 := by
  induction lines generalizing s with
  | nil => rfl
  | cons line lines ih =>
      have hfeed : (s.feed line).2.inBlock = (strip s.inBlock line).2 := by
        rw [feed]
        dsimp only
        split <;> rfl
      rw [run, stripLines]
      exact (ih _).trans (by rw [hfeed])

/-- A line that a scanner passes over where it stands may be left out. -/
theorem run_insert {s : Scanner} {front : List (List Char)} {line : List Char}
    (h : (s.run front).2.feed line = ([], (s.run front).2)) (back : List (List Char)) :
    s.run (front ++ line :: back) = s.run (front ++ back) := by
  rw [run_append, run_append, run, h]
  rfl

/-- A scanner does the same with lines of which it does the same with one. -/
theorem run_replace (s : Scanner) (front back : List (List Char)) {line line' : List Char}
    (h : ∀ s : Scanner, s.feed line = s.feed line') :
    s.run (front ++ line :: back) = s.run (front ++ line' :: back) := by
  rw [run_append, run_append, run, run, h]

end Scanner

/-! ## Edits of a text -/

/-- One edit of the layout of some lines. -/
inductive Edit : List (List Char) → List (List Char) → Prop where
  /-- The layout of one line is edited. -/
  | line (front back : List (List Char)) {line line' : List Char} (h : LineEdit line line') :
      Edit (front ++ line :: back) (front ++ line' :: back)
  /-- A blank line is put anywhere. -/
  | blank (front back : List (List Char)) {line : List Char}
      (h : ∀ c ∈ line, Text.isWhite c = true) : Edit (front ++ back) (front ++ line :: back)
  /-- A line that separates batches is put anywhere. -/
  | batch (front back : List (List Char)) {line : List Char} (h : line ∈ batchLines) :
      Edit (front ++ back) (front ++ line :: back)
  /-- A line that is a comment is put where no block comment is open. -/
  | comment (front back : List (List Char)) (hidden : List Char)
      (h : (stripLines false front).2 = false) :
      Edit (front ++ back) (front ++ (dashes ++ hidden) :: back)

/-- An edit of the layout leaves the statements as they are. -/
theorem Edit.statements {xs ys : List (List Char)} (h : Edit xs ys) :
    statements xs = statements ys := by
  have hrun : Scanner.start.run xs = Scanner.start.run ys := by
    cases h with
    | line front back h => exact Scanner.run_replace _ front back fun s => s.feed_edit h
    | blank front back h => exact (Scanner.run_insert (Scanner.feed_blank _ h) back).symm
    | batch front back h => exact (Scanner.run_insert (Scanner.feed_batchLine _ h) back).symm
    | comment front back hidden h =>
        have houtside : (Scanner.start.run front).2.inBlock = false :=
          (Scanner.inBlock_run _ front).trans h
        exact (Scanner.run_insert (Scanner.feed_commentLine houtside hidden) back).symm
  rw [Ddl.statements, hrun, Ddl.statements]

/-- **Layout does not matter.** A reader makes the same of two texts that edits of the layout lead
between, back and forth: wider and narrower gaps, blanks and tabs at the ends of lines, and blank
lines, batch ends and comments put in or taken out. -/
theorem Reader.lines_eq_of_edits (r : Reader) {xs ys : List (List Char)}
    (h : Relation.EqvGen Edit xs ys) : r.lines xs = r.lines ys := by
  have hstatements : statements xs = statements ys := by
    induction h with
    | rel xs ys h => exact h.statements
    | refl xs => rfl
    | symm xs ys _ ih => exact ih.symm
    | trans xs ys zs _ _ ih ih' => exact ih.trans ih'
  rw [Reader.lines, hstatements, Reader.lines]

/-- A statement that a block comment runs through, before and after edits of every kind. -/
theorem Reader.lines_eq_of_edits_shop :
    let reader : Reader := ⟨"shop", "sales"⟩
    let xs := ["CREATE TABLE parts ( /* one".toList, "*/ id INTEGER,".toList,
      "size DOUBLE)\t".toList]
    let ys := ["CREATE \t TABLE parts ( /* one".toList, "\u3000".toList, "gO".toList,
      "  */ id INTEGER,".toList, "-- the size".toList, "size DOUBLE)".toList]
    Relation.EqvGen Edit xs ys ∧ reader.lines xs = reader.lines ys
      ∧ statements xs = ["CREATE TABLE parts ( id INTEGER, size DOUBLE)".toList] := by
  intro reader xs ys
  let first := "CREATE TABLE parts ( /* one".toList
  let wide := "CREATE \t TABLE parts ( /* one".toList
  let fields := "*/ id INTEGER,".toList
  have hgap : LineEdit first wide :=
    .gap "CREATE".toList "TABLE parts ( /* one".toList (by decide : IsPadding [' '])
      (by decide : IsPadding [' ', '\t', ' ']) (by decide) (by decide)
  have hfront : LineEdit fields ("  ".toList ++ fields) := .front fields (by decide)
  have hback : LineEdit "size DOUBLE)".toList "size DOUBLE)\t".toList :=
    .back _ (by decide : IsPadding ['\t'])
  have hedits : Relation.EqvGen Edit xs ys := by
    refine .trans _ _ _ (.rel _ _ (.line [] _ hgap)) ?_
    refine .trans _ _ _ (.rel _ _ (.line [wide] _ hfront)) ?_
    refine .trans _ _ _ (.symm _ _ (.rel _ _ (.line [wide, "  ".toList ++ fields] [] hback))) ?_
    refine .trans _ _ _ (.rel _ _ (.blank [wide] _ (by decide : ∀ c ∈ "\u3000".toList,
      Text.isWhite c = true))) ?_
    refine .trans _ _ _ (.rel _ _ (.batch [wide, "\u3000".toList] _
      (by decide : "gO".toList ∈ batchLines))) ?_
    exact .rel _ _ (.comment [wide, "\u3000".toList, "gO".toList, "  ".toList ++ fields] _
      " the size".toList (by decide +kernel))
  exact ⟨hedits, reader.lines_eq_of_edits hedits, by decide +kernel⟩

end Schemata.Ddl
