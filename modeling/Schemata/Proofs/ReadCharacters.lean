import Schemata.Proofs.Quiet
import Schemata.Proofs.ReaderShape

/-! # The characters of what is read

A scanner writes blanks, and a reader writes double quotes; all other characters of statements and
names stand in the lines. So what holds of the characters of the lines, of a blank and of a double
quote holds of the characters of all names. In particular, names hold no line feed. -/

namespace Schemata.Ddl

variable {p : Char → Prop}

/-! ## Statements -/

/-- The characters of a line without its comments. -/
theorem forall_mem_strip (hblank : p ' ') {cs : List Char} (h : ∀ c ∈ cs, p c) (inBlock : Bool) :
    ∀ c ∈ (strip inBlock cs).1, p c := by
  fun_induction strip inBlock cs with
  | case1 cs before rest hcut ih =>
      -- Behind the end of a block comment.
      rw [Text.cut?_eq_some hcut] at h
      exact ih fun c hc => h c (by simp [hc])
  | case2 => simp
  | case3 => exact h
  | case4 inBlock cs _ kept hmark =>
      -- Before a line comment.
      obtain ⟨hidden, hcut⟩ := cut?_of_firstMark_line hmark
      rw [Text.cut?_eq_some hcut] at h
      exact fun c hc => h c (by simp [hc])
  | case5 inBlock cs _ kept rest hmark more _ hmore ih =>
      -- Before and behind a block comment, which leaves a blank.
      rw [Text.cut?_eq_some (cut?_of_firstMark_block hmark)] at h
      have hrest := ih fun c hc => h c (by simp [hc])
      rw [hmore] at hrest
      intro c hc
      rw [List.mem_append, List.mem_cons] at hc
      rcases hc with hc | rfl | hc
      · exact h c (by simp [hc])
      · exact hblank
      · exact hrest c hc

/-- The characters of a squeezed text. -/
theorem forall_mem_squeezeAfter (hblank : p ' ') {cs : List Char} (h : ∀ c ∈ cs, p c)
    (gap : Bool) : ∀ c ∈ squeezeAfter gap cs, p c := by
  induction cs generalizing gap with
  | nil => simp [squeezeAfter]
  | cons c cs ih =>
      obtain ⟨hc, hcs⟩ := List.forall_mem_cons.1 h
      rw [squeezeAfter]
      split
      · split
        · exact ih hcs true
        · exact List.forall_mem_cons.2 ⟨hblank, ih hcs true⟩
      · exact List.forall_mem_cons.2 ⟨hc, ih hcs false⟩

/-- The characters of a cleaned line. -/
theorem forall_mem_clean (hblank : p ' ') {cs : List Char} (h : ∀ c ∈ cs, p c) :
    ∀ c ∈ clean cs, p c :=
  forall_mem_squeezeAfter hblank (fun c hc => h c ((trim_isInfix cs).subset hc)) false

/-- A text from the first place on where a statement starts is the end of the text. -/
theorem fromCreateTable?_isSuffix {cs start : List Char} (h : fromCreateTable? cs = some start) :
    start <:+ cs := by
  induction cs with
  | nil => cases h
  | cons c rest ih =>
      rw [fromCreateTable?] at h
      split at h
      · cases h
        exact List.suffix_refl _
      · exact (ih h).trans (List.suffix_cons c rest)

/-- Whether something holds of the characters of the statement that a scanner is in. -/
def Position.Holds (p : Char → Prop) : Position → Prop
  | .outside => True
  | .inside read _ _ => ∀ c ∈ read, p c

/-- Whether something holds of the characters of statements and of the one that is open. -/
def Holds (p : Char → Prop) (scanned : List (List Char) × Position) : Prop :=
  (∀ statement ∈ scanned.1, ∀ c ∈ statement, p c) ∧ scanned.2.Holds p

/-- The characters of what a text between statements holds. -/
theorem holds_scanOutside {cs : List Char} (h : ∀ c ∈ cs, p c) : Holds p (scanOutside cs) := by
  fun_induction scanOutside cs with
  | case1 => exact ⟨by simp, trivial⟩
  | case2 cs start hstart opened closed hreach =>
      exact ⟨by simp, fun c hc => h c ((fromCreateTable?_isSuffix hstart).subset hc)⟩
  | case3 cs start hstart taken rest hreach more position hrest ih =>
      have hsuffix := fromCreateTable?_isSuffix hstart
      rw [(reach_eq_ends hreach).1] at hsuffix
      have hpart : ∀ c ∈ taken ++ rest, p c := fun c hc => h c (hsuffix.subset hc)
      obtain ⟨htaken, hrest'⟩ := List.forall_mem_append.1 hpart
      have hmore := ih hrest'
      rw [hrest] at hmore
      exact ⟨List.forall_mem_cons.2 ⟨htaken, hmore.1⟩, hmore.2⟩

/-- The characters of what a line ends and holds. -/
theorem holds_scanLine (hblank : p ' ') {position : Position} (hposition : position.Holds p)
    {cs : List Char} (h : ∀ c ∈ cs, p c) : Holds p (scanLine position cs) := by
  cases position with
  | outside => exact holds_scanOutside h
  | inside read opened closed =>
      have hread : ∀ c ∈ if read.isEmpty then read else read ++ [' '], p c := by
        split
        · exact hposition
        · exact List.forall_mem_append.2 ⟨hposition, by simpa using hblank⟩
      rw [scanLine]
      simp only
      split
      · exact ⟨by simp, List.forall_mem_append.2 ⟨hread, h⟩⟩
      · rename_i taken rest hreach
        rw [(reach_eq_ends hreach).1] at h
        obtain ⟨htaken, hrest⟩ := List.forall_mem_append.1 h
        have hmore := holds_scanOutside hrest
        exact ⟨List.forall_mem_cons.2 ⟨List.forall_mem_append.2 ⟨hread, htaken⟩, hmore.1⟩, hmore.2⟩

namespace Scanner

/-- The characters of what a line gives. -/
theorem holds_feed (hblank : p ' ') {s : Scanner} (hs : s.position.Holds p) {line : List Char}
    (h : ∀ c ∈ line, p c) : Holds p ((s.feed line).1, (s.feed line).2.position) := by
  have hclean := forall_mem_clean hblank (forall_mem_strip hblank h s.inBlock)
  simp only [feed]
  split
  · exact ⟨by simp, hs⟩
  · exact holds_scanLine hblank hs hclean

/-- The characters of what lines give. -/
theorem holds_run (hblank : p ' ') {s : Scanner} (hs : s.position.Holds p)
    {lines : List (List Char)} (h : ∀ line ∈ lines, ∀ c ∈ line, p c) :
    Holds p ((s.run lines).1, (s.run lines).2.position) := by
  induction lines generalizing s with
  | nil => exact ⟨by simp [run], hs⟩
  | cons line lines ih =>
      obtain ⟨hline, hlines⟩ := List.forall_mem_cons.1 h
      have hfed := holds_feed hblank hs hline
      have hrest := ih hfed.2 hlines
      exact ⟨List.forall_mem_append.2 ⟨hfed.1, hrest.1⟩, hrest.2⟩

end Scanner

/-- The characters of statements. -/
theorem forall_mem_statements (hblank : p ' ') {lines : List (List Char)}
    (h : ∀ line ∈ lines, ∀ c ∈ line, p c) : ∀ statement ∈ statements lines, ∀ c ∈ statement, p c :=
  (Scanner.holds_run hblank (s := .start) trivial h).1

/-! ## Names -/

/-- Every character of a part of a text is one of the text: here of the parts on both sides of a
cut. -/
theorem subset_of_cutAt? {q : Char → Bool} {cs before after : List Char}
    (h : Text.cutAt? q cs = some (before, after)) : before ⊆ cs ∧ after ⊆ cs := by
  obtain ⟨c, -, rfl, -⟩ := Text.cutAt?_eq_some h
  exact ⟨fun d hd => by simp [hd], fun d hd => by simp [hd]⟩

/-- The part behind the last of some characters. -/
theorem afterLast_subset (q : Char → Bool) (cs : List Char) : Text.afterLast q cs ⊆ cs := by
  intro c hc
  have hmem := List.mem_reverse.1 hc
  exact List.mem_reverse.1 ((List.takeWhile_sublist _).subset hmem)

/-- The part before the last of some characters. -/
theorem subset_of_beforeLast? {q : Char → Bool} {cs before : List Char}
    (h : Text.beforeLast? q cs = some before) : before ⊆ cs := by
  obtain ⟨⟨front, back⟩, hcut, rfl⟩ := Option.map_eq_some_iff.1 h
  exact fun c hc => List.mem_reverse.1 ((subset_of_cutAt? hcut).2 (List.mem_reverse.1 hc))

/-- The name of a table stands in the words before the first parenthesis. -/
theorem subset_of_tableName? {words name : List Char} (h : tableName? words = some name) :
    name ⊆ words := by
  simp only [tableName?] at h
  split at h
  · cases h
  · cases h
    intro c hc
    have hword := afterLast_subset _ _ (afterLast_subset _ _ (List.mem_filter.1 hc).1)
    exact List.mem_reverse.1 ((List.dropWhile_sublist _).subset (List.mem_reverse.1 hword))

/-- The pieces of a text. -/
theorem subset_of_mem_pieces {cs piece : List Char} {depth : Nat} (h : piece ∈ pieces depth cs) :
    piece ⊆ cs := by
  induction cs generalizing depth piece with
  | nil => simp_all [pieces]
  | cons c rest ih =>
      have hrest : rest ⊆ c :: rest := fun _ => List.mem_cons_of_mem c
      rw [pieces] at h
      split at h
      · rcases List.mem_cons.1 h with rfl | h
        · exact List.nil_subset _
        · exact List.Subset.trans (ih h) hrest
      · split at h
        · rw [List.mem_singleton] at h
          simp [h]
        · rename_i first more hpieces
          have hmore : ∀ q ∈ first :: more, q ⊆ rest := fun q hq => ih (hpieces ▸ hq)
          rcases List.mem_cons.1 h with rfl | h
          · exact List.cons_subset_cons c (hmore first (by simp))
          · exact List.Subset.trans (hmore piece (by simp [h])) hrest

/-- The fields of a text. -/
theorem subset_of_mem_fields {body field : List Char} (h : field ∈ fields body) :
    field ⊆ body := by
  obtain ⟨piece, hpiece, rfl⟩ := List.mem_map.1 (List.mem_filter.1 h).1
  exact List.Subset.trans (trim_isInfix piece).subset (subset_of_mem_pieces hpiece)

/-- The name that a field begins with. -/
theorem splitName_subset (field : List Char) : (splitName field).1 ⊆ field := by
  have hcut : ∀ (q : Char → Bool) (cs back : List Char),
      ((Text.cutAt? q cs).getD (cs, back)).1 ⊆ cs := by
    intro q cs back
    cases h : Text.cutAt? q cs with
    | none => exact fun _ => id
    | some parts => exact (subset_of_cutAt? h).1
  cases field with
  | nil => exact List.nil_subset _
  | cons c rest =>
      rw [splitName]
      split
      · exact List.Subset.trans (hcut _ rest []) fun _ => List.mem_cons_of_mem c
      · exact hcut _ (c :: rest) []

/-- The characters of the names in a table that is read from a statement. -/
theorem forall_mem_names_of_table? (hquote : p '"') {r : Reader} {statement : List Char} {t : Table}
    (h : r.table? statement = some t) (hstatement : ∀ c ∈ statement, p c) :
    (∀ c ∈ t.name.toList, p c)
      ∧ ∀ column ∈ t.columns.toList, ∀ c ∈ column.name.toList, p c := by
  have hquoted : ∀ c ∈ quoteBrackets statement, p c := by
    intro c hc
    obtain ⟨d, hd, rfl⟩ := List.mem_map.1 hc
    split
    · exact hquote
    · exact hstatement d hd
  obtain ⟨words, after, name, hcut, hname, -, -, rfl⟩ := Reader.exists_of_table?_eq_some h
  obtain ⟨hwords, hafter⟩ := subset_of_cutAt? hcut
  refine ⟨fun c hc => ?_, Catalog.forall_mem_insertAll (by simp) fun column hcolumn c hc => ?_⟩
  · have hmem : c ∈ name := by simpa [Table.addColumns] using hc
    exact hquoted c (hwords (subset_of_tableName? hname hmem))
  · obtain ⟨field, hfield, hread⟩ := List.mem_filterMap.1 hcolumn
    have hbody : (Text.beforeLast? (· == ')') after).getD [] ⊆ after := by
      cases hbefore : Text.beforeLast? (· == ')') after with
      | none => exact List.nil_subset _
      | some body => exact subset_of_beforeLast? hbefore
    rw [column?_eq] at hread
    split at hread
    · cases hread
    · cases hread
      have hmem : c ∈ (splitName field).1 := by simpa [splitColumn] using hc
      exact hquoted c (hafter (hbody (subset_of_mem_fields (List.mem_filter.1 hfield).1
        (splitName_subset field hmem))))

/-- The characters of the names in the tables that are read from lines. -/
theorem forall_mem_names_of_mem_tables (hblank : p ' ') (hquote : p '"') {r : Reader}
    {lines : List (List Char)} (h : ∀ line ∈ lines, ∀ c ∈ line, p c) {t : Table}
    (ht : t ∈ r.tables lines) :
    (∀ c ∈ t.name.toList, p c)
      ∧ ∀ column ∈ t.columns.toList, ∀ c ∈ column.name.toList, p c := by
  obtain ⟨statement, hstatement, hread⟩ := List.mem_filterMap.1 ht
  have hchars : ∀ c ∈ statement, p c := forall_mem_statements hblank h statement hstatement
  exact forall_mem_names_of_table? hquote hread hchars

/-! ## Line feeds -/

/-- The lines of a text hold no line feed. -/
theorem ne_newline_of_mem_lines {cs line : List Char} (h : line ∈ Text.lines cs) :
    ∀ c ∈ line, c ≠ '\n' := by
  obtain ⟨piece, hpiece, hpart⟩ := exists_of_mem_linesOfPieces h
  intro c hc
  simpa using Text.forall_mem_of_mem_splitOn hpiece c (hpart.subset hc)

/-- The names in the tables that are read from a text hold no line feed. -/
theorem newline_not_mem_names {r : Reader} {cs : List Char} {t : Table}
    (ht : t ∈ r.tables (Text.lines cs)) :
    '\n' ∉ t.name.toList ∧ ∀ column ∈ t.columns.toList, '\n' ∉ column.name.toList := by
  obtain ⟨hname, hcolumns⟩ := forall_mem_names_of_mem_tables (p := (· ≠ '\n')) (by decide)
    (by decide) (fun _ hline => ne_newline_of_mem_lines hline) ht
  exact ⟨fun hmem => hname _ hmem rfl,
    fun column hcolumn hmem => hcolumns column hcolumn _ hmem rfl⟩

end Schemata.Ddl
