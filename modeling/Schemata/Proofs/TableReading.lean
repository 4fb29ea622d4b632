import Mathlib.Data.List.Basic
import Schemata.Ddl.Reader
import Schemata.Proofs.KeyFields
import Schemata.Proofs.ScriptText

/-! # What a reader makes of a statement

A `CREATE TABLE` between plain names and standard types names its table, and of its items those of
the columns declare columns, while that of the primary key is passed over. -/

namespace Schemata.Ddl

open Naming

/-! ## Telling keys from columns -/

/-- The item of a primary key declares a key. -/
theorem isKeyField_keyItem (key : List String) : isKeyField (keyItem key) = true :=
  isKeyField_append (by decide +kernel) _

/-- The item of a column declares no key: its only blank is behind a quote. -/
theorem isKeyField_columnItem {c : Column} (hname : IsPlain c.name)
    (htype : c.type.IsStandard) : isKeyField (columnItem c) = false := by
  have htypeBlank : ' ' ∉ c.type.text.toList := fun hmem =>
    absurd (htype.mem_typeChars _ hmem) (by decide)
  have hnameBlank : ' ' ∉ quoted c.name := fun hmem => (mild_of_mem_quoted hname hmem).2 rfl
  have hquote : ¬ EndsInKey (quoted c.name) := by
    have hseparate : Text.Separates '"' := Text.separates_of_mem List.mem_cons_self
    rw [quoted, endsInKey_append hseparate (by decide)]
    decide
  rw [← Bool.not_eq_true, columnItem, isKeyField_append_blank, isKeyField_of_not_mem hnameBlank,
    isKeyField_of_not_mem htypeBlank]
  simpa using hquote

/-! ## Reading a column -/

/-- A type reaches to the first closing parenthesis. -/
theorem typeWord_append_close {front : List Char} (h : ')' ∉ front) (back : List Char) :
    typeWord (front ++ ')' :: back) = front ++ [')'] := by
  rw [typeWord, Text.cutAt?_append (Text.forall_beq_iff.2 h) (by decide)]

/-- A type without a closing parenthesis reaches to the first blank or comma. -/
theorem typeWord_append {word rest : List Char} (h : ')' ∉ word ++ rest)
    (hword : ∀ c ∈ word, c ≠ ' ' ∧ c ≠ ',') (hrest : ∀ c ∈ rest.head?, c = ' ' ∨ c = ',') :
    typeWord (word ++ rest) = word := by
  have hcut : Text.cutAt? (· == ')') (word ++ rest) = none :=
    Text.cutAt?_eq_none_iff.2 (Text.forall_beq_iff.2 h)
  have hpass : ∀ c ∈ word, (c != ' ' && c != ',') = true := by simpa using hword
  rw [typeWord, hcut]
  show (word ++ rest).takeWhile (fun c => c != ' ' && c != ',') = word
  rw [List.takeWhile_append_of_pos hpass]
  cases rest with
  | nil => simp
  | cons c rest => rcases hrest c rfl with rfl | rfl <;> simp

/-- Behind a blank, nothing without a closing parenthesis makes a type longer. -/
theorem typeWord_append_of_mem {xs ys : List Char} (hblank : ' ' ∈ xs) (hclose : ')' ∉ ys) :
    typeWord (xs ++ ys) = typeWord xs := by
  by_cases hxs : ')' ∈ xs
  · obtain ⟨front, back, rfl, hfront⟩ := List.eq_append_cons_of_mem hxs
    rw [List.append_assoc, List.cons_append, typeWord_append_close hfront,
      typeWord_append_close hfront]
  · cases hcut : Text.cutAt? (fun c => c == ' ' || c == ',') xs with
    | none =>
        have hpass := Text.cutAt?_eq_none_iff.1 hcut ' ' hblank
        cases hpass
    | some parts =>
        obtain ⟨c, hc, hsplit, hword⟩ := Text.cutAt?_eq_some hcut
        have hpass : ∀ d ∈ parts.1, d ≠ ' ' ∧ d ≠ ',' := by simpa using hword
        have hstop : c = ' ' ∨ c = ',' := by simpa using hc
        have hshort : ')' ∉ parts.1 ++ c :: parts.2 := hsplit ▸ hxs
        have hlong : ')' ∉ parts.1 ++ c :: (parts.2 ++ ys) := by
          rw [← List.cons_append, ← List.append_assoc, List.mem_append]
          exact not_or.2 ⟨hshort, hclose⟩
        rw [hsplit, List.append_assoc, List.cons_append, typeWord_append hlong hpass (by simpa),
          typeWord_append hshort hpass (by simpa)]

/-- A word without closing parentheses, blanks and commas is read as a type as a whole. -/
theorem typeWord_of_forall {word : List Char} (h : ∀ c ∈ word, c ≠ ')' ∧ c ≠ ' ' ∧ c ≠ ',') :
    typeWord word = word := by
  have hnone : ')' ∉ word ++ [] := by
    rw [List.append_nil]
    exact fun hmem => (h _ hmem).1 rfl
  have hwhole := typeWord_append hnone (fun c hc => (h c hc).2) (by simp)
  rwa [List.append_nil] at hwhole

/-- So is a word with something in parentheses behind it. -/
theorem typeWord_paren {word inner : List Char} (hword : ')' ∉ word) (hinner : ')' ∉ inner) :
    typeWord (word ++ ('(' :: inner ++ [')'])) = word ++ ('(' :: inner ++ [')']) := by
  have hfront : ')' ∉ word ++ '(' :: inner := by simp [hword, hinner]
  have hwhole := typeWord_append_close hfront []
  rwa [List.append_assoc] at hwhole

/-- The text of a standard type is read as a type as a whole. -/
theorem typeWord_text {type : ColumnType} (h : type.IsStandard) :
    typeWord type.text.toList = type.text.toList := by
  have hcapital : ∀ c ∈ capitals, c ≠ ')' ∧ c ≠ ' ' ∧ c ≠ ',' := by decide
  have hdecimal : ')' ∉ decimals := by decide
  obtain ⟨word, -, hword, htext | ⟨digits, hdigits, htext⟩⟩ := h.exists_word
  · rw [htext, typeWord_of_forall fun c hc => hcapital c (hword c hc)]
  · rw [htext, typeWord_paren (fun hmem => (hcapital _ (hword _ hmem)).1 rfl)
      fun hmem => hdecimal (hdigits _ hmem)]

/-- A plain character is no quote. -/
theorem isQuote_of_isPlainChar {c : Char} (h : isPlainChar c = true) : isQuote c = false := by
  have hquote : ∀ q ∈ ['"', '\'', '\x60'], isPlainChar q = false := by decide
  have hne : ∀ q ∈ ['"', '\'', '\x60'], c ≠ q := by
    rintro q hq rfl
    cases h.symm.trans (hquote _ hq)
  simp [isQuote, hne '"' (by simp), hne '\'' (by simp), hne '\x60' (by simp)]

/-- A plain name starts with a plain character. -/
theorem exists_cons_of_isPlain {name : String} (h : IsPlain name) :
    ∃ c cs, name.toList = c :: cs ∧ isPlainChar c = true := by
  have hne : name.toList ≠ [] := fun e => h.1 (by simpa using e)
  obtain ⟨c, cs, hcs⟩ := List.exists_cons_of_ne_nil hne
  exact ⟨c, cs, hcs, h.2 c (by simp [hcs])⟩

/-- A plain name is not blank. -/
theorem isBlank_of_isPlain {name : String} (h : IsPlain name) : Text.isBlank name = false := by
  obtain ⟨c, cs, hcs, hc⟩ := exists_cons_of_isPlain h
  simp [Text.isBlank, hcs, isWhite_of_isPlainChar hc]

/-- The column that is read where a column is written. -/
def translated (c : Column) : Column := ⟨c.name, translate c.type.text.toList⟩

/-- The item of a column is split into the name and the text of the type. -/
theorem splitColumn_columnItem {c : Column} (hname : IsPlain c.name)
    (htype : c.type.IsStandard) :
    splitColumn (columnItem c) = (c.name.toList, c.type.text.toList) := by
  have hquote : ∀ d ∈ c.name.toList, (d == '"') = false := fun d hd => by
    simpa using hname.ne hd (by decide)
  have hitem : columnItem c = '"' :: (c.name.toList ++ '"' :: ' ' :: c.type.text.toList) := by
    simp [columnItem, quoted]
  have hsplit : splitName (columnItem c) = (c.name.toList, ' ' :: c.type.text.toList) := by
    rw [hitem, splitName, if_pos (by decide), Text.cutAt?_append hquote (by decide)]
    rfl
  have htrim : Text.trimStart (' ' :: c.type.text.toList) = c.type.text.toList := by
    have hwhite : ∀ d ∈ typeChars, Text.isWhite d = false := by decide
    cases htext : c.type.text.toList with
    | nil => exact absurd htext htype.text_ne_nil
    | cons d ds =>
        have hd : Text.isWhite d = false := hwhite d (htype.mem_typeChars d (by simp [htext]))
        have hblank : Text.isWhite ' ' = true := by decide
        simp [Text.trimStart, List.dropWhile, hblank, hd]
  rw [splitColumn, hsplit]
  show (c.name.toList, typeWord (Text.trimStart _)) = _
  rw [htrim, typeWord_text htype]

/-- The item of a column is read as the column, with its type translated. -/
theorem column?_columnItem {c : Column} (hname : IsPlain c.name) (htype : c.type.IsStandard) :
    column? (columnItem c) = some (translated c) := by
  have hmade : requireText .columnName c.name = .ok c.name :=
    (requireText_eq_ok_iff _ _ _).2 ⟨isBlank_of_isPlain hname, rfl⟩
  simp [column?, splitColumn_columnItem hname htype, Column.ofType, hmade, Except.toOption,
    translated]

/-- The items of a table are read as its columns. -/
theorem columns_listText {t : Table} (hcolumns : ∀ name ∈ t.columnNames, IsPlain name)
    (htypes : ∀ c ∈ t.columns.toList, c.type.IsStandard)
    (hkey : ∀ name ∈ t.primaryKey, IsPlain name) :
    columns (listText (items t) ++ [' ']) = t.columns.toList.map translated := by
  have hentry := entry_of_mem_items hcolumns htypes hkey
  have hfields : fields (listText (items t) ++ [' ']) = items t :=
    fields_listText (fun item hi => (hentry item hi).ne_nil) (fun item hi => (hentry item hi).whole)
      (fun item hi => (hentry item hi).neat.head)
      fun item hi => (hentry item hi).neat.last (hentry item hi).last
  have hcolumn : ∀ c ∈ t.columns.toList, IsPlain c.name ∧ c.type.IsStandard := fun c hc =>
    ⟨hcolumns _ (List.mem_map_of_mem hc), htypes c hc⟩
  have hkept : (items t).filter (fun field => !isKeyField field)
      = t.columns.toList.map columnItem := by
    have hkeep : ∀ field ∈ t.columns.toList.map columnItem, (!isKeyField field) = true := by
      intro field hfield
      obtain ⟨c, hc, rfl⟩ := List.mem_map.1 hfield
      rw [isKeyField_columnItem (hcolumn c hc).1 (hcolumn c hc).2]
      rfl
    rw [items, List.filter_append, List.filter_eq_self.2 hkeep]
    split
    · simp
    · simp [isKeyField_keyItem]
  rw [columns, hfields, hkept, List.filterMap_map, ← List.filterMap_eq_map]
  refine List.filterMap_congr fun c hc => ?_
  rw [Function.comp_apply, Function.comp_apply]
  exact column?_columnItem (hcolumn c hc).1 (hcolumn c hc).2

/-! ## Reading a table -/

/-- A text of mild characters has no brackets to replace. -/
theorem quoteBrackets_of_mild {cs : List Char} (h : ∀ c ∈ cs, isMild c = true) :
    quoteBrackets cs = cs := by
  refine quoteBrackets_of_forall fun c hc => ⟨?_, ?_⟩
  · rintro rfl
    exact absurd (h _ hc) (by decide)
  · rintro rfl
    exact absurd (h _ hc) (by decide)

/-- The words before the first parenthesis name the table. -/
theorem tableName?_nameWords {schema table : String} (hschema : IsPlain schema)
    (htable : IsPlain table) : tableName? (nameWords schema table) = some table.toList := by
  have htrim : Text.trimEnd (nameWords schema table)
      = "CREATE TABLE".toList ++ ' ' :: (quoted schema ++ '.' :: quoted table) := by
    have hwords : tableWords = "CREATE TABLE".toList ++ [' '] := by decide
    have hwhite : Text.isWhite ' ' = true ∧ Text.isWhite '"' = false := by decide
    simp [nameWords, hwords, Text.trimEnd, quoted, hwhite.1, hwhite.2]
  have hblank : ∀ c ∈ quoted schema ++ '.' :: quoted table, (c == ' ') = false := by
    intro c hc
    rw [List.mem_append, List.mem_cons] at hc
    rcases hc with hc | rfl | hc
    · simpa using (mild_of_mem_quoted hschema hc).2
    · decide
    · simpa using (mild_of_mem_quoted htable hc).2
  have hdot : ∀ c ∈ quoted table, (c == '.') = false := by
    intro c hc
    rw [quoted, List.mem_append, List.mem_cons, List.mem_singleton] at hc
    rcases hc with (rfl | hc) | rfl
    · decide
    · simpa using htable.ne hc (by decide)
    · decide
  have hname : (quoted table).filter (fun c => !isQuote c) = table.toList := by
    have hkeep : ∀ c ∈ table.toList, (!isQuote c) = true := by
      intro c hc
      rw [isQuote_of_isPlainChar (htable.2 c hc)]
      rfl
    rw [quoted, List.filter_append, List.filter_cons, List.filter_eq_self.2 hkeep]
    simp [isQuote]
  have hne : table.toList.isEmpty = false := by
    simpa using htable.1
  rw [tableName?, htrim, Text.afterLast_append (by decide) hblank,
    Text.afterLast_append (by decide) hdot, hname]
  simp only [hne, Bool.false_eq_true, if_false]

/-- The characters of the text of a list of neat items are mild. -/
theorem mild_of_mem_listText {items : List (List Char)} (h : ∀ item ∈ items, Neat item) :
    ∀ c ∈ listText items, isMild c = true := by
  intro c hc
  cases items with
  | nil => cases hc
  | cons first rest =>
      rw [listText, List.mem_append, List.mem_cons, List.mem_flatMap] at hc
      rcases hc with (rfl | hc) | ⟨item, hitem, hc⟩
      · decide
      · exact (h first (by simp)).mild c hc
      · rw [List.mem_cons, List.mem_cons] at hc
        rcases hc with rfl | rfl | hc
        · decide
        · decide
        · exact (h item (by simp [hitem])).mild c hc

/-- The table that is read where a table is created: its columns, without keys. -/
def Reader.outline (r : Reader) (t : Table) : Table :=
  { name := t.name
    schema := r.schema
    primaryKey := []
    shardKey := none
    columns := Catalog.empty.insertAll (t.columns.toList.map translated)
    foreignKeys := .empty
    relationships := .empty }

/-- The columns that are read are those of the table, in their order. -/
theorem Reader.toList_outline (r : Reader) (t : Table) :
    (r.outline t).columns.toList = t.columns.toList.map translated :=
  t.columns.toList_insertAll_map fun _ => rfl

/-- A statement that creates a table with plain names and standard types is read as its outline. -/
theorem table?_tableStatement {r : Reader} (hreader : Text.isBlank r.schema = false) {t : Table}
    (hschema : IsPlain t.schema) (htable : IsPlain t.name)
    (hcolumns : ∀ name ∈ t.columnNames, IsPlain name)
    (htypes : ∀ c ∈ t.columns.toList, c.type.IsStandard)
    (hkey : ∀ name ∈ t.primaryKey, IsPlain name) :
    r.table? (tableStatement t) = some (r.outline t) := by
  have hentry := entry_of_mem_items hcolumns htypes hkey
  have hsplit : tableStatement t
      = nameWords t.schema t.name ++ '(' :: (listText (items t) ++ [' '] ++ [')']) := by
    simp [tableStatement, tableHead]
  have hmild : ∀ c ∈ tableStatement t, isMild c = true := by
    intro c hc
    simp only [hsplit, List.mem_append, List.mem_cons, List.not_mem_nil, or_false] at hc
    rcases hc with hc | rfl | (hc | rfl) | rfl
    · exact (mild_of_mem_nameWords hschema htable hc).1
    · decide
    · exact mild_of_mem_listText (fun item hi => (hentry item hi).neat) c hc
    · decide
    · decide
  have hopen : ∀ c ∈ nameWords t.schema t.name, (c == '(') = false := by
    intro c hc
    simpa using (mild_of_mem_nameWords hschema htable hc).2.1
  have hmade : (Table.inSchema (String.ofList t.name.toList) r.schema).toOption
      = some { name := t.name, schema := r.schema, primaryKey := [], shardKey := none,
               columns := .empty, foreignKeys := .empty, relationships := .empty } := by
    have hname : requireText .tableName t.name = .ok t.name :=
      (requireText_eq_ok_iff _ _ _).2 ⟨isBlank_of_isPlain htable, rfl⟩
    have hschema' : requireText .schemaName r.schema = .ok r.schema :=
      (requireText_eq_ok_iff _ _ _).2 ⟨hreader, rfl⟩
    rw [String.ofList_toList, Table.inSchema, hname]
    show (Except.bind (requireText .schemaName r.schema) _).toOption = _
    rw [hschema']
    rfl
  have hcut : Text.cutAt? (· == '(') (quoteBrackets (tableStatement t))
      = some (nameWords t.schema t.name, listText (items t) ++ [' '] ++ [')']) := by
    rw [quoteBrackets_of_mild hmild, hsplit, Text.cutAt?_append hopen (by decide)]
  have hbody : Text.beforeLast? (· == ')') (listText (items t) ++ [' '] ++ [')'])
      = some (listText (items t) ++ [' ']) := Text.beforeLast?_append (by decide) (by simp) _
  simp only [Reader.table?, hcut, hbody, tableName?_nameWords hschema htable, hmade,
    Option.bind_eq_bind, Option.bind_some, Option.getD_some, columns_listText hcolumns htypes hkey]
  rfl

end Schemata.Ddl
