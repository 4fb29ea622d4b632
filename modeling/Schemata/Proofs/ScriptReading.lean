import Schemata.Proofs.ScriptText

/-! # What a scanner reads in a script

Statement by statement, for plain names and standard types: a `CREATE TABLE` is read as one
statement, put together from its lines, and nothing is read in any other statement. -/

namespace Schemata.Ddl

open Naming Scanner

/-! ## Lines as they are scanned -/

/-- A neat line is read as it is scanned, whatever blanks it is indented by. -/
theorem Neat.reads_indented {front line : List Char} {position position' : Position}
    {found : List (List Char)} (h : Neat line) (hfront : ∀ c ∈ front, c = ' ') (hne : line ≠ [])
    (hlast : ∀ c ∈ line.getLast?, c ≠ ' ') (hbatch : isBatchEnd line = false)
    (hscan : scanLine position line = (found, position')) :
    Reads ⟨false, position⟩ (front ++ line ++ ['\n']) found ⟨false, position'⟩ :=
  reads_line_of_mild (h.mild_indented hfront) (h.feed hfront hlast hne hbatch hscan)

/-- A neat line is read as it is scanned. -/
theorem Neat.reads_scanned {line : List Char} {position position' : Position}
    {found : List (List Char)} (h : Neat line) (hne : line ≠ [])
    (hlast : ∀ c ∈ line.getLast?, c ≠ ' ') (hbatch : isBatchEnd line = false)
    (hscan : scanLine position line = (found, position')) :
    Reads ⟨false, position⟩ (line ++ ['\n']) found ⟨false, position'⟩ := by
  have hfront : ∀ c ∈ ([] : List Char), c = ' ' := by simp
  exact h.reads_indented hfront hne hlast hbatch hscan

/-! ## Lines without statements -/

/-- No statement is read in an inert line. -/
theorem Inert.reads {line : List Char} (h : Inert line) :
    start.Reads (line ++ ['\n']) [] start := by
  refine reads_line_of_mild h.mild ?_
  rw [start, h.isSealed.1.feed, strip_of_mild h.mild]

/-- A character that starts no statement may stand before a quiet text. -/
theorem fromCreateTable?_cons {c : Char} {cs : List Char} (h : skipCreateTable? (c :: cs) = none)
    (hrest : Quiet cs) : fromCreateTable? (c :: cs) = none := by
  rw [fromCreateTable?, h, hrest.fromCreateTable?]
  rfl

/-- No statement is read in a neat line that none starts in. -/
theorem Neat.reads {line : List Char} (h : Neat line) (hne : line ≠ [])
    (hlast : ∀ c ∈ line.getLast?, c ≠ ' ') (hbatch : isBatchEnd line = false)
    (hnone : fromCreateTable? line = none) : start.Reads (line ++ ['\n']) [] start := by
  have hscan : scanLine .outside line = ([], .outside) := by
    show scanOutside line = _
    rw [scanOutside]
    split
    · rfl
    · rename_i hstart
      cases hstart.symm.trans hnone
  exact h.reads_scanned hne hlast hbatch hscan

/-- How every statement ends. -/
theorem toList_end : ";\n".toList = [';'] ++ ['\n'] := by decide

/-- No statement is read where a database or a schema is created: what follows the first word is
neither `table` nor `or replace table`. -/
theorem reads_createNamed {words name : String} {rest : List Char}
    (hwords : words.toList = 'C' :: rest) (hneat : Neat ('C' :: rest)) (hinert : Inert rest)
    (hskip : ∀ cs, skipCreateTable? ('C' :: rest ++ cs) = none) (h : IsPlain name) :
    start.Reads (words ++ Writer.plain.ident name ++ ";\n").toList [] start := by
  have hend : Neat [';'] := by decide
  have hend' : Inert [';'] := by decide
  have hrest : Quiet (rest ++ (quoted name ++ [';'])) :=
    (hinert.append ((inert_quoted h).append hend')).isSealed.1
  rw [String.toList_append, String.toList_append, toList_ident, toList_end, hwords,
    ← List.append_assoc]
  refine Neat.reads ((hneat.append (neat_quoted h)).append hend) (by simp) ?_ ?_ ?_
  · exact last_append (by simp) (by decide)
  · exact isBatchEnd_cons (by decide) _
  · rw [List.append_assoc, List.cons_append]
    exact fromCreateTable?_cons (hskip _) hrest

/-! ## Lines of a statement -/

/-- A line that takes a statement on is read on with a blank before it. -/
theorem Onward.reads {line front read : List Char} (h : Onward line) (hread : read ≠ [])
    (hfront : ∀ c ∈ front, c = ' ') (closed : Nat) :
    ∃ closed', Reads ⟨false, .inside read (closed + 1) closed⟩ (front ++ line ++ ['\n']) []
      ⟨false, .inside (read ++ ' ' :: line) (closed' + 1) closed'⟩ := by
  obtain ⟨n, hnested⟩ := h.nested
  refine ⟨closed + n, ?_⟩
  have hscan : scanLine (.inside read (closed + 1) closed) line
      = ([], .inside (read ++ ' ' :: line) (closed + n + 1) (closed + n)) := by
    have hempty : read.isEmpty = false := by simpa using hread
    simp [scanLine, hnested (closed + 1) closed (by omega), hempty, Nat.add_right_comm]
  exact h.neat.reads_indented hfront h.ne_nil h.last h.batch hscan

/-- A comma may stand before a line that takes a statement on. -/
theorem Onward.comma {line : List Char} (h : Onward line) : Onward (',' :: line) where
  neat := Neat.append (by decide : Neat [',']) h.neat
  ne_nil := by simp
  last := by
    rw [← List.singleton_append]
    exact last_append h.ne_nil h.last
  batch := isBatchEnd_cons (by decide) _
  nested := by
    obtain ⟨n, hn⟩ := h.nested
    exact ⟨0 + n, (nested_of_forall (by decide : ∀ c ∈ [','], c ≠ '(' ∧ c ≠ ')')).append hn⟩

/-- The lines of the items of a table: one to a line, with a comma before all but the first. -/
def itemLines : List (List Char) → List Char
  | [] => []
  | first :: rest =>
      [' ', ' ', ' ', ' '] ++ first ++ ['\n']
        ++ rest.flatMap fun item => [' ', ' ', ' '] ++ ',' :: item ++ ['\n']

/-- How a writer writes items. -/
theorem toList_itemLines (items : List String) :
    (Writer.itemLines items).toList = itemLines (items.map String.toList) := by
  have hfirst : "    ".toList = [' ', ' ', ' ', ' '] := by decide
  have hrest : "   ,".toList = [' ', ' ', ' ', ','] := by decide
  have hend : "\n".toList = ['\n'] := by decide
  cases items with
  | nil => rfl
  | cons first rest =>
      simp [Writer.itemLines, itemLines, List.flatMap_map, hfirst, hrest, hend]

/-- The items after the first are read on. -/
theorem reads_furtherItems {items : List (List Char)} (h : ∀ item ∈ items, Onward item)
    {read : List Char} (hread : read ≠ []) (closed : Nat) :
    ∃ closed', Reads ⟨false, .inside read (closed + 1) closed⟩
      (items.flatMap fun item => [' ', ' ', ' '] ++ ',' :: item ++ ['\n']) []
      ⟨false, .inside (read ++ items.flatMap fun item => ' ' :: ',' :: item)
        (closed' + 1) closed'⟩ := by
  -- What has been read grows line by line, and so does the count of closed parentheses.
  induction items generalizing read closed with
  | nil => exact ⟨closed, by simpa using reads_nil _⟩
  | cons item items ih =>
      obtain ⟨closed₁, hitem⟩ := (h item (by simp)).comma.reads hread
        (by decide : ∀ c ∈ [' ', ' ', ' '], c = ' ') closed
      obtain ⟨closed₂, hitems⟩ := ih (fun i hi => h i (by simp [hi]))
        (by simp : read ++ ' ' :: ',' :: item ≠ []) closed₁
      refine ⟨closed₂, ?_⟩
      simpa using hitem.append hitems

/-- The items of a table are read on. -/
theorem reads_items {items : List (List Char)} (h : ∀ item ∈ items, Onward item)
    {read : List Char} (hread : read ≠ []) :
    ∃ closed, Reads ⟨false, .inside read 1 0⟩ (itemLines items) []
      ⟨false, .inside (read ++ listText items) (closed + 1) closed⟩ := by
  cases items with
  | nil => exact ⟨0, by simpa [itemLines, listText] using reads_nil _⟩
  | cons first rest =>
      obtain ⟨closed₁, hfirst⟩ := (h first (by simp)).reads hread
        (by decide : ∀ c ∈ [' ', ' ', ' ', ' '], c = ' ') 0
      have hitems : ∀ item ∈ rest, Onward item := fun item hitem =>
        h item (List.mem_cons_of_mem _ hitem)
      obtain ⟨closed₂, hrest⟩ := reads_furtherItems hitems
        (by simp : read ++ ' ' :: first ≠ []) closed₁
      refine ⟨closed₂, ?_⟩
      simpa [itemLines, listText] using hfirst.append hrest

/-! ## Creating a table -/

/-- A text in which a statement starts and goes on leaves a scanner inside the statement. -/
theorem scanOutside_of_goesOn {cs start : List Char} {opened closed : Nat}
    (h : fromCreateTable? cs = some start) (hreach : reach 0 0 start = .goesOn opened closed) :
    scanOutside cs = ([], .inside start opened closed) := by
  rw [scanOutside]
  split
  · rename_i hnone
    cases hnone.symm.trans h
  · rename_i start' hstart
    obtain rfl := Option.some.inj (hstart.symm.trans h)
    split
    · rename_i hgoes
      cases hgoes.symm.trans hreach
      rfl
    · rename_i hends
      cases hends.symm.trans hreach

/-- Reading the first line of a `CREATE TABLE` leaves one parenthesis open. -/
theorem reads_tableHead {schema table : String} (hschema : IsPlain schema)
    (htable : IsPlain table) :
    start.Reads (tableHead schema table ++ ['\n']) []
      ⟨false, .inside (tableHead schema table) 1 0⟩ := by
  -- The blank before the parenthesis goes with the quote before it.
  have hparts : tableHead schema table
      = tableWords ++ quoted schema ++ ['.'] ++ ('"' :: table.toList) ++ ['"', ' ', '('] := by
    simp [tableHead, nameWords, quoted]
  have hwords : Neat tableWords := by decide
  have hdot : Neat ['.'] := by decide
  have hend : Neat ['"', ' ', '('] := by decide
  have hname : Neat ('"' :: table.toList) := neat_of_forall fun c hc =>
    mild_of_mem_quoted htable (List.mem_append_left _ hc)
  have hneat : Neat (tableHead schema table) := by
    rw [hparts]
    exact (((hwords.append (neat_quoted hschema)).append hdot).append hname).append hend
  have hstart : fromCreateTable? (tableHead schema table) = some (tableHead schema table) := by
    have hskip : (skipCreateTable? (tableHead schema table)).isSome = true := rfl
    exact if_pos hskip
  -- The only parenthesis is the last character.
  have hreach : reach 0 0 (tableHead schema table) = .goesOn 1 0 := by
    have hplain : ∀ c ∈ nameWords schema table, c ≠ '(' ∧ c ≠ ')' := fun c hc =>
      (mild_of_mem_nameWords hschema htable hc).2
    rw [tableHead, reach_append, reach_of_forall hplain]
    rfl
  have hscan : scanLine .outside (tableHead schema table)
      = ([], .inside (tableHead schema table) 1 0) := scanOutside_of_goesOn hstart hreach
  have hne : tableHead schema table ≠ [] := by simp [tableHead]
  have hlast : ∀ c ∈ (tableHead schema table).getLast?, c ≠ ' ' := by
    rw [hparts]
    exact last_append (by simp) (by decide)
  exact hneat.reads_scanned hne hlast (isBatchEnd_cons (by decide) _) hscan

/-- Reading the last line of a `CREATE TABLE` ends the statement. -/
theorem reads_tableTail {read tail : List Char} (hread : read ≠ []) (hneat : Neat (')' :: tail))
    (hlast : ∀ c ∈ (')' :: tail).getLast?, c ≠ ' ') (hquiet : Quiet tail) (closed : Nat) :
    Reads ⟨false, .inside read (closed + 1) closed⟩ (')' :: tail ++ ['\n'])
      [read ++ [' ', ')']] start := by
  have hreach : reach (closed + 1) closed (')' :: tail) = .ends [')'] tail := by
    simp [reach, countAfter, endsWith]
  have hscan : scanLine (.inside read (closed + 1) closed) (')' :: tail)
      = ([read ++ [' ', ')']], .outside) := by
    have hempty : read.isEmpty = false := by simpa using hread
    simp [scanLine, hreach, hempty, hquiet.scanOutside]
  exact hneat.reads_scanned (by simp) hlast (isBatchEnd_cons (by decide) _) hscan

/-- The number of shards is written in decimal digits. -/
theorem mem_decimals_of_mem_toString {n : Nat} {c : Char} (h : c ∈ (toString n).toList) :
    c ∈ decimals := by
  have hdigit : c ∈ Nat.toDigits 10 n := by
    rw [← Nat.toList_repr]
    exact h
  exact mem_decimals_of_isDigit (Nat.isDigit_of_mem_toDigits (by decide) (by decide) hdigit)

/-- A text of decimal digits is inert, and neat. -/
theorem inert_neat_of_decimals {cs : List Char} (h : ∀ c ∈ cs, c ∈ decimals) :
    Inert cs ∧ Neat cs := by
  have hdecimal : ∀ c ∈ decimals, isMild c = true ∧ c ≠ ' ' ∧ Text.isWhite c = false ∧ c ≠ '/'
      ∧ c.toLower ∉ createWord := by decide
  refine ⟨⟨⟨quiet_of_forall fun c hc => ?_, fun c hc => ?_⟩, fun c hc => ?_⟩,
    neat_of_forall fun c hc => ?_⟩
  · obtain ⟨-, -, hwhite, hslash, -⟩ := hdecimal c (h c hc)
    exact ⟨hwhite, hslash⟩
  · exact (hdecimal c (h c (List.mem_of_getLast? hc))).2.2.2.2
  · exact (hdecimal c (h c hc)).1
  · exact ⟨(hdecimal c (h c hc)).1, (hdecimal c (h c hc)).2.1⟩

/-- The last line of a `CREATE TABLE` is neat, and quiet behind its first parenthesis. -/
theorem neat_tableTail {key : Option ShardKey} (h : ∀ k, key = some k → ∀ name ∈ k.columns,
    IsPlain name) : Neat (')' :: tableTail key) ∧ Quiet (tableTail key)
      ∧ ∀ c ∈ (')' :: tableTail key).getLast?, c ≠ ' ' := by
  cases key with
  | none => decide
  | some key =>
      have hnames := h key rfl
      obtain ⟨hdigits, hdigits'⟩ :=
        inert_neat_of_decimals (fun c (hc : c ∈ (toString key.shards).toList) =>
          mem_decimals_of_mem_toString hc)
      have hhead : Inert hashWords ∧ Neat (')' :: hashWords) := by decide
      have hmid : Inert [')', ' ', 'K', 'E', 'Y', '('] ∧ Neat [')', ' ', 'K', 'E', 'Y', '('] := by
        decide
      have hend : Inert [')', ';'] ∧ Neat [')', ';'] := by decide
      have hparts : ')' :: tableTail (some key) = ')' :: hashWords ++ (toString key.shards).toList
          ++ [')', ' ', 'K', 'E', 'Y', '('] ++ quotedList key.columns ++ [')', ';'] := rfl
      refine ⟨?_, ?_, ?_⟩
      · rw [hparts]
        exact (((hhead.2.append hdigits').append hmid.2).append (neat_quotedList hnames)).append
          hend.2
      · exact ((((hhead.1.append hdigits).append hmid.1).append (inert_quotedList hnames)).append
          hend.1).isSealed.1
      · rw [hparts]
        exact last_append (by decide) (by decide)

/-- What the plain writer writes where a table is created. -/
theorem toList_createTable (t : Table) :
    (Writer.plain.statement (.createTable t)).toList
      = tableHead t.schema t.name ++ ['\n'] ++ itemLines (items t)
        ++ (')' :: tableTail t.shardKey ++ ['\n']) := by
  have hwords : "CREATE TABLE ".toList = tableWords := rfl
  have hdot : ".".toList = ['.'] := by decide
  have hopen : " (\n".toList = [' ', '(', '\n'] := by decide
  have hclose : ");\n".toList = [')', ';', '\n'] := by decide
  have hhash : ") PARTITION BY HASH(".toList = ')' :: hashWords := by decide
  have hkey : ") KEY(".toList = [')', ' ', 'K', 'E', 'Y', '('] := by decide
  have hend : (Writer.plain.tableEnd t.shardKey).toList
      = ')' :: tableTail t.shardKey ++ ['\n'] := by
    cases t.shardKey with
    | none => exact hclose
    | some key =>
        simp only [Writer.tableEnd_some, tableTail, String.toList_append, toList_idents, hhash,
          hkey, hclose, List.append_assoc, List.cons_append, List.nil_append]
  simp only [Writer.statement_createTable, Writer.qualified, tableHead, nameWords,
    String.toList_append, toList_ident, toList_itemLines, map_toList_tableItems, hwords, hdot,
    hopen, hend, List.append_assoc, List.cons_append, List.nil_append]

/-- Where a table with plain names and standard types is created, its statement is read. -/
theorem reads_createTable {t : Table} (hschema : IsPlain t.schema) (htable : IsPlain t.name)
    (hitems : ∀ item ∈ items t, Entry item)
    (hshard : ∀ k, t.shardKey = some k → ∀ name ∈ k.columns, IsPlain name) :
    start.Reads (Writer.plain.statement (.createTable t)).toList [tableStatement t] start := by
  have hhead : tableHead t.schema t.name ≠ [] := by simp [tableHead]
  obtain ⟨hneat, hquiet, hlast⟩ := neat_tableTail hshard
  obtain ⟨closed, hread⟩ := reads_items (fun item hitem => (hitems item hitem).toOnward) hhead
  have hall := ((reads_tableHead hschema htable).append hread).append
    (reads_tableTail (by simp [hhead]) hneat hlast hquiet closed)
  rw [toList_createTable]
  exact hall

/-! ## The other statements -/

/-- How a qualified name is written. -/
theorem toList_qualified (schema table : String) :
    (Writer.plain.qualified schema table).toList = quoted schema ++ ".".toList ++ quoted table := by
  simp only [Writer.qualified, String.toList_append, toList_ident]

/-- A qualified name of plain names is inert. -/
theorem inert_qualified {schema table : String} (hschema : IsPlain schema)
    (htable : IsPlain table) :
    Inert (quoted schema ++ ".".toList ++ quoted table) :=
  ((inert_quoted hschema).append (by decide)).append (inert_quoted htable)

/-- Nothing is read where a database is created. -/
theorem reads_createDatabase {name : String} (h : IsPlain name) :
    start.Reads (Writer.plain.statement (.createDatabase name)).toList [] start := by
  have hwords : "CREATE DATABASE ".toList = 'C' :: "REATE DATABASE ".toList := by decide
  show start.Reads ("CREATE DATABASE " ++ Writer.plain.ident name ++ ";\n").toList [] start
  exact reads_createNamed hwords (by decide) (by decide) (fun _ => rfl) h

/-- Nothing is read where a schema is created. -/
theorem reads_createSchema {name : String} (h : IsPlain name) :
    start.Reads (Writer.plain.statement (.createSchema name)).toList [] start := by
  have hwords : "CREATE SCHEMA ".toList = 'C' :: "REATE SCHEMA ".toList := by decide
  show start.Reads ("CREATE SCHEMA " ++ Writer.plain.ident name ++ ";\n").toList [] start
  exact reads_createNamed hwords (by decide) (by decide) (fun _ => rfl) h

/-- Nothing is read where a database is made the current one. -/
theorem reads_useDatabase {name : String} (h : IsPlain name) :
    start.Reads (Writer.plain.statement (.useDatabase name)).toList [] start := by
  have hwords : Inert "USE ".toList := by decide
  have htext : (Writer.plain.statement (.useDatabase name)).toList
      = "USE ".toList ++ quoted name ++ [';'] ++ ['\n'] := by
    show ("USE " ++ Writer.plain.ident name ++ ";\n").toList = _
    simp only [String.toList_append, toList_ident, toList_end, List.append_assoc]
  rw [htext]
  exact ((hwords.append (inert_quoted h)).append (by decide)).reads

/-- Nothing is read where a table is dropped. -/
theorem reads_dropTable {schema table : String} (hschema : IsPlain schema)
    (htable : IsPlain table) :
    start.Reads (Writer.plain.statement (.dropTable schema table)).toList [] start := by
  have hwords : Inert "DROP TABLE ".toList := by decide
  have htext : (Writer.plain.statement (.dropTable schema table)).toList
      = "DROP TABLE ".toList ++ (quoted schema ++ ".".toList ++ quoted table) ++ [';']
        ++ ['\n'] := by
    show ("DROP TABLE " ++ Writer.plain.qualified schema table ++ ";\n").toList = _
    simp only [String.toList_append, toList_qualified, toList_end, List.append_assoc]
  rw [htext]
  exact ((hwords.append (inert_qualified hschema htable)).append (by decide)).reads

/-- What stands before the change where a table is altered. -/
def alterWords (schema table : String) : List Char :=
  "ALTER TABLE ".toList ++ (quoted schema ++ ".".toList ++ quoted table) ++ " ".toList

/-- What stands before the change is inert. -/
theorem inert_alterWords {schema table : String} (hschema : IsPlain schema)
    (htable : IsPlain table) : Inert (alterWords schema table) := by
  have halter : Inert "ALTER TABLE ".toList := by decide
  have hgap : Inert " ".toList := by decide
  exact (halter.append (inert_qualified hschema htable)).append hgap

/-- What the plain writer writes where a table is altered. -/
theorem toList_alterTable (schema table : String) (change : Alteration) :
    (Writer.plain.statement (.alterTable schema table change)).toList
      = alterWords schema table ++ (Writer.plain.alteration change).toList ++ [';'] ++ ['\n'] := by
  have hwords : alterWords schema table
      = "ALTER TABLE ".toList ++ (quoted schema ++ ".".toList ++ quoted table) ++ " ".toList := rfl
  rw [Writer.statement_alterTable, hwords]
  simp only [String.toList_append, toList_qualified, toList_end, ← List.append_assoc]

/-- What is written about a foreign key of plain names is inert. -/
theorem inert_addForeignKey {key : ForeignKey} (h : ∀ name ∈ key.identifiers, IsPlain name) :
    Inert (Writer.plain.alteration (.addForeignKey key)).toList := by
  have hname : Inert (quoted key.name) := inert_quoted (h _ (by simp [ForeignKey.identifiers]))
  have htarget : Inert (quoted key.target) := inert_quoted (h _ (by simp [ForeignKey.identifiers]))
  have hsources : Inert (quotedList key.sourceKeys) :=
    inert_quotedList fun n hn => h n (by simp [ForeignKey.identifiers, hn])
  have htargets : Inert (quotedList key.targetKeys) :=
    inert_quotedList fun n hn => h n (by simp [ForeignKey.identifiers, hn])
  have hadd : Inert "ADD CONSTRAINT ".toList := by decide
  have hforeign : Inert " FOREIGN KEY (".toList := by decide
  have hreferences : Inert ") REFERENCES ".toList := by decide
  have hopen : Inert " (".toList := by decide
  have hclose : Inert ")".toList := by decide
  show Inert ("ADD CONSTRAINT " ++ Writer.plain.ident key.name ++ " FOREIGN KEY ("
    ++ Writer.plain.idents key.sourceKeys ++ ") REFERENCES " ++ Writer.plain.ident key.target
    ++ " (" ++ Writer.plain.idents key.targetKeys ++ ")").toList
  simp only [String.toList_append, toList_ident, toList_idents]
  exact (((((((hadd.append hname).append hforeign).append hsources).append hreferences).append
    htarget).append hopen).append htargets).append hclose

/-- Nothing is read where a foreign key is added. -/
theorem reads_addForeignKey {schema table : String} {key : ForeignKey} (hschema : IsPlain schema)
    (htable : IsPlain table) (hkey : ∀ name ∈ key.identifiers, IsPlain name) :
    start.Reads (Writer.plain.statement (.alterTable schema table (.addForeignKey key))).toList []
      start := by
  have hend : Inert [';'] := by decide
  have hline := (inert_alterWords hschema htable).append (inert_addForeignKey hkey)
  rw [toList_alterTable]
  exact (hline.append hend).reads

/-- A text without the letters of `create` is quiet. -/
theorem quiet_of_not_occurs {cs : List Char}
    (h : Text.occurs createWord (cs.map Char.toLower) = false) : Quiet cs := by
  rintro before taken c after rfl htaken
  have hoccurs : Text.occurs createWord
      ((before ++ taken ++ c :: after).map Char.toLower) = true := by
    simp only [List.map_append, htaken, List.append_assoc]
    exact Text.occurs_append _ _ _
  cases hoccurs.symm.trans h

/-- What is written about a harmless relationship of plain names is sealed by its semicolon. -/
theorem sealed_addRelationship {r : Relationship} (h : ∀ name ∈ r.identifiers, IsPlain name)
    (hharmless : r.IsHarmless) :
    Sealed ((Writer.plain.alteration (.addRelationship r)).toList ++ [';']) := by
  have hname : Inert (quoted r.name) := inert_quoted (h _ (by simp [Relationship.identifiers]))
  have htarget : Inert (quoted r.target) := inert_quoted (h _ (by simp [Relationship.identifiers]))
  have hadd : Inert "ADD RELATIONSHIP ".toList := by decide
  have hwith : Inert " WITH ".toList := by decide
  have has : Inert " AS ".toList := by decide
  -- Whatever the condition ends with, the semicolon keeps it apart from what follows.
  have hcondition : Sealed (r.condition.toList ++ [';']) :=
    (quiet_of_not_occurs hharmless).concat (by decide) (by decide)
  have hfront := (((hadd.append hname).append hwith).append htarget).append has
  show Sealed (("ADD RELATIONSHIP " ++ Writer.plain.ident r.name ++ " WITH "
    ++ Writer.plain.ident r.target ++ " AS " ++ r.condition).toList ++ [';'])
  simp only [String.toList_append, toList_ident]
  rw [List.append_assoc]
  exact hfront.isSealed.append hcondition

/-- Nothing is read where a relationship is added, though its condition may leave a comment open. -/
theorem exists_reads_addRelationship {schema table : String} {r : Relationship}
    (hschema : IsPlain schema) (htable : IsPlain table)
    (hnames : ∀ name ∈ r.identifiers, IsPlain name) (hharmless : r.IsHarmless) (inBlock : Bool) :
    ∃ inBlock', Reads ⟨inBlock, .outside⟩
      (Writer.plain.statement (.alterTable schema table (.addRelationship r))).toList []
      ⟨inBlock', .outside⟩ := by
  have hnewline : Quiet ['\n'] := by decide
  have hline := (inert_alterWords hschema htable).isSealed.append
    (sealed_addRelationship hnames hharmless)
  have hquiet := hline.quiet_append hnewline
  rw [toList_alterTable]
  rw [← List.append_assoc] at hquiet
  exact exists_reads_of_quiet hquiet inBlock

/-! ## Scripts -/

/-- What is read in a statement with the blank line before it. -/
theorem reads_statement {s : Statement} (h : s.IsPlain) :
    start.Reads (s.gap ++ Writer.plain.statement s).toList s.found start := by
  have hgap : start.Reads s.gap.toList [] start := by
    have hline : Inert [] := by decide
    rcases s.gap_eq with hgap | hgap
    · rw [hgap]
      exact reads_nil start
    · rw [hgap]
      exact hline.reads
  have hstatement : start.Reads (Writer.plain.statement s).toList s.found start := by
    cases s with
    | createDatabase name => exact reads_createDatabase h
    | useDatabase name => exact reads_useDatabase h
    | createSchema name => exact reads_createSchema h
    | createTable t =>
        obtain ⟨hschema, htable, hitems, hshard⟩ := h
        exact reads_createTable hschema htable hitems hshard
    | dropTable schema table => exact reads_dropTable h.1 h.2
    | alterTable schema table change =>
        cases change with
        | addForeignKey key => exact reads_addForeignKey h.1 h.2.1 h.2.2
        | _ => exact h.elim
  rw [String.toList_append]
  exact hgap.append hstatement

/-- The text of a script, statement by statement. -/
theorem toList_script (list : List Statement) :
    (Writer.plain.script list).toList
      = list.flatMap fun s => (s.gap ++ Writer.plain.statement s).toList := by
  rw [Writer.script, String.toList_join, List.flatMap_map]

/-- What is read in statements one after the other. -/
theorem reads_script {list : List Statement} (h : ∀ s ∈ list, s.IsPlain) :
    start.Reads (Writer.plain.script list).toList (list.flatMap Statement.found) start := by
  rw [toList_script]
  induction list with
  | nil => exact reads_nil start
  | cons s list ih =>
      rw [List.flatMap_cons, List.flatMap_cons]
      exact (reads_statement (h s (by simp))).append (ih fun u hu => h u (by simp [hu]))

end Schemata.Ddl
