import Schemata.Proofs.Neat
import Schemata.Proofs.Nested
import Schemata.Script

/-! # The text of a script as lines

The identifiers and the types that a script is written with, and what they are made of. With plain
names and standard types, the lines that create a table are neat, the items of a table are told
apart by their commas, and every other name that is written is inert. -/

namespace Schemata

/-! ## Plain names and standard types -/

namespace Naming

/-- Whether a character may stand in a plain name: no white space, quote, parenthesis, bracket,
comma, dot, hyphen or slash. -/
def isPlainChar (c : Char) : Bool :=
  !(Text.isWhite c || ['"', '\'', '\x60', '(', ')', '[', ']', ',', '.', '-', '/'].contains c)

/-- Whether a name has characters, and only plain ones. -/
def IsPlain (name : String) : Prop := name ≠ "" ∧ ∀ c ∈ name.toList, isPlainChar c = true

instance (name : String) : Decidable (IsPlain name) := inferInstanceAs (Decidable (_ ∧ _))

/-- A plain character is no white space. -/
theorem isWhite_of_isPlainChar {c : Char} (h : isPlainChar c = true) : Text.isWhite c = false := by
  rw [← Bool.not_eq_true]
  intro hwhite
  simp [isPlainChar, hwhite] at h

/-- A character that is not plain is not in a plain name. -/
theorem IsPlain.ne {name : String} (h : IsPlain name) {c d : Char} (hc : c ∈ name.toList)
    (hd : isPlainChar d = false) : c ≠ d := by
  rintro rfl
  cases (h.2 c hc).symm.trans hd

end Naming

/-- The capital letters of the words of types. -/
def capitals : List Char := "ABCDEFGHIJKLMNOPQRSTUVWXYZ".toList

/-- The decimal digits. -/
def decimals : List Char := "0123456789".toList

/-- A decimal digit is one of ten characters. -/
theorem mem_decimals_of_isDigit {c : Char} (h : c.isDigit = true) : c ∈ decimals := by
  have hle : 48 ≤ c.toNat ∧ c.toNat ≤ 57 := by
    simpa [Char.isDigit, UInt32.le_iff_toNat_le] using h
  have hcases : c.toNat = 48 ∨ c.toNat = 49 ∨ c.toNat = 50 ∨ c.toNat = 51 ∨ c.toNat = 52
      ∨ c.toNat = 53 ∨ c.toNat = 54 ∨ c.toNat = 55 ∨ c.toNat = 56 ∨ c.toNat = 57 := by omega
  rw [← Char.ofNat_toNat c]
  rcases hcases with e | e | e | e | e | e | e | e | e | e <;> rw [e] <;> decide

/-- Whether a type is one of the words of the target engine, or `VARCHAR` with a length in decimal
digits. -/
def ColumnType.IsStandard : ColumnType → Prop
  | .varchar rest =>
      rest = "" ∨ ∃ digits, (∀ c ∈ digits, c.isDigit = true)
        ∧ rest = String.ofList ('(' :: digits ++ [')'])
  | _ => True

/-- The text of a standard type: a word in capitals, or one with a length behind it. -/
theorem ColumnType.IsStandard.exists_word {type : ColumnType} (h : type.IsStandard) :
    ∃ word, word ≠ [] ∧ (∀ c ∈ word, c ∈ capitals) ∧ (type.text.toList = word
      ∨ ∃ digits, (∀ c ∈ digits, c ∈ decimals)
        ∧ type.text.toList = word ++ ('(' :: digits ++ [')'])) := by
  cases type with
  | varchar rest =>
      refine ⟨varcharWord, by decide, by decide, ?_⟩
      rcases h with rfl | ⟨digits, hdigits, rfl⟩
      · exact .inl rfl
      · refine .inr ⟨digits, fun c hc => mem_decimals_of_isDigit (hdigits c hc), ?_⟩
        simp [text]
  | _ => exact ⟨_, by decide, by decide, .inl rfl⟩

/-- The characters that the texts of standard types are made of. -/
def typeChars : List Char := capitals ++ decimals ++ ['(', ')']

/-- The text of a standard type is made of letters, digits and parentheses. -/
theorem ColumnType.IsStandard.mem_typeChars {type : ColumnType} (h : type.IsStandard) :
    ∀ c ∈ type.text.toList, c ∈ typeChars := by
  obtain ⟨word, -, hword, htext | ⟨digits, hdigits, htext⟩⟩ := h.exists_word
  · intro c hc
    rw [htext] at hc
    simp [typeChars, hword c hc]
  · intro c hc
    rw [htext] at hc
    simp only [List.mem_append, List.mem_cons, List.not_mem_nil, or_false] at hc
    rcases hc with hc | (rfl | hc) | rfl
    · simp [typeChars, hword c hc]
    · decide
    · simp [typeChars, hdigits c hc]
    · decide

/-- The text of a standard type is not empty. -/
theorem ColumnType.IsStandard.text_ne_nil {type : ColumnType} (h : type.IsStandard) :
    type.text.toList ≠ [] := by
  obtain ⟨word, hne, -, htext | ⟨digits, -, htext⟩⟩ := h.exists_word
  · rw [htext]
    exact hne
  · simp [htext]

/-! ## Identifiers in a script -/

/-- A name between double quotes. -/
def quoted (name : String) : List Char := '"' :: name.toList ++ ['"']

/-- Names between double quotes, with a comma and a blank between them. -/
def quotedList (names : List String) : List Char := [',', ' '].intercalate (names.map quoted)

/-- The text of a quoted name. -/
@[simp] theorem toList_quote (name : String) : (Naming.quote name).toList = quoted name := by
  simp [Naming.quote, quoted]

/-- The text of a list of quoted names. -/
@[simp] theorem toList_quoteList (names : List String) :
    (Naming.quoteList names).toList = quotedList names := by
  have hquote : String.toList ∘ Naming.quote = quoted := funext toList_quote
  simp [Naming.quoteList, quotedList, hquote]

/-- How the plain writer writes an identifier. -/
@[simp] theorem toList_ident (name : String) : (Writer.plain.ident name).toList = quoted name := by
  simp [Writer.ident, Writer.cased, Writer.plain]

/-- How the plain writer writes a list of identifiers. -/
@[simp] theorem toList_idents (names : List String) :
    (Writer.plain.idents names).toList = quotedList names := by
  have hcased : Writer.plain.cased = id := funext fun name => by simp [Writer.cased, Writer.plain]
  rw [Writer.idents, hcased, List.map_id, toList_quoteList]

/-- Of no names nothing is written. -/
@[simp] theorem quotedList_nil : quotedList [] = [] := rfl

/-- A name by itself has no comma behind it. -/
@[simp] theorem quotedList_singleton (name : String) : quotedList [name] = quoted name := by
  simp [quotedList]

/-- A name with others behind it has a comma and a blank behind it. -/
theorem quotedList_cons_cons (name second : String) (names : List String) :
    quotedList (name :: second :: names)
      = quoted name ++ [',', ' '] ++ quotedList (second :: names) := by
  simp [quotedList]

/-- What holds of quoted names and of commas, and of texts made of such, holds of their list. -/
theorem quotedList_of_parts {P : List Char → Prop} (nil : P [])
    (append : ∀ {xs ys}, P xs → P ys → P (xs ++ ys)) (comma : P [',', ' ']) {names : List String}
    (h : ∀ name ∈ names, P (quoted name)) : P (quotedList names) := by
  induction names with
  | nil => exact nil
  | cons name names ih =>
      -- The last name has no comma behind it.
      cases names with
      | nil =>
          rw [quotedList_singleton]
          exact h name (by simp)
      | cons second names =>
          rw [quotedList_cons_cons]
          exact append (append (h name (by simp)) comma) (ih fun n hn => h n (by simp [hn]))

/-! ## The identifiers of a database -/

/-- The identifiers that a foreign key is written with. -/
def ForeignKey.identifiers (k : ForeignKey) : List String :=
  [k.name, k.target] ++ k.sourceKeys ++ k.targetKeys

/-- The identifiers that a relationship is written with. -/
def Relationship.identifiers (r : Relationship) : List String := [r.name, r.target]

/-- Whether the letters of `create`, in whatever case, do not occur in the condition of a
relationship. -/
def Relationship.IsHarmless (r : Relationship) : Prop :=
  Text.occurs Ddl.createWord (r.condition.toList.map Char.toLower) = false

instance (r : Relationship) : Decidable r.IsHarmless := inferInstanceAs (Decidable (_ = _))

/-- The identifiers that a table is written with. -/
def Table.identifiers (t : Table) : List String :=
  [t.schema, t.name] ++ t.columnNames ++ t.primaryKey ++ (t.shardKey.map (·.columns)).getD []
    ++ t.foreignKeys.toList.flatMap ForeignKey.identifiers
    ++ t.relationships.toList.flatMap Relationship.identifiers

/-- The identifiers that a database is written with. -/
def Database.identifiers (db : Database) : List String :=
  db.name :: db.schemaNames ++ db.tables.toList.flatMap Table.identifiers

/-- The name of a column is an identifier of its table. -/
theorem Table.name_mem_identifiers {t : Table} {c : Column} (hc : c ∈ t.columns.toList) :
    c.name ∈ t.identifiers := by
  have hname : c.name ∈ t.columnNames := List.mem_map_of_mem hc
  simp [identifiers, hname]

/-- The identifiers of a foreign key are identifiers of its table. -/
theorem Table.mem_identifiers_of_foreignKey {t : Table} {key : ForeignKey}
    (hkey : key ∈ t.foreignKeys.toList) {name : String} (hname : name ∈ key.identifiers) :
    name ∈ t.identifiers :=
  List.mem_append_left _ (List.mem_append_right _ (List.mem_flatMap.2 ⟨key, hkey, hname⟩))

/-- The identifiers of a relationship are identifiers of its table. -/
theorem Table.mem_identifiers_of_relationship {t : Table} {r : Relationship}
    (hr : r ∈ t.relationships.toList) {name : String} (hname : name ∈ r.identifiers) :
    name ∈ t.identifiers :=
  List.mem_append_right _ (List.mem_flatMap.2 ⟨r, hr, hname⟩)

/-- The identifiers of a table are identifiers of its database. -/
theorem Database.mem_identifiers {db : Database} {t : Table} (ht : t ∈ db.tables.toList)
    {name : String} (hname : name ∈ t.identifiers) : name ∈ db.identifiers :=
  List.mem_append_right _ (List.mem_flatMap.2 ⟨t, ht, hname⟩)

namespace Ddl

open Naming

/-! ## Parts of lines without statements -/

/-- Whether a text may stand anywhere in a line that holds no statement and no comment. -/
structure Inert (cs : List Char) : Prop where
  /-- The text is quiet, and stays so in front of any quiet text. -/
  isSealed : Sealed cs
  /-- Every character is mild. -/
  mild : ∀ c ∈ cs, isMild c = true

instance (cs : List Char) : Decidable (Inert cs) :=
  decidable_of_iff (Sealed cs ∧ ∀ c ∈ cs, isMild c = true)
    ⟨fun h => ⟨h.1, h.2⟩, fun h => ⟨h.isSealed, h.mild⟩⟩

/-- Inert texts make an inert text. -/
theorem Inert.append {xs ys : List Char} (hx : Inert xs) (hy : Inert ys) : Inert (xs ++ ys) where
  isSealed := hx.isSealed.append hy.isSealed
  mild c hc := by
    rcases List.mem_append.1 hc with hc | hc
    · exact hx.mild c hc
    · exact hy.mild c hc

/-- A plain character is mild, and no blank. -/
theorem isMild_of_isPlainChar {c : Char} (h : isPlainChar c = true) :
    isMild c = true ∧ c ≠ ' ' := by
  have hblank : c ≠ ' ' := by
    rintro rfl
    exact absurd h (by decide)
  simp only [isPlainChar, List.contains_cons, Bool.not_eq_true', Bool.or_eq_false_iff] at h
  simp [isMild, h, hblank]

/-- A quoted plain name is made of mild characters other than blanks. -/
theorem mild_of_mem_quoted {name : String} (h : IsPlain name) {c : Char} (hc : c ∈ quoted name) :
    isMild c = true ∧ c ≠ ' ' := by
  rw [quoted, List.mem_append, List.mem_cons, List.mem_singleton] at hc
  rcases hc with (rfl | hc) | rfl
  · decide
  · exact isMild_of_isPlainChar (h.2 c hc)
  · decide

/-- A quoted plain name is inert. -/
theorem inert_quoted {name : String} (h : IsPlain name) : Inert (quoted name) where
  isSealed := by
    refine ⟨quiet_of_forall fun c hc => ?_, fun c hc => ?_⟩
    · obtain ⟨hmild, hblank⟩ := mild_of_mem_quoted h hc
      refine ⟨?_, ?_⟩
      · rw [← Bool.not_eq_true]
        exact fun hwhite => hblank (eq_blank_of_isMild hmild hwhite)
      · rintro rfl
        exact absurd hmild (by decide)
    · rw [quoted, List.getLast?_append] at hc
      obtain rfl : '"' = c := by simpa using hc
      decide
  mild c hc := (mild_of_mem_quoted h hc).1

/-- A list of quoted plain names is inert. -/
theorem inert_quotedList {names : List String} (h : ∀ name ∈ names, IsPlain name) :
    Inert (quotedList names) :=
  quotedList_of_parts (by decide) Inert.append (by decide) fun name hn => inert_quoted (h name hn)

/-! ## Parts of neat lines -/

/-- A quoted plain name is neat. -/
theorem neat_quoted {name : String} (h : IsPlain name) : Neat (quoted name) :=
  neat_of_forall fun _ hc => mild_of_mem_quoted h hc

/-- A list of quoted plain names is neat. -/
theorem neat_quotedList {names : List String} (h : ∀ name ∈ names, IsPlain name) :
    Neat (quotedList names) :=
  quotedList_of_parts (by decide) Neat.append (by decide) fun name hn => neat_quoted (h name hn)

/-- There are no parentheses in a quoted plain name, and no comma. -/
theorem ne_of_mem_quoted {name : String} (h : IsPlain name) {c : Char} (hc : c ∈ quoted name) :
    c ≠ '(' ∧ c ≠ ')' ∧ c ≠ ',' := by
  rw [quoted, List.mem_append, List.mem_cons, List.mem_singleton] at hc
  rcases hc with (rfl | hc) | rfl
  · decide
  · exact ⟨h.ne hc (by decide), h.ne hc (by decide), h.ne hc (by decide)⟩
  · decide

/-- There are no parentheses in a list of quoted plain names. -/
theorem ne_of_mem_quotedList {names : List String} (h : ∀ name ∈ names, IsPlain name) :
    ∀ c ∈ quotedList names, c ≠ '(' ∧ c ≠ ')' := by
  apply quotedList_of_parts (P := fun cs => ∀ c ∈ cs, c ≠ '(' ∧ c ≠ ')')
  · simp
  · intro xs ys hx hy c hc
    rcases List.mem_append.1 hc with hc | hc
    · exact hx c hc
    · exact hy c hc
  · decide
  · intro name hn c hc
    obtain ⟨hopen, hclose, -⟩ := ne_of_mem_quoted (h name hn) hc
    exact ⟨hopen, hclose⟩

/-! ## The items of a table -/

/-- Whether a line takes a statement on without ending it. -/
structure Onward (cs : List Char) : Prop where
  /-- The line is neat. -/
  neat : Neat cs
  /-- There is a line. -/
  ne_nil : cs ≠ []
  /-- It does not end with a blank. -/
  last : ∀ c ∈ cs.getLast?, c ≠ ' '
  /-- It is not taken for the end of a batch. -/
  batch : isBatchEnd cs = false
  /-- Its parentheses close one another. -/
  nested : ∃ n, Nested n cs

/-- Whether a text may be an item between the parentheses of a `CREATE TABLE`. -/
structure Entry (cs : List Char) : Prop extends Onward cs where
  /-- There is no comma outside parentheses. -/
  whole : Whole cs

/-- The item of a column. -/
def columnItem (c : Column) : List Char := quoted c.name ++ ' ' :: c.type.text.toList

/-- The words in front of the columns of a primary key. -/
def keyWords : List Char := "CONSTRAINT PRIMARY KEY ".toList

/-- The item of a primary key. -/
def keyItem (key : List String) : List Char := keyWords ++ ('(' :: quotedList key ++ [')'])

/-- The items of a table: the columns, then the primary key if there is one. -/
def items (t : Table) : List (List Char) :=
  t.columns.toList.map columnItem ++ if t.primaryKey.isEmpty then [] else [keyItem t.primaryKey]

/-- How the plain writer writes the items of a table. -/
theorem map_toList_tableItems (t : Table) :
    (Writer.plain.tableItems t).map String.toList = items t := by
  simp only [Writer.tableItems, items, List.map_append, List.map_map]
  congr 1
  · refine List.map_congr_left fun c _ => ?_
    simp [columnItem]
  · have hopen : "CONSTRAINT PRIMARY KEY (".toList = keyWords ++ ['('] := by decide
    have hclose : ")".toList = [')'] := by decide
    cases t.primaryKey.isEmpty <;> simp [keyItem, hopen, hclose]

/-- A text that does not start with the first letter of the word does not end a batch. -/
theorem isBatchEnd_cons {c : Char} (h : c.toLower ≠ 'g') (cs : List Char) :
    isBatchEnd (c :: cs) = false := by
  simp [isBatchEnd, h]

/-- The item of a primary key of plain names is an entry. -/
theorem entry_keyItem {key : List String} (h : ∀ name ∈ key, IsPlain name) :
    Entry (keyItem key) := by
  have hneat : Neat keyWords := by decide
  have hopen : Neat ['('] := by decide
  have hclose : Neat [')'] := by decide
  have hnested : Nested 0 keyWords := nested_of_forall (by decide)
  have hwhole : Whole keyWords := whole_of_forall (by decide)
  have hparens := ne_of_mem_quotedList h
  exact {
    neat := hneat.append ((hopen.append (neat_quotedList h)).append hclose)
    ne_nil := by simp [keyItem]
    last := by
      rw [keyItem, ← List.append_assoc]
      exact last_append (by simp) (by decide)
    batch := isBatchEnd_cons (by decide) _
    nested := ⟨_, hnested.append (nested_of_forall hparens).paren⟩
    whole := hwhole.append (whole_paren hparens) }

/-- The text of a standard type is nested and whole. -/
theorem nested_whole_text {type : ColumnType} (h : type.IsStandard) :
    (∃ n, Nested n type.text.toList) ∧ Whole type.text.toList := by
  have hcapital : ∀ c ∈ capitals, c ≠ '(' ∧ c ≠ ')' ∧ c ≠ ',' := by decide
  have hdecimal : ∀ c ∈ decimals, c ≠ '(' ∧ c ≠ ')' := by decide
  obtain ⟨word, -, hword, htext⟩ := h.exists_word
  have hnested : Nested 0 word := nested_of_forall fun c hc =>
    ⟨(hcapital c (hword c hc)).1, (hcapital c (hword c hc)).2.1⟩
  have hwhole : Whole word := whole_of_forall fun c hc => hcapital c (hword c hc)
  rcases htext with htext | ⟨digits, hdigits, htext⟩
  · rw [htext]
    exact ⟨⟨0, hnested⟩, hwhole⟩
  · have hplain : ∀ c ∈ digits, c ≠ '(' ∧ c ≠ ')' := fun c hc => hdecimal c (hdigits c hc)
    rw [htext]
    exact ⟨⟨_, hnested.append (nested_of_forall hplain).paren⟩,
      hwhole.append (whole_paren hplain)⟩

/-- The item of a column with a plain name and a standard type is an entry. -/
theorem entry_columnItem {c : Column} (hname : IsPlain c.name) (htype : c.type.IsStandard) :
    Entry (columnItem c) := by
  have hmild : ∀ d ∈ typeChars, isMild d = true ∧ d ≠ ' ' := by decide
  obtain ⟨⟨n, hnested⟩, hwhole⟩ := nested_whole_text htype
  have hquoted := fun d (hd : d ∈ quoted c.name) => ne_of_mem_quoted hname hd
  have hblank : ∀ d ∈ [' '], d ≠ '(' ∧ d ≠ ')' ∧ d ≠ ',' := by decide
  -- The blank goes with the quote before it, since a neat text starts with none.
  have hfront : Neat ('"' :: c.name.toList) := neat_of_forall fun d hd =>
    mild_of_mem_quoted hname (List.mem_append_left _ hd)
  have hgap : Neat ['"', ' '] := by decide
  have hneat : Neat c.type.text.toList := neat_of_forall fun d hd =>
    hmild d (htype.mem_typeChars d hd)
  have hparts : columnItem c = '"' :: c.name.toList ++ ['"', ' '] ++ c.type.text.toList := by
    simp [columnItem, quoted]
  have hparts' : columnItem c = quoted c.name ++ [' '] ++ c.type.text.toList := by
    simp [columnItem]
  exact {
    neat := hparts ▸ (hfront.append hgap).append hneat
    ne_nil := by simp [columnItem]
    last := by
      rw [hparts']
      exact last_append htype.text_ne_nil fun d hd =>
        (hmild d (htype.mem_typeChars d (List.mem_of_getLast? hd))).2
    batch := isBatchEnd_cons (by decide) _
    nested := by
      rw [hparts']
      have hq : Nested 0 (quoted c.name) := nested_of_forall fun d hd =>
        ⟨(hquoted d hd).1, (hquoted d hd).2.1⟩
      exact ⟨_, (hq.append (nested_of_forall (by decide))).append hnested⟩
    whole := by
      rw [hparts']
      exact ((whole_of_forall hquoted).append (whole_of_forall hblank)).append hwhole }

/-- Every item of a table with plain names and standard types is an entry. -/
theorem entry_of_mem_items {t : Table} (hcolumns : ∀ name ∈ t.columnNames, IsPlain name)
    (htypes : ∀ c ∈ t.columns.toList, c.type.IsStandard)
    (hkey : ∀ name ∈ t.primaryKey, IsPlain name) : ∀ item ∈ items t, Entry item := by
  intro item hitem
  rcases List.mem_append.1 hitem with hitem | hitem
  · obtain ⟨c, hc, rfl⟩ := List.mem_map.1 hitem
    exact entry_columnItem (hcolumns _ (List.mem_map_of_mem hc)) (htypes c hc)
  · split at hitem
    · cases hitem
    · obtain rfl := List.mem_singleton.1 hitem
      exact entry_keyItem hkey

/-! ## The lines of a table -/

/-- The words in front of the name of a table that is created. -/
def tableWords : List Char := "CREATE TABLE ".toList

/-- What the first line of a `CREATE TABLE` holds before its parenthesis. -/
def nameWords (schema table : String) : List Char :=
  tableWords ++ (quoted schema ++ '.' :: quoted table ++ [' '])

/-- The first line of a `CREATE TABLE`. -/
def tableHead (schema table : String) : List Char := nameWords schema table ++ ['(']

/-- What stands before the parenthesis is made of mild characters other than parentheses. -/
theorem mild_of_mem_nameWords {schema table : String} (hschema : IsPlain schema)
    (htable : IsPlain table) {c : Char} (hc : c ∈ nameWords schema table) :
    isMild c = true ∧ c ≠ '(' ∧ c ≠ ')' := by
  have hwords : ∀ c ∈ tableWords, isMild c = true ∧ c ≠ '(' ∧ c ≠ ')' := by decide
  have hquoted : ∀ {name : String}, IsPlain name → c ∈ quoted name →
      isMild c = true ∧ c ≠ '(' ∧ c ≠ ')' := by
    intro name h hmem
    obtain ⟨hopen, hclose, -⟩ := ne_of_mem_quoted h hmem
    exact ⟨(mild_of_mem_quoted h hmem).1, hopen, hclose⟩
  simp only [nameWords, List.mem_append, List.mem_cons, List.not_mem_nil, or_false] at hc
  rcases hc with hc | (hc | rfl | hc) | rfl
  · exact hwords c hc
  · exact hquoted hschema hc
  · decide
  · exact hquoted htable hc
  · decide

/-- The words in front of the number of shards of a table. -/
def hashWords : List Char := " PARTITION BY HASH(".toList

/-- What stands in the last line of a `CREATE TABLE` behind the closing parenthesis. -/
def tableTail : Option ShardKey → List Char
  | some key =>
      hashWords ++ (toString key.shards).toList ++ [')', ' ', 'K', 'E', 'Y', '(']
        ++ quotedList key.columns ++ [')', ';']
  | none => [';']

/-- The statement that is read where a table is created. -/
def tableStatement (t : Table) : List Char :=
  tableHead t.schema t.name ++ listText (items t) ++ [' ', ')']

end Ddl

/-! ## Statements of a script -/

/-- Whether a statement is one that a script has before its relationships, with plain names and
standard types. -/
def Statement.IsPlain : Statement → Prop
  | .createDatabase name | .useDatabase name | .createSchema name => Naming.IsPlain name
  | .createTable t =>
      Naming.IsPlain t.schema ∧ Naming.IsPlain t.name ∧ (∀ item ∈ Ddl.items t, Ddl.Entry item)
        ∧ ∀ k, t.shardKey = some k → ∀ name ∈ k.columns, Naming.IsPlain name
  | .dropTable schema table => Naming.IsPlain schema ∧ Naming.IsPlain table
  | .alterTable schema table (.addForeignKey key) =>
      Naming.IsPlain schema ∧ Naming.IsPlain table ∧ ∀ name ∈ key.identifiers, Naming.IsPlain name
  | .alterTable .. => False

/-- What is read where a statement is written. -/
def Statement.found : Statement → List (List Char)
  | .createTable t => [Ddl.tableStatement t]
  | _ => []

end Schemata
