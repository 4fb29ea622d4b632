import Schemata.Proofs.FieldList
import Schemata.Proofs.KeyFields
import Schemata.Proofs.ReaderShape
import Schemata.Proofs.TableReading

/-! # Definitions of columns among the fields

A field that defines a column is a name with a type behind it, and maybe options behind the type. A
column whose name ends in `key` is taken for a key and passed over; every other one is read under
its name. Options leave the type as it is without them, unless the type has no number in parentheses
and there is a closing parenthesis in the options: the type then reaches to the first one. -/

namespace Schemata.Ddl

open Naming

/-! ## A name with something behind it -/

/-- A plain name has neither parentheses nor commas. -/
theorem isField_of_isPlain {name : String} (h : IsPlain name) : IsField name.toList :=
  depthBehind?_of_forall fun _ hc => ⟨h.ne hc (by decide), h.ne hc (by decide),
    fun he => absurd he (h.ne hc (by decide))⟩

/-- A plain name has no brackets. -/
theorem quoteBrackets_of_isPlain {name : String} (h : IsPlain name) :
    quoteBrackets name.toList = name.toList :=
  quoteBrackets_of_forall fun _ hc => ⟨h.ne hc (by decide), h.ne hc (by decide)⟩

/-- A plain name has no blanks. -/
theorem blank_not_mem_of_isPlain {name : String} (h : IsPlain name) : ' ' ∉ name.toList :=
  fun hc => h.ne hc (by decide) rfl

/-- The name of a field ends at its first blank, and the type starts right behind it. -/
theorem splitColumn_named {name : String} (hname : IsPlain name) {c : Char}
    (hc : Text.isWhite c = false) (more : List Char) :
    splitColumn (name.toList ++ ' ' :: c :: more) = (name.toList, typeWord (c :: more)) := by
  obtain ⟨d, ds, hcons, hd⟩ := exists_cons_of_isPlain hname
  have hquote : isQuote d = false := isQuote_of_isPlainChar hd
  have hcut : Text.cutAt? (· == ' ') (name.toList ++ ' ' :: c :: more)
      = some (name.toList, c :: more) :=
    Text.cutAt?_append (Text.forall_beq_iff.2 (blank_not_mem_of_isPlain hname)) (by decide) _
  have hsplit : splitName (name.toList ++ ' ' :: c :: more) = (name.toList, c :: more) := by
    rw [hcons, List.cons_append] at hcut ⊢
    rw [splitName, hquote, hcut]
    rfl
  have htrim : Text.trimStart (c :: more) = c :: more := by
    rw [Text.trimStart, List.dropWhile_cons_of_neg (by rw [hc]; decide)]
  rw [splitColumn, hsplit]
  show (name.toList, typeWord (Text.trimStart (c :: more))) = _
  rw [htrim]

/-- What is read from a plain name with a type behind it: a column of that name, unless the name
ends in the word of a key or the type counts as one. -/
theorem columns_named {name : String} (hname : IsPlain name) {type : List Char}
    (hfield : IsField type) (hfirst : ∃ c cs, type = c :: cs ∧ Text.isWhite c = false)
    (hlast : ∀ d ∈ type.getLast?, Text.isWhite d = false) :
    columns (name.toList ++ ' ' :: type)
      = if EndsInKey name.toList ∨ isKeyField type = true then []
        else [⟨name, translate (typeWord type)⟩] := by
  obtain ⟨c, cs, rfl, hc⟩ := hfirst
  obtain ⟨d, ds, hcons, hd⟩ := exists_cons_of_isPlain hname
  have hwhole : IsField (name.toList ++ ' ' :: c :: cs) :=
    (isField_of_isPlain hname).append hfield.blank_cons
  have hcolumn : column? (name.toList ++ ' ' :: c :: cs)
      = some ⟨name, translate (typeWord (c :: cs))⟩ := by
    rw [column?_eq, splitColumn_named hname hc, String.ofList_toList, isBlank_of_isPlain hname]
    rfl
  have hkey : isKeyField (name.toList ++ ' ' :: c :: cs) = true
      ↔ EndsInKey name.toList ∨ isKeyField (c :: cs) = true := by
    rw [isKeyField_append_blank, isKeyField_of_not_mem (blank_not_mem_of_isPlain hname)]
    simp
  have hhead : ∀ e ∈ (name.toList ++ ' ' :: c :: cs).head?, Text.isWhite e = false := by
    rw [hcons]
    simpa using isWhite_of_isPlainChar hd
  have hend : ∀ e ∈ (name.toList ++ ' ' :: c :: cs).getLast?, Text.isWhite e = false := by
    rw [List.getLast?_append]
    simpa using hlast
  rw [hwhole.columns_eq (by simp) hhead hend, hcolumn]
  simp only [hkey, Option.toList_some]

/-! ## Definitions -/

/-- The definition of a column: a plain name, and a plain word with a number in parentheses, if
any. -/
structure ColumnDefinition where
  /-- The name of the column. -/
  name : String
  /-- The word of the type. -/
  word : String
  /-- The digits in parentheses behind the word. -/
  digits : Option (List Char)
  /-- The name is plain. -/
  name_plain : IsPlain name
  /-- The word is plain. -/
  word_plain : IsPlain word
  /-- The number is a decimal one. -/
  digits_decimal : ∀ ds ∈ digits, ∀ c ∈ ds, c.isDigit = true

namespace ColumnDefinition

variable (d : ColumnDefinition)

/-- The text of the type. -/
def type : List Char :=
  match d.digits with
  | some digits => d.word.toList ++ ('(' :: digits ++ [')'])
  | none => d.word.toList

/-- The text of a definition. -/
def text : List Char := d.name.toList ++ ' ' :: d.type

/-- The column that is defined. -/
def column : Column := ⟨d.name, translate d.type⟩

/-- The type starts with a character that is no white space. -/
theorem exists_type_eq : ∃ c cs, d.type = c :: cs ∧ Text.isWhite c = false := by
  obtain ⟨c, cs, hcons, hc⟩ := exists_cons_of_isPlain d.word_plain
  unfold type
  split
  · exact ⟨c, _, by rw [hcons]; rfl, isWhite_of_isPlainChar hc⟩
  · exact ⟨c, cs, hcons, isWhite_of_isPlainChar hc⟩

/-- What holds of plain characters, digits and parentheses holds of the characters of a type. -/
theorem forall_mem_type {P : Char → Prop} (hplain : ∀ c, isPlainChar c = true → P c)
    (hother : ∀ c ∈ '(' :: ')' :: decimals, P c) : ∀ c ∈ d.type, P c := by
  intro c hc
  unfold type at hc
  split at hc
  · rename_i digits hdigits
    simp only [List.mem_append, List.mem_cons, List.not_mem_nil, or_false] at hc
    rcases hc with hc | (rfl | hc) | rfl
    · exact hplain c (d.word_plain.2 c hc)
    · exact hother _ (by simp)
    · have hdecimal := mem_decimals_of_isDigit (d.digits_decimal digits hdigits c hc)
      exact hother c (by simp [hdecimal])
    · exact hother _ (by simp)
  · exact hplain c (d.word_plain.2 c hc)

/-- There is no white space in a type. -/
theorem isWhite_of_mem_type : ∀ c ∈ d.type, Text.isWhite c = false :=
  d.forall_mem_type (fun _ => isWhite_of_isPlainChar) (by decide)

/-- There is no blank in a type. -/
theorem blank_not_mem_type : ' ' ∉ d.type := fun hmem => by cases d.isWhite_of_mem_type _ hmem

/-- A type is a field of its own. -/
theorem isField_type : IsField d.type := by
  have hdecimal : ∀ c ∈ decimals, c ≠ '(' ∧ c ≠ ')' := by decide
  unfold type
  split
  · rename_i digits hdigits
    have hinner : ∀ c ∈ digits, c ≠ '(' ∧ c ≠ ')' := fun c hc =>
      hdecimal c (mem_decimals_of_isDigit (d.digits_decimal digits hdigits c hc))
    exact (isField_of_isPlain d.word_plain).append (depthBehind?_paren hinner 0)
  · exact isField_of_isPlain d.word_plain

/-- The word of a type has no closing parenthesis. -/
theorem close_not_mem_word : ')' ∉ d.word.toList := fun hc => d.word_plain.ne hc (by decide) rfl

/-- A type with a number is read to its end, whatever follows. -/
theorem typeWord_append_of_digits (h : d.digits ≠ none) (rest : List Char) :
    typeWord (d.type ++ rest) = d.type := by
  have hdecimal : ')' ∉ decimals := by decide
  unfold type
  split
  · rename_i digits hdigits
    have hinner : ')' ∉ digits := fun hc =>
      hdecimal (mem_decimals_of_isDigit (d.digits_decimal digits hdigits _ hc))
    have hbefore : ')' ∉ d.word.toList ++ '(' :: digits := by simp [d.close_not_mem_word, hinner]
    have hwhole := typeWord_append_close hbefore rest
    simpa using hwhole
  · rename_i hnone
    exact absurd hnone h

/-- A type without a number is read to its end, unless a closing parenthesis follows. -/
theorem typeWord_append_of_not_mem (h : d.digits = none) {options : List Char}
    (hclose : ')' ∉ options) : typeWord (d.type ++ ' ' :: options) = d.type := by
  have hnone : ')' ∉ d.word.toList ++ ' ' :: options := by simp [d.close_not_mem_word, hclose]
  rw [type, h]
  exact typeWord_append hnone
    (fun c hc => ⟨d.word_plain.ne hc (by decide), d.word_plain.ne hc (by decide)⟩) (by simp)

/-- A type is read as a whole. -/
theorem typeWord_type : typeWord d.type = d.type := by
  by_cases h : d.digits = none
  · rw [type, h]
    exact typeWord_of_forall fun c hc => ⟨d.word_plain.ne hc (by decide),
      d.word_plain.ne hc (by decide), d.word_plain.ne hc (by decide)⟩
  · have hwhole := d.typeWord_append_of_digits h []
    rwa [List.append_nil] at hwhole

/-- A definition is a field of its own. -/
theorem isField_text : IsField d.text :=
  (isField_of_isPlain d.name_plain).append d.isField_type.blank_cons

/-- A definition has no brackets. -/
theorem quoteBrackets_text : quoteBrackets d.text = d.text := by
  have hplain : ∀ c, isPlainChar c = true → c ≠ '[' ∧ c ≠ ']' := by
    rintro c hc
    constructor <;> rintro rfl <;> cases hc
  have htype : quoteBrackets d.type = d.type :=
    quoteBrackets_of_forall (d.forall_mem_type hplain (by decide))
  rw [text, quoteBrackets_append, quoteBrackets_of_isPlain d.name_plain,
    quoteBrackets_cons (by decide) (by decide), htype]

/-- A definition is read as its column, unless the name ends in the word of a key. -/
theorem columns_text : columns d.text = if EndsInKey d.name.toList then [] else [d.column] := by
  have hlast : ∀ c ∈ d.type.getLast?, Text.isWhite c = false := fun c hc =>
    d.isWhite_of_mem_type c (List.mem_of_getLast? hc)
  rw [text, columns_named d.name_plain d.isField_type d.exists_type_eq hlast,
    isKeyField_of_not_mem d.blank_not_mem_type, d.typeWord_type]
  simp [column]

end ColumnDefinition

/-! ## Statements of definitions -/

/-- The definitions that are not taken for keys. -/
def kept (defs : List ColumnDefinition) : List ColumnDefinition :=
  defs.filter fun d => ¬ EndsInKey d.name.toList

/-- A list of definitions is read as the columns of those that are kept. -/
theorem columns_definitions (defs : List ColumnDefinition) :
    columns (spaced (defs.map (·.text))) = (kept defs).map ColumnDefinition.column := by
  have hfields : ∀ field ∈ defs.map (·.text), IsField field := by
    intro field hfield
    obtain ⟨d, -, rfl⟩ := List.mem_map.1 hfield
    exact d.isField_text
  rw [columns_spaced hfields]
  clear hfields
  induction defs with
  | nil => rfl
  | cons d defs ih =>
      rw [List.map_cons, List.flatMap_cons, ih, d.columns_text]
      by_cases hkey : EndsInKey d.name.toList <;> simp [kept, hkey]

/-- The statement that creates a table of definitions. -/
def definitionStatement (defs : List ColumnDefinition) : List Char :=
  "create table t (".toList ++ spaced (defs.map (·.text)) ++ [')']

/-- What a statement of definitions is read as. -/
theorem Reader.table?_definitionStatement {r : Reader} (hschema : Text.isBlank r.schema = false)
    (defs : List ColumnDefinition) : r.table? (definitionStatement defs)
      = some ⟨"t", r.schema, [], none,
          Catalog.empty.insertAll ((kept defs).map ColumnDefinition.column), .empty, .empty⟩ := by
  have hstatement : definitionStatement defs
      = creation "create table t ".toList [spaced (defs.map (·.text))] [] := by
    have hopen : "create table t ".toList ++ ['('] = "create table t (".toList := by decide
    rw [creation_singleton, hopen]
    rfl
  have hquoted : quoteBrackets (spaced (defs.map (·.text))) = spaced (defs.map (·.text)) := by
    have htexts : (defs.map (·.text)).map quoteBrackets = defs.map (·.text) := by
      rw [List.map_map]
      exact List.map_congr_left fun d _ => d.quoteBrackets_text
    rw [spaced, quoteBrackets_intercalate, htexts]
    rfl
  have htable : tableName? (quoteBrackets "create table t ".toList) = some ['t'] := by decide
  have hheader := header?_eq hschema htable (by decide)
  rw [hstatement, r.table?_creation (by decide) (by decide), hheader, Option.map_some,
    List.map_singleton, hquoted, listed, List.intercalate_singleton, columns_definitions]
  rfl

/-- **Columns are read unless their names end in `key`.** A statement with definitions of different
names is read as a table with the columns of those whose names do not end in the word, in their
order. -/
theorem Reader.columnNames_definitionStatement (r : Reader)
    (hschema : Text.isBlank r.schema = false)
    {defs : List ColumnDefinition} (hnames : (defs.map (·.name)).Nodup) :
    ∃ t, r.table? (definitionStatement defs) = some t
      ∧ t.columnNames = (defs.map (·.name)).filter fun name => ¬ EndsInKey name.toList := by
  have hkept : ((kept defs).map ColumnDefinition.column).map Named.name
      = (defs.map (·.name)).filter fun name => ¬ EndsInKey name.toList := by
    rw [List.map_map, List.filter_map]
    rfl
  have hnodup : (((kept defs).map ColumnDefinition.column).map Named.name).Nodup := by
    rw [hkept]
    exact hnames.filter _
  refine ⟨_, table?_definitionStatement hschema defs, ?_⟩
  rw [Table.columnNames, Catalog.names, Catalog.toList_insertAll Catalog.empty hnodup,
    Catalog.toList_empty, List.nil_append, hkept]

/-- A table of parts: of three definitions, the one in the middle is taken for a key. -/
theorem Reader.columnNames_definitionStatement_parts :
    let r : Reader := ⟨"shop", "sales"⟩
    let defs : List ColumnDefinition := [⟨"id", "int", none, by decide, by decide, by decide⟩,
      ⟨"Api_Key", "varchar", some ['3', '0'], by decide, by decide, by decide⟩,
      ⟨"keys", "double", none, by decide, by decide, by decide⟩]
    Text.isBlank r.schema = false ∧ (defs.map (·.name)).Nodup
      ∧ ∃ t, r.table? (definitionStatement defs) = some t ∧ t.columnNames = ["id", "keys"] := by
  intro r defs
  have hschema : Text.isBlank r.schema = false := by decide
  have hnames : (defs.map (·.name)).Nodup := by decide
  obtain ⟨t, ht, hcolumns⟩ := r.columnNames_definitionStatement hschema hnames
  have hkept : (defs.map (·.name)).filter (fun name => ¬ EndsInKey name.toList)
      = ["id", "keys"] := by decide +kernel
  exact ⟨hschema, hnames, t, ht, hcolumns.trans hkept⟩

/-- The only column of a table is lost, as its name ends in the word of a key. -/
theorem Reader.definitionStatement_without_column :
    ((Reader.mk "shop" "sales").table? "create table t (api_key int)".toList).map Table.columnNames
      ≠ some ["api_key"] := by
  decide +kernel

/-! ## Options behind the type -/

/-- Options that are not blank are not blank without brackets. -/
theorem trim_quoteBrackets_ne_nil {options : List Char}
    (h : ∃ c ∈ options, Text.isWhite c = false) : Text.trim (quoteBrackets options) ≠ [] := by
  intro hnil
  obtain ⟨front, back, hsplit, hfront, hback, -, -⟩ := Text.exists_trim (quoteBrackets options)
  rw [hnil, List.append_nil] at hsplit
  have hwhite : ∀ c ∈ quoteBrackets options, Text.isWhite c = true := by
    rw [hsplit]
    exact fun c hc => (List.mem_append.1 hc).elim (hfront c) (hback c)
  obtain ⟨c, hc, hnot⟩ := h
  have hquoted := hwhite _ (List.mem_map_of_mem hc)
  split at hquoted
  · cases hquoted
  · rw [hnot] at hquoted
    cases hquoted

/-- Options that are a field of their own are, without brackets, something that can be read behind a
type, and white space. -/
theorem exists_quoteBrackets_eq {options : List Char} (hfield : IsField options)
    (hsome : ∃ c ∈ options, Text.isWhite c = false) (hkey : isKeyField options = false) :
    ∃ used back, quoteBrackets options = used ++ back ∧ (∀ c ∈ back, Text.isWhite c = true)
      ∧ IsField used ∧ isKeyField used = false
      ∧ ∃ c, used.getLast? = some c ∧ Text.isWhite c = false := by
  obtain ⟨front, back, hsplit, -, hback, -, hend⟩ := Text.exists_trim (quoteBrackets options)
  refine ⟨_, back, hsplit, hback, ?_, ?_, ?_⟩
  · have hall : IsField (front ++ Text.trim (quoteBrackets options) ++ back) :=
      hsplit ▸ isField_quoteBrackets.2 hfield
    exact hall.of_append_white hback
  · rw [← Bool.not_eq_true]
    intro h
    have hall := isKeyField_append h back
    rw [← hsplit, isKeyField_quoteBrackets, hkey] at hall
    cases hall
  · obtain ⟨c, hc⟩ : ∃ c, (Text.trim (quoteBrackets options)).getLast? = some c :=
      Option.ne_none_iff_exists'.1 fun hnone =>
        trim_quoteBrackets_ne_nil hsome (List.getLast?_eq_none_iff.1 hnone)
    exact ⟨c, by rw [List.getLast?_append, hc]; rfl, hend c hc⟩

/-- A definition with options is read as a column with what the type reaches to, unless the name or
the type ends in the word of a key. -/
theorem ColumnDefinition.columns_text_append (d : ColumnDefinition) {options : List Char}
    (hfield : IsField options) (hsome : ∃ c ∈ options, Text.isWhite c = false)
    (hkey : isKeyField options = false) :
    columns (quoteBrackets (d.text ++ ' ' :: options))
      = if EndsInKey d.name.toList ∨ EndsInKey d.type then []
        else [⟨d.name, translate (typeWord (d.type ++ ' ' :: quoteBrackets options))⟩] := by
  obtain ⟨used, back, hsplit, hback, hused, hkeyUsed, c, hend, hc⟩ :=
    exists_quoteBrackets_eq hfield hsome hkey
  -- The white space at the end of the options is trimmed away.
  have htext : quoteBrackets (d.text ++ ' ' :: options)
      = [] ++ (d.name.toList ++ ' ' :: (d.type ++ ' ' :: used)) ++ back := by
    rw [quoteBrackets_append, d.quoteBrackets_text, quoteBrackets_cons (by decide) (by decide),
      hsplit, text]
    simp
  have htype : IsField (d.type ++ ' ' :: used) := d.isField_type.append hused.blank_cons
  have hwhole : IsField (d.name.toList ++ ' ' :: (d.type ++ ' ' :: used)) :=
    (isField_of_isPlain d.name_plain).append htype.blank_cons
  have hfirst : ∃ e es, d.type ++ ' ' :: used = e :: es ∧ Text.isWhite e = false := by
    obtain ⟨e, es, hcons, he⟩ := d.exists_type_eq
    exact ⟨e, es ++ ' ' :: used, by rw [hcons, List.cons_append], he⟩
  have hlast : ∀ e ∈ (d.type ++ ' ' :: used).getLast?, Text.isWhite e = false := by
    rw [List.getLast?_append, ← List.singleton_append, List.getLast?_append, hend]
    simpa using hc
  have hkeyType : isKeyField (d.type ++ ' ' :: used) = true ↔ EndsInKey d.type := by
    rw [isKeyField_append_blank, isKeyField_of_not_mem d.blank_not_mem_type, hkeyUsed]
    simp
  have hword : typeWord (d.type ++ ' ' :: quoteBrackets options)
      = typeWord (d.type ++ ' ' :: used) := by
    have hclose : ')' ∉ back := fun hmem => Text.ne_of_isWhite (hback _ hmem) (by decide) rfl
    have hblank : ' ' ∈ d.type ++ ' ' :: used := by simp
    rw [hsplit, ← typeWord_append_of_mem hblank hclose, List.append_assoc, List.cons_append]
  have hnone : ∀ e ∈ ([] : List Char), Text.isWhite e = true := by simp
  rw [htext, hwhole.columns_padded hnone hback, hword,
    columns_named d.name_plain htype hfirst hlast]
  simp only [hkeyType]

/-- With another column of the same name among those that are added to a table without columns, the
names stay, and every look-up has the same result or that column. -/
theorem exists_addColumns_replace {t : Table} (hnone : t.columns = .empty)
    (front back : List Column) {x y : Column} (h : y.name = x.name) :
    ∃ columns : Catalog Column,
      t.addColumns (front ++ [y] ++ back) = { t.addColumns (front ++ [x] ++ back) with columns }
        ∧ columns.names = (t.addColumns (front ++ [x] ++ back)).columnNames
        ∧ ∀ key, columns.get? key = (t.addColumns (front ++ [x] ++ back)).columns.get? key
          ∨ key = y.name ∧ columns.get? key = some y := by
  have hnames : (t.columns.insertAll (front ++ [y] ++ back)).names
      = (t.columns.insertAll (front ++ [x] ++ back)).names := by
    rw [hnone, Catalog.names_insertAll_empty, Catalog.names_insertAll_empty]
    simp [Named.name, h]
  refine ⟨t.columns.insertAll (front ++ [y] ++ back), rfl, hnames, fun key => ?_⟩
  have hreplace := t.columns.get?_insertAll_replace front back h key
  rwa [List.append_cons, List.append_cons front x] at hreplace

/-- **Options leave the table as it is without them**, if the type has a number in parentheses or
the options have no closing parenthesis. If not, no more than the type of the column changes: it
reaches into the options up to the first one. A type that ends in the word of a key makes a key of a
field with options, which is passed over. -/
theorem Reader.table?_options (r : Reader) (p : Place) (d : ColumnDefinition) {options : List Char}
    (hfield : IsField options) (hsome : ∃ c ∈ options, Text.isWhite c = false)
    (hkey : isKeyField options = false) :
    (EndsInKey d.type → r.table? (p.filled (d.text ++ ' ' :: options)) = r.table? p.bare)
      ∧ (¬ EndsInKey d.type → d.digits ≠ none ∨ ')' ∉ options →
        r.table? (p.filled (d.text ++ ' ' :: options)) = r.table? (p.filled d.text))
      ∧ (¬ EndsInKey d.type → d.digits = none →
        ∀ front back, options = front ++ ')' :: back → ')' ∉ front →
        ∀ t, r.table? (p.filled d.text) = some t →
          ∃ columns : Catalog Column,
            r.table? (p.filled (d.text ++ ' ' :: options)) = some { t with columns }
              ∧ columns.names = t.columnNames
              ∧ ∀ key, columns.get? key = t.columns.get? key
                ∨ key = d.name ∧ columns.get? key = some ⟨d.name,
                    translate (d.type ++ ' ' :: quoteBrackets front ++ [')'])⟩) := by
  have hwith := r.table?_filled p (d.isField_text.append hfield.blank_cons)
  have hwithout := r.table?_filled p d.isField_text
  rw [d.columns_text_append hfield hsome hkey] at hwith
  rw [d.quoteBrackets_text, d.columns_text] at hwithout
  refine ⟨fun h => ?_, fun h hshort => ?_, fun h hdigits front back hsplit hfront t ht => ?_⟩
  · rw [hwith, if_pos (.inr h), List.append_nil, r.table?_bare]
  · have hword : typeWord (d.type ++ ' ' :: quoteBrackets options) = d.type := by
      by_cases hdigits : d.digits = none
      · have hclose : ')' ∉ options := hshort.resolve_left fun hne => hne hdigits
        exact d.typeWord_append_of_not_mem hdigits (not_mem_quoteBrackets (by decide) hclose)
      · exact d.typeWord_append_of_digits hdigits _
    rw [hwith, hwithout, hword]
    simp only [h, or_false]
    rfl
  · have hword : typeWord (d.type ++ ' ' :: quoteBrackets options)
        = d.type ++ ' ' :: quoteBrackets front ++ [')'] := by
      have hbefore : ')' ∉ d.type ++ ' ' :: quoteBrackets front := by
        rw [ColumnDefinition.type, hdigits]
        simp [d.close_not_mem_word, not_mem_quoteBrackets (by decide) hfront]
      rw [hsplit, quoteBrackets_append, quoteBrackets_cons (by decide) (by decide),
        ← List.cons_append, ← List.append_assoc, typeWord_append_close hbefore]
    rw [hwithout, Option.map_eq_some_iff] at ht
    obtain ⟨bare, hbare, rfl⟩ := ht
    rw [hwith, hword, hbare, Option.map_some]
    by_cases hname : EndsInKey d.name.toList
    · simp only [hname, true_or, if_true]
      exact ⟨_, rfl, rfl, fun key => .inl rfl⟩
    · simp only [hname, h, or_self, if_false]
      obtain ⟨columns, heq, hnames, hlookup⟩ := exists_addColumns_replace
        (columns_of_header? hbare) p.columnsBefore p.columnsAfter (x := d.column)
        (y := ⟨d.name, translate (d.type ++ ' ' :: quoteBrackets front ++ [')'])⟩) rfl
      exact ⟨columns, congrArg some heq, hnames, hlookup⟩

/-- The place of the only column of a table of days. -/
def dayPlace : Place := .last "create table days ".toList [] (by decide) (by simp)

/-- A day as a column of a given type. -/
def day (word : String) (h : IsPlain word) : ColumnDefinition :=
  ⟨"day", word, none, by decide, h, by simp⟩

/-- A day with options of each kind, and with a type that makes a key of it. -/
theorem Reader.table?_options_days :
    let r : Reader := ⟨"shop", "sales"⟩
    let date := day "date" (by decide)
    let monkey := day "monkey" (by decide)
    let plain := "NOT NULL DEFAULT '1'".toList
    let front := "CONSTRAINT c CHECK (day > 0".toList
    r.table? (dayPlace.filled (monkey.text ++ ' ' :: plain)) = r.table? dayPlace.bare
      ∧ r.table? (dayPlace.filled (date.text ++ ' ' :: plain))
        = r.table? (dayPlace.filled date.text)
      ∧ ∃ columns : Catalog Column, ∃ t, r.table? (dayPlace.filled date.text) = some t
        ∧ r.table? (dayPlace.filled (date.text ++ ' ' :: (front ++ [')'])))
          = some { t with columns }
        ∧ columns.names = t.columnNames := by
  intro r date monkey plain front
  have hfield : IsField plain := by decide
  have hsome : ∃ c ∈ plain, Text.isWhite c = false := ⟨'N', by decide, by decide⟩
  have hkey : isKeyField plain = false := by decide +kernel
  obtain ⟨hpassed, -, -⟩ := r.table?_options dayPlace monkey hfield hsome hkey
  obtain ⟨-, hsame, -⟩ := r.table?_options dayPlace date hfield hsome hkey
  obtain ⟨-, -, hlonger⟩ := r.table?_options dayPlace date
    (by decide : IsField (front ++ [')'])) ⟨'C', by decide, by decide⟩ (by decide +kernel)
  have hread : (r.table? (dayPlace.filled date.text)).isSome = true := by decide +kernel
  obtain ⟨t, ht⟩ := Option.isSome_iff_exists.1 hread
  have hnot : ¬ EndsInKey date.type := by decide +kernel
  obtain ⟨columns, heq, hnames, -⟩ := hlonger hnot rfl front [] rfl (by decide) t ht
  exact ⟨hpassed (by decide +kernel), hsame hnot (.inr (by decide)), columns, t, ht, heq, hnames⟩

/-- With a check behind it, the type of a day is not a date any more. -/
theorem Reader.table?_options_longer_type :
    (Reader.mk "shop" "sales").table?
        "create table days (day date CONSTRAINT c CHECK (day > 0))".toList
      ≠ (Reader.mk "shop" "sales").table? "create table days (day date)".toList := by
  decide +kernel

end Schemata.Ddl
