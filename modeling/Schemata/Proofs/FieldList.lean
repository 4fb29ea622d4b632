import Mathlib.Data.List.Basic
import Schemata.Ddl.Reader
import Schemata.Proofs.Nested

/-! # The list of fields in a statement

A statement has its fields between the first opening and the last closing parenthesis, with commas
between them. A text is a field of its own when no comma in it is outside parentheses and no
parenthesis stays open behind it. Such fields are read one by one: what one of them declares does
not depend on the others, and its columns stand where the field stands in the list. -/

namespace Schemata.Ddl

/-! ## Fields of their own -/

/-- The depth of parentheses behind a text that starts at a given depth, if no comma of it is
outside parentheses. -/
def depthBehind? (depth : Nat) : List Char → Option Nat
  | [] => some depth
  | c :: rest =>
      if c = ',' ∧ depth = 0 then none else depthBehind? (depthAfter depth c) rest

/-- Whether a text is a field of its own: no comma of it is outside parentheses, and none of its
parentheses stays open. -/
def IsField (cs : List Char) : Prop := depthBehind? 0 cs = some 0

instance (cs : List Char) : Decidable (IsField cs) :=
  inferInstanceAs (Decidable (depthBehind? 0 cs = some 0))

/-- Of a text in two parts, the second starts at the depth behind the first. -/
theorem depthBehind?_append (depth : Nat) (xs ys : List Char) :
    depthBehind? depth (xs ++ ys)
      = (depthBehind? depth xs).bind fun depth => depthBehind? depth ys := by
  induction xs generalizing depth with
  | nil => rfl
  | cons x xs ih =>
      rw [List.cons_append, depthBehind?, depthBehind?]
      split
      · rfl
      · exact ih (depthAfter depth x)

/-- A text without parentheses leaves the depth, if it has no commas either or stands inside
parentheses. -/
theorem depthBehind?_of_forall {depth : Nat} {cs : List Char}
    (h : ∀ c ∈ cs, c ≠ '(' ∧ c ≠ ')' ∧ (c = ',' → 0 < depth)) :
    depthBehind? depth cs = some depth := by
  induction cs with
  | nil => rfl
  | cons c cs ih =>
      obtain ⟨hopen, hclose, hcomma⟩ := h c List.mem_cons_self
      have hdepth : depthAfter depth c = depth := by simp [depthAfter, hopen, hclose]
      have hinside : ¬ (c = ',' ∧ depth = 0) := fun he => absurd (hcomma he.1) (by omega)
      rw [depthBehind?, if_neg hinside, hdepth, ih fun d hd => h d (List.mem_cons_of_mem _ hd)]

/-- A list in parentheses, with none inside it, leaves the depth. -/
theorem depthBehind?_paren {cs : List Char} (h : ∀ c ∈ cs, c ≠ '(' ∧ c ≠ ')') (depth : Nat) :
    depthBehind? depth ('(' :: cs ++ [')']) = some depth := by
  have hinside : depthBehind? (depth + 1) cs = some (depth + 1) :=
    depthBehind?_of_forall fun c hc => ⟨(h c hc).1, (h c hc).2, fun _ => Nat.succ_pos depth⟩
  have hopen : depthBehind? depth ('(' :: cs ++ [')'])
      = depthBehind? (depth + 1) (cs ++ [')']) := by
    rw [List.cons_append, depthBehind?, if_neg (by simp)]
    rfl
  have hclose : depthBehind? (depth + 1) [')'] = some depth := by
    rw [depthBehind?, if_neg (by simp)]
    rfl
  rw [hopen, depthBehind?_append, hinside]
  exact hclose

/-- A text stays in front of the first piece of what follows it at the depth behind it. -/
theorem pieces_of_depthBehind? {depth behind : Nat} {cs : List Char}
    (h : depthBehind? depth cs = some behind) (rest : List Char) :
    pieces depth (cs ++ rest) = inFront cs (pieces behind rest) := by
  induction cs generalizing depth with
  | nil =>
      cases h
      exact (inFront_nil behind rest).symm
  | cons c cs ih =>
      rw [depthBehind?] at h
      split at h
      · cases h
      · rename_i hcomma
        rw [List.cons_append, pieces_cons hcomma, ih h, ← inFront_append]
        rfl

/-- A field of its own is told apart from what follows it behind a comma. -/
theorem IsField.pieces_append {field : List Char} (h : IsField field) (rest : List Char) :
    pieces 0 (field ++ ',' :: rest) = field :: pieces 0 rest := by
  rw [pieces_of_depthBehind? h, pieces, if_pos ⟨rfl, rfl⟩, inFront, List.append_nil]

/-- A field of its own is the only one of its text, unless it is blank. -/
theorem IsField.fields_eq {field : List Char} (h : IsField field) :
    fields field = [Text.trim field].filter fun field => !field.isEmpty := by
  have hpieces := pieces_of_depthBehind? h []
  rw [List.append_nil, pieces, inFront, List.append_nil] at hpieces
  rw [fields, hpieces, List.map_singleton]

/-! ## The fields of a list -/

/-- Fields with commas between them. -/
def listed (fields : List (List Char)) : List Char := [','].intercalate fields

/-- Two or more fields have a comma behind the first. -/
theorem listed_cons_cons (first second : List Char) (rest : List (List Char)) :
    listed (first :: second :: rest) = first ++ ',' :: listed (second :: rest) := by
  simp [listed, List.intercalate_cons_cons]

/-- What a field of its own holds is read before the rest of the list. -/
theorem IsField.fields_listed_cons {field : List Char} (h : IsField field)
    (rest : List (List Char)) :
    fields (listed (field :: rest)) = fields field ++ fields (listed rest) := by
  cases rest with
  | nil => simp [listed, fields, pieces]
  | cons second rest =>
      rw [listed_cons_cons, h.fields_eq, fields, h.pieces_append, List.map_cons,
        ← List.singleton_append, List.filter_append]
      rfl

/-- The columns of a list: those of a first field of its own, and those behind it. -/
theorem IsField.columns_listed_cons {field : List Char} (h : IsField field)
    (rest : List (List Char)) :
    columns (listed (field :: rest)) = columns field ++ columns (listed rest) := by
  rw [columns, h.fields_listed_cons, List.filter_append, List.filterMap_append]
  rfl

/-- The columns of a list: those of a part of it that are fields of their own, and those behind
it. -/
theorem columns_listed_append {before : List (List Char)} (h : ∀ field ∈ before, IsField field)
    (after : List (List Char)) :
    columns (listed (before ++ after)) = columns (listed before) ++ columns (listed after) := by
  induction before with
  | nil => simp [listed, columns, fields, pieces]
  | cons field before ih =>
      obtain ⟨hfield, hbefore⟩ := List.forall_mem_cons.1 h
      rw [List.cons_append, hfield.columns_listed_cons, hfield.columns_listed_cons, ih hbefore,
        List.append_assoc]

/-! ## White space and brackets -/

/-- White space has neither parentheses nor commas. -/
theorem depthBehind?_of_isWhite {cs : List Char} (h : ∀ c ∈ cs, Text.isWhite c = true)
    (depth : Nat) : depthBehind? depth cs = some depth :=
  depthBehind?_of_forall fun c hc => ⟨Text.ne_of_isWhite (h c hc) (by decide),
    Text.ne_of_isWhite (h c hc) (by decide),
    fun he => absurd he (Text.ne_of_isWhite (h c hc) (by decide))⟩

/-- White space is a field of its own. -/
theorem isField_of_isWhite {cs : List Char} (h : ∀ c ∈ cs, Text.isWhite c = true) : IsField cs :=
  depthBehind?_of_isWhite h 0

/-- White space has no brackets. -/
theorem quoteBrackets_of_isWhite {cs : List Char} (h : ∀ c ∈ cs, Text.isWhite c = true) :
    quoteBrackets cs = cs :=
  quoteBrackets_of_forall fun c hc => ⟨Text.ne_of_isWhite (h c hc) (by decide),
    Text.ne_of_isWhite (h c hc) (by decide)⟩

/-- Fields of their own make a field. -/
theorem IsField.append {xs ys : List Char} (hx : IsField xs) (hy : IsField ys) :
    IsField (xs ++ ys) := by
  rw [IsField, depthBehind?_append, hx]
  exact hy

/-- A blank before a field of its own is part of it. -/
theorem IsField.blank_cons {cs : List Char} (h : IsField cs) : IsField (' ' :: cs) :=
  (isField_of_isWhite (by decide : ∀ c ∈ [' '], Text.isWhite c = true)).append h

/-- Whether a text is a field of its own does not depend on its brackets. -/
theorem isField_quoteBrackets {cs : List Char} : IsField (quoteBrackets cs) ↔ IsField cs := by
  have hdepth : ∀ depth, depthBehind? depth (quoteBrackets cs) = depthBehind? depth cs := by
    induction cs with
    | nil => intro depth; rfl
    | cons c cs ih =>
        intro depth
        by_cases hc : c = '[' ∨ c = ']'
        · have hquote : quoteBrackets (c :: cs) = '"' :: quoteBrackets cs := by
            rw [quoteBrackets, List.map_cons, if_pos hc]
            rfl
          rcases hc with rfl | rfl <;> simp [hquote, depthBehind?, depthAfter, ih]
        · rw [not_or] at hc
          rw [quoteBrackets_cons hc.1 hc.2, depthBehind?, depthBehind?, ih]
  rw [IsField, IsField, hdepth]

/-- Brackets are replaced field by field. -/
theorem quoteBrackets_intercalate (between : List Char) (fields : List (List Char)) :
    quoteBrackets (between.intercalate fields)
      = (quoteBrackets between).intercalate (fields.map quoteBrackets) := by
  induction fields with
  | nil => rfl
  | cons first rest ih =>
      cases rest with
      | nil => simp
      | cons second rest =>
          rw [List.map_cons, List.map_cons, List.intercalate_cons_cons, List.intercalate_cons_cons,
            ← List.map_cons, ← ih, quoteBrackets_append, quoteBrackets_append]

/-- White space around a field of its own does not matter. -/
theorem IsField.columns_padded {front cs back : List Char} (h : IsField cs)
    (hfront : ∀ c ∈ front, Text.isWhite c = true) (hback : ∀ c ∈ back, Text.isWhite c = true) :
    columns (front ++ cs ++ back) = columns cs := by
  have hpadded : IsField (front ++ cs ++ back) :=
    ((isField_of_isWhite hfront).append h).append (isField_of_isWhite hback)
  rw [columns, columns, hpadded.fields_eq, h.fields_eq, Text.trim_padded hfront hback]

/-- A field of its own is one without the white space at its end. -/
theorem IsField.of_append_white {cs back : List Char} (h : IsField (cs ++ back))
    (hback : ∀ c ∈ back, Text.isWhite c = true) : IsField cs := by
  rw [IsField, depthBehind?_append, Option.bind_eq_some_iff] at h
  obtain ⟨depth, hcs, hdepth⟩ := h
  rw [depthBehind?_of_isWhite hback] at hdepth
  cases hdepth
  exact hcs

/-- White space before a list does not matter. -/
theorem fields_white_cons {c : Char} (h : Text.isWhite c = true) (cs : List Char) :
    fields (c :: cs) = fields cs := by
  have hone : ∀ d ∈ [c], Text.isWhite d = true := by simpa using h
  have hnone : ∀ d ∈ ([] : List Char), Text.isWhite d = true := by simp
  have hpieces : pieces 0 (c :: cs) = inFront [c] (pieces 0 cs) :=
    pieces_of_depthBehind? (isField_of_isWhite hone) cs
  rw [fields, fields, hpieces]
  cases hcs : pieces 0 cs with
  | nil => exact absurd hcs (pieces_ne_nil 0 cs)
  | cons piece more =>
      have htrim := Text.trim_padded hone hnone piece
      rw [List.append_nil] at htrim
      rw [inFront, List.map_cons, List.map_cons, htrim]

/-- Fields with a comma and a blank between them. -/
def spaced (fields : List (List Char)) : List Char := [',', ' '].intercalate fields

/-- The columns of fields of their own with commas and blanks between them are those of the fields,
one after the other. -/
theorem columns_spaced {fields : List (List Char)} (h : ∀ field ∈ fields, IsField field) :
    columns (spaced fields) = fields.flatMap columns := by
  induction fields with
  | nil => simp [spaced, columns, Ddl.fields, pieces]
  | cons first rest ih =>
      obtain ⟨hfirst, hrest⟩ := List.forall_mem_cons.1 h
      cases rest with
      | nil => simp [spaced]
      | cons second rest =>
          have htext : spaced (first :: second :: rest)
              = listed [first, ' ' :: spaced (second :: rest)] := by
            simp [spaced, listed, List.intercalate_cons_cons]
          have hblank : columns (listed [' ' :: spaced (second :: rest)])
              = columns (spaced (second :: rest)) := by
            rw [listed, List.intercalate_singleton, columns, fields_white_cons (by decide), columns]
          rw [htext, hfirst.columns_listed_cons, hblank, List.flatMap_cons, ih hrest]

/-- What a field of its own without white space at its ends declares: its column, if it does not
count as a key and if the column has a name. -/
theorem IsField.columns_eq {cs : List Char} (h : IsField cs) (hne : cs ≠ [])
    (hfirst : ∀ c ∈ cs.head?, Text.isWhite c = false)
    (hlast : ∀ c ∈ cs.getLast?, Text.isWhite c = false) :
    columns cs = if isKeyField cs then [] else (column? cs).toList := by
  have hnone : ∀ c ∈ ([] : List Char), Text.isWhite c = true := by simp
  have htrim := Text.trim_append hnone hnone hfirst hlast
  rw [List.nil_append, List.append_nil] at htrim
  rw [columns, h.fields_eq, htrim]
  cases hkey : isKeyField cs <;> cases hcolumn : column? cs <;> simp [hne, hkey, hcolumn]

/-! ## The place of a field in a statement -/

/-- A statement with a list of fields between words and a rest. -/
def creation (words : List Char) (fields : List (List Char)) (rest : List Char) : List Char :=
  words ++ '(' :: (listed fields ++ ')' :: rest)

/-- A statement that ends with its list. -/
theorem creation_singleton (words body : List Char) :
    creation words [body] [] = words ++ ['('] ++ body ++ [')'] := by
  simp [creation, listed]

/-- The table that the words before the list name, without columns. -/
def Reader.header? (r : Reader) (words : List Char) : Option Table := do
  let name ← tableName? words
  (Table.inSchema (String.ofList name) r.schema).toOption

/-- Words that name a table make one without columns, if the schema has a name. -/
theorem Reader.header?_eq {r : Reader} (hschema : Text.isBlank r.schema = false)
    {words name : List Char} (hwords : tableName? words = some name)
    (hname : Text.isBlank (String.ofList name) = false) : r.header? words
      = some ⟨String.ofList name, r.schema, [], none, .empty, .empty, .empty⟩ := by
  have hmade := (Table.inSchema_eq_ok_iff _ _ _).2 ⟨hname, hschema, rfl⟩
  rw [header?, hwords]
  show (Table.inSchema (String.ofList name) r.schema).toOption = _
  rw [hmade]
  rfl

/-- A table without columns is all that the words name. -/
theorem Reader.columns_of_header? {r : Reader} {words : List Char} {t : Table}
    (h : r.header? words = some t) : t.columns = .empty := by
  simp only [header?, Option.bind_eq_bind, Option.bind_eq_some_iff] at h
  obtain ⟨name, -, hmade⟩ := h
  cases hin : Table.inSchema (String.ofList name) r.schema with
  | error e =>
      rw [hin] at hmade
      cases hmade
  | ok made =>
      rw [hin] at hmade
      cases hmade
      obtain ⟨-, -, rfl⟩ := (Table.inSchema_eq_ok_iff _ _ _).1 hin
      rfl

/-- A statement with a list of fields is read as the table that its words name, with the columns of
the list. -/
theorem Reader.table?_creation (r : Reader) {words rest : List Char} (hwords : '(' ∉ words)
    (hrest : ')' ∉ rest) (fields : List (List Char)) :
    r.table? (creation words fields rest) = (r.header? (quoteBrackets words)).map
      fun t => t.addColumns (columns (listed (fields.map quoteBrackets))) := by
  have hopen : ∀ c ∈ quoteBrackets words, (c == '(') = false :=
    Text.forall_beq_iff.2 (not_mem_quoteBrackets (by decide) hwords)
  have hclose : ∀ c ∈ quoteBrackets rest, (c == ')') = false :=
    Text.forall_beq_iff.2 (not_mem_quoteBrackets (by decide) hrest)
  have hquoted : quoteBrackets (creation words fields rest) = quoteBrackets words
      ++ '(' :: (listed (fields.map quoteBrackets) ++ ')' :: quoteBrackets rest) := by
    rw [creation, quoteBrackets_append, quoteBrackets_cons (by decide) (by decide),
      quoteBrackets_append, quoteBrackets_cons (by decide) (by decide), listed,
      quoteBrackets_intercalate]
    rfl
  have hbody : Text.beforeLast? (· == ')')
      (listed (fields.map quoteBrackets) ++ ')' :: quoteBrackets rest)
        = some (listed (fields.map quoteBrackets)) := Text.beforeLast?_append (by decide) hclose _
  rw [table?, hquoted, Text.cutAt?_append hopen (by decide), header?]
  cases hname : tableName? (quoteBrackets words) with
  | none => simp [hname]
  | some name =>
      cases hmade : (Table.inSchema (String.ofList name) r.schema).toOption with
      | none => simp [hname, hmade]
      | some t => simp [hname, hmade, hbody]

/-- A place for a field among the fields of a statement. -/
structure Place where
  /-- The words before the list of fields. -/
  words : List Char
  /-- The fields before the place. -/
  before : List (List Char)
  /-- The white space before the field. -/
  lead : List Char
  /-- The white space behind the field. -/
  trail : List Char
  /-- The fields behind the place. -/
  after : List (List Char)
  /-- What follows the list of fields. -/
  rest : List Char
  /-- The list starts at the first opening parenthesis. -/
  words_open : '(' ∉ words
  /-- The place is between two fields. -/
  before_field : ∀ field ∈ before, IsField field
  /-- There is only white space before the field. -/
  lead_white : ∀ c ∈ lead, Text.isWhite c = true
  /-- There is only white space behind the field. -/
  trail_white : ∀ c ∈ trail, Text.isWhite c = true
  /-- The list ends at the last closing parenthesis. -/
  rest_closed : ')' ∉ rest

namespace Place

/-- The place behind the last field, a blank away from the comma, in a statement that ends with its
list of fields. -/
def last (words : List Char) (before : List (List Char)) (words_open : '(' ∉ words)
    (before_field : ∀ field ∈ before, IsField field) : Place where
  words := words
  before := before
  lead := [' ']
  trail := []
  after := []
  rest := []
  words_open := words_open
  before_field := before_field
  lead_white := by decide
  trail_white := by decide
  rest_closed := by decide

/-- The statement with a field in the place. -/
def filled (p : Place) (field : List Char) : List Char :=
  creation p.words (p.before ++ (p.lead ++ field ++ p.trail) :: p.after) p.rest

/-- The statement without a field in the place. -/
def bare (p : Place) : List Char := creation p.words (p.before ++ p.after) p.rest

/-- The fields before the place are fields of their own without brackets, too. -/
theorem isField_before (p : Place) : ∀ field ∈ p.before.map quoteBrackets, IsField field := by
  intro field hfield
  obtain ⟨f, hf, rfl⟩ := List.mem_map.1 hfield
  exact isField_quoteBrackets.2 (p.before_field f hf)

/-- The columns of the fields before the place. -/
def columnsBefore (p : Place) : List Column := columns (listed (p.before.map quoteBrackets))

/-- The columns of the fields behind the place. -/
def columnsAfter (p : Place) : List Column := columns (listed (p.after.map quoteBrackets))

end Place

namespace Reader

variable (r : Reader) (p : Place)

/-- Without a field in the place, the columns are those before and behind it. -/
theorem table?_bare : r.table? p.bare = (r.header? (quoteBrackets p.words)).map
    fun t => t.addColumns (p.columnsBefore ++ p.columnsAfter) := by
  rw [Place.bare, r.table?_creation p.words_open p.rest_closed, List.map_append,
    columns_listed_append p.isField_before]
  rfl

/-- The columns of a field in the place stand between those before and behind it. -/
theorem table?_filled {field : List Char} (h : IsField field) :
    r.table? (p.filled field) = (r.header? (quoteBrackets p.words)).map fun t =>
      t.addColumns (p.columnsBefore ++ columns (quoteBrackets field) ++ p.columnsAfter) := by
  have hquoted : IsField (quoteBrackets field) := isField_quoteBrackets.2 h
  have hlead : quoteBrackets p.lead = p.lead := quoteBrackets_of_isWhite p.lead_white
  have htrail : quoteBrackets p.trail = p.trail := quoteBrackets_of_isWhite p.trail_white
  have hfield : columns (quoteBrackets (p.lead ++ field ++ p.trail))
      = columns (quoteBrackets field) := by
    rw [quoteBrackets_append, quoteBrackets_append, hlead, htrail,
      hquoted.columns_padded p.lead_white p.trail_white]
  have hpadded : IsField (quoteBrackets (p.lead ++ field ++ p.trail)) :=
    isField_quoteBrackets.2 (((isField_of_isWhite p.lead_white).append h).append
      (isField_of_isWhite p.trail_white))
  rw [Place.filled, r.table?_creation p.words_open p.rest_closed, List.map_append, List.map_cons,
    columns_listed_append p.isField_before, hpadded.columns_listed_cons, hfield, List.append_assoc]
  rfl

end Reader

end Schemata.Ddl
