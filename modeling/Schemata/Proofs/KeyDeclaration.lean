import Schemata.Proofs.FieldList
import Schemata.Proofs.KeyFields
import Schemata.Proofs.ReaderShape

/-! # Declarations of keys among the fields

The fields of a statement declare columns and keys. A declaration of a key, in whatever letter case
its words are written, leaves the table as it is without it, as long as it counts as a key: a blank
between the word `key` and its columns sees to that. Without such a blank, and if no name in it ends
in that word either, the declaration becomes a column with its first word for a name. -/

namespace Schemata.Ddl

/-! ## Words in any letter case -/

/-- The letters that the words of a declaration are made of. -/
def letters : List Char := "abcdefghijklmnopqrstuvwxyz".toList

/-- The letters in both cases. -/
def bothCases : List Char := letters ++ "ABCDEFGHIJKLMNOPQRSTUVWXYZ".toList

/-- The letters are ASCII. -/
theorem letters_ascii : ∀ c ∈ letters, c.toNat < 0x80 := by decide

/-- A character with one of the letters for its lower case is a letter. -/
theorem mem_bothCases_of_toLower {c : Char} (h : c.toLower ∈ letters) : c ∈ bothCases := by
  have hcases := Text.forall_ascii (fun c => c.toLower ∈ letters → c ∈ bothCases)
    (by decide +kernel) (Text.ascii_of_toLower (letters_ascii _ h))
  exact hcases h

/-- The words that a declaration of a key is written with. -/
inductive Keyword where
  /-- Before the name of a constraint. -/
  | constraint
  /-- The kind of a primary key. -/
  | primary
  /-- The kind of a foreign key. -/
  | foreign
  /-- The kind of a unique key. -/
  | unique
  /-- Behind the kind. -/
  | key
  /-- Before the table that a key refers to. -/
  | references
  deriving DecidableEq, Repr

/-- The word in lower case. -/
def Keyword.word : Keyword → List Char
  | .constraint => "constraint".toList
  | .primary => "primary".toList
  | .foreign => "foreign".toList
  | .unique => "unique".toList
  | .key => "key".toList
  | .references => "references".toList

/-- The words have letters, and nothing else. -/
theorem Keyword.word_letters (k : Keyword) : k.word ≠ [] ∧ ∀ c ∈ k.word, c ∈ letters := by
  cases k <;> decide

/-- A word as it is written, in any letter case. -/
structure Spelling (k : Keyword) where
  /-- The characters that are written. -/
  text : List Char
  /-- In lower case they are the word. -/
  map_text : text.map Char.toLower = k.word

namespace Spelling

variable {k : Keyword} (s : Spelling k)

/-- A word is written with letters. -/
theorem mem_bothCases {c : Char} (h : c ∈ s.text) : c ∈ bothCases := by
  refine mem_bothCases_of_toLower (k.word_letters.2 _ ?_)
  rw [← s.map_text]
  exact List.mem_map_of_mem h

/-- Something is written. -/
theorem exists_cons : ∃ c cs, s.text = c :: cs ∧ c ∈ bothCases := by
  have hne : s.text ≠ [] := by
    intro hnil
    have hword := s.map_text
    rw [hnil] at hword
    exact k.word_letters.1 hword.symm
  obtain ⟨c, cs, hcs⟩ := List.exists_cons_of_ne_nil hne
  exact ⟨c, cs, hcs, s.mem_bothCases (hcs ▸ List.mem_cons_self)⟩

/-- The lower case of what is written is the word. -/
theorem lower_text : Text.lower s.text = k.word :=
  Text.lower_of_map_toLower s.map_text fun c hc => letters_ascii c (k.word_letters.2 c hc)

/-- A written word has no blanks, parentheses, commas and brackets. -/
theorem ne_of_mem {c d : Char} (h : c ∈ s.text) (hd : d ∉ bothCases) : c ≠ d := by
  rintro rfl
  exact hd (s.mem_bothCases h)

/-- A written word is a field of its own. -/
theorem isField : IsField s.text :=
  depthBehind?_of_forall fun _ hc => ⟨s.ne_of_mem hc (by decide), s.ne_of_mem hc (by decide),
    fun he => absurd he (s.ne_of_mem hc (by decide))⟩

end Spelling

/-! ## Declarations -/

/-- Whether a text is plain inside a declaration: no parentheses and no commas. -/
def IsLabel (cs : List Char) : Prop := ∀ c ∈ cs, c ≠ '(' ∧ c ≠ ')' ∧ c ≠ ','

/-- A label is a field of its own. -/
theorem IsLabel.isField {cs : List Char} (h : IsLabel cs) : IsField cs :=
  depthBehind?_of_forall fun c hc => ⟨(h c hc).1, (h c hc).2.1, fun he => absurd he (h c hc).2.2⟩

/-- A list of columns in parentheses. -/
structure KeyList where
  /-- What stands between the parentheses. -/
  inner : List Char
  /-- There are no parentheses inside. -/
  inner_flat : ∀ c ∈ inner, c ≠ '(' ∧ c ≠ ')'

/-- The text of a list of columns. -/
def KeyList.text (l : KeyList) : List Char := '(' :: l.inner ++ [')']

/-- The word `constraint` and the name of the constraint. -/
structure ConstraintName where
  /-- The word. -/
  word : Spelling .constraint
  /-- The name. -/
  name : List Char
  /-- The name has neither parentheses nor commas. -/
  name_label : IsLabel name

/-- The word `references` with the table and the columns that a key refers to. -/
structure Target where
  /-- The word. -/
  word : Spelling .references
  /-- The table, with what blanks stand behind it. -/
  table : List Char
  /-- The columns. -/
  columns : KeyList
  /-- The table has neither parentheses nor commas in its name. -/
  table_label : IsLabel table

/-- A declaration of a key, as it is written. -/
structure KeyDeclaration where
  /-- The name of the constraint, if it has one. -/
  constraint : Option ConstraintName
  /-- The kind of the key. -/
  kind : Keyword
  /-- The word of the kind. -/
  kindWord : Spelling kind
  /-- The word `key`. -/
  keyWord : Spelling .key
  /-- The number of blanks between the word and the columns. -/
  gap : Nat
  /-- The columns. -/
  columns : KeyList
  /-- What the key refers to, if anything. -/
  target : Option Target
  /-- The key is a primary, a foreign or a unique one. -/
  kind_mem : kind ∈ [Keyword.primary, .foreign, .unique]

namespace KeyDeclaration

variable (d : KeyDeclaration)

/-- What stands before the kind of the key. -/
def label : List Char :=
  match d.constraint with
  | some c => c.word.text ++ ' ' :: c.name ++ [' ']
  | none => []

/-- What stands behind the columns of the key. -/
def reference : List Char :=
  match d.target with
  | some t => ' ' :: t.word.text ++ ' ' :: t.table ++ t.columns.text
  | none => []

/-- The declaration up to the word `key`. -/
def words : List Char := d.label ++ d.kindWord.text ++ ' ' :: d.keyWord.text

/-- The text of a declaration. -/
def text : List Char :=
  d.words ++ List.replicate d.gap ' ' ++ (d.columns.text ++ d.reference)

/-- The word that a declaration starts with. -/
def firstWord : List Char :=
  match d.constraint with
  | some c => c.word.text
  | none => d.kindWord.text

/-! ## Counting as a key -/

/-- A declaration is a field of its own. -/
theorem isField_text : IsField d.text := by
  have hlist : ∀ l : KeyList, IsField l.text := fun l => depthBehind?_paren l.inner_flat 0
  have hlabel : IsField d.label := by
    unfold label
    split
    · rename_i c _
      exact (c.word.isField.append c.name_label.isField.blank_cons).append (by decide)
    · decide
  have hreference : IsField d.reference := by
    unfold reference
    split
    · rename_i t _
      exact (t.word.isField.blank_cons.append t.table_label.isField.blank_cons).append
        (hlist t.columns)
    · decide
  have hgap : IsField (List.replicate d.gap ' ') :=
    isField_of_isWhite fun c hc => by rw [List.eq_of_mem_replicate hc]; decide
  have hwords : IsField d.words :=
    (hlabel.append d.kindWord.isField).append d.keyWord.isField.blank_cons
  exact (hwords.append hgap).append ((hlist d.columns).append hreference)

/-- Up to the word, a declaration ends in it. -/
theorem endsInKey_words : EndsInKey d.words := by
  rw [words, endsInKey_append Text.separates_blank (by decide), EndsInKey, d.keyWord.lower_text]
  exact List.suffix_rfl

/-- With a blank between the word and the columns, a declaration counts as a key. -/
theorem isKeyField_of_gap (h : 0 < d.gap) : isKeyField d.text = true := by
  obtain ⟨gap, hgap⟩ := Nat.exists_eq_succ_of_ne_zero (Nat.pos_iff_ne_zero.1 h)
  refine (isKeyField_iff _).2 ⟨d.words, List.replicate gap ' ' ++ (d.columns.text ++ d.reference),
    ?_, d.endsInKey_words⟩
  rw [text, hgap, List.replicate_succ, List.append_assoc, List.cons_append]

/-! ## Reading a declaration as a column -/

/-- A declaration is its first word, and something behind a blank. -/
theorem exists_text_eq : ∃ more, d.text = d.firstWord ++ ' ' :: more := by
  unfold text words label firstWord
  cases d.constraint with
  | some c => exact ⟨_, by simp only [List.append_assoc, List.cons_append]; rfl⟩
  | none => exact ⟨_, by simp only [List.nil_append, List.append_assoc, List.cons_append]; rfl⟩

/-- A declaration ends in a closing parenthesis. -/
theorem getLast?_text : d.text.getLast? = some ')' := by
  have hlist : ∀ (front : List Char) (l : KeyList), (front ++ l.text).getLast? = some ')' := by
    intro front l
    rw [KeyList.text, ← List.append_assoc]
    exact List.getLast?_concat
  unfold text reference
  split
  · rw [← List.append_assoc, ← List.append_assoc]
    exact hlist _ _
  · rw [List.append_nil]
    exact hlist _ _

/-- The first word of a declaration is one of its words as it is written. -/
theorem exists_firstWord_eq : ∃ k, ∃ s : Spelling k, d.firstWord = s.text := by
  unfold firstWord
  split
  · rename_i c _
    exact ⟨_, c.word, rfl⟩
  · exact ⟨_, d.kindWord, rfl⟩

/-- Without brackets, a declaration is its first word, and something behind a blank. -/
theorem exists_quoteBrackets_text_eq :
    ∃ more, quoteBrackets d.text = d.firstWord ++ ' ' :: more := by
  obtain ⟨more, htext⟩ := d.exists_text_eq
  obtain ⟨k, s, hfirst⟩ := d.exists_firstWord_eq
  have hword : quoteBrackets s.text = s.text :=
    quoteBrackets_of_forall fun c hc => ⟨s.ne_of_mem hc (by decide), s.ne_of_mem hc (by decide)⟩
  refine ⟨quoteBrackets more, ?_⟩
  rw [htext, hfirst, quoteBrackets_append, hword, quoteBrackets_cons (by decide) (by decide)]

/-- The first letter of a declaration. -/
theorem exists_firstWord_cons : ∃ c cs, d.firstWord = c :: cs
    ∧ Text.isWhite c = false ∧ isQuote c = false := by
  have hletter : ∀ c ∈ bothCases, Text.isWhite c = false ∧ isQuote c = false := by decide
  obtain ⟨k, s, hfirst⟩ := d.exists_firstWord_eq
  obtain ⟨c, cs, hcons, hc⟩ := s.exists_cons
  exact ⟨c, cs, hfirst.trans hcons, hletter c hc⟩

/-- A declaration that does not count as a key is read as a column with its first word for a
name. -/
theorem exists_column?_eq :
    ∃ type, column? (quoteBrackets d.text) = some ⟨String.ofList d.firstWord, type⟩ := by
  obtain ⟨more, htext⟩ := d.exists_quoteBrackets_text_eq
  obtain ⟨c, cs, hcons, hwhite, hquote⟩ := d.exists_firstWord_cons
  obtain ⟨k, s, hfirst⟩ := d.exists_firstWord_eq
  have hblank : ∀ c ∈ d.firstWord, (c == ' ') = false := by
    rw [hfirst]
    exact Text.forall_beq_iff.2 fun hmem => s.ne_of_mem hmem (by decide) rfl
  have hname : splitName (quoteBrackets d.text) = (d.firstWord, more) := by
    have hcut : Text.cutAt? (· == ' ') (d.firstWord ++ ' ' :: more) = some (d.firstWord, more) :=
      Text.cutAt?_append hblank (by decide) more
    rw [hcons, List.cons_append] at hcut
    rw [htext, hcons, List.cons_append, splitName, hquote, hcut]
    rfl
  have hnamed : Text.isBlank (String.ofList d.firstWord) = false := by
    simp [Text.isBlank, hcons, hwhite]
  rw [column?_eq, splitColumn, hname]
  exact ⟨_, if_neg (by rw [hnamed]; decide)⟩

/-- What a declaration is read as, if it is no key. -/
theorem columns_quoteBrackets_text : Ddl.columns (quoteBrackets d.text)
    = if isKeyField d.text then [] else (column? (quoteBrackets d.text)).toList := by
  obtain ⟨more, htext⟩ := d.exists_quoteBrackets_text_eq
  obtain ⟨c, cs, hcons, hwhite, -⟩ := d.exists_firstWord_cons
  have hhead : (quoteBrackets d.text).head? = some c := by
    rw [htext, hcons]
    rfl
  have hlast : (quoteBrackets d.text).getLast? = some ')' := by
    rw [quoteBrackets, List.getLast?_map, d.getLast?_text]
    rfl
  have hne : quoteBrackets d.text ≠ [] := by
    rw [htext]
    simp
  rw [← isKeyField_quoteBrackets]
  refine (isField_quoteBrackets.2 d.isField_text).columns_eq hne ?_ ?_
  · rw [hhead]
    simpa using hwhite
  · rw [hlast]
    decide

end KeyDeclaration

/-! ## A declaration in a place among the fields -/

/-- A declaration of a key with a blank before its columns leaves the table as it is without it, in
whatever place. Without the blank, the same holds if a name in the declaration makes it count as a
key; else its first word is a column. -/
theorem Reader.table?_keyDeclaration (r : Reader) (p : Place) (d : KeyDeclaration) :
    (0 < d.gap → r.table? (p.filled d.text) = r.table? p.bare)
      ∧ (isKeyField d.text = true → r.table? (p.filled d.text) = r.table? p.bare)
      ∧ (isKeyField d.text = false → ∀ t, r.table? p.bare = some t →
          ∃ t', r.table? (p.filled d.text) = some t'
            ∧ String.ofList d.firstWord ∈ t'.columnNames) := by
  have hfilled := r.table?_filled p d.isField_text
  rw [d.columns_quoteBrackets_text] at hfilled
  have hkey : isKeyField d.text = true → r.table? (p.filled d.text) = r.table? p.bare := by
    intro h
    rw [hfilled, if_pos h, List.append_nil, r.table?_bare]
  refine ⟨fun h => hkey (d.isKeyField_of_gap h), hkey, fun h t ht => ?_⟩
  obtain ⟨type, hcolumn⟩ := d.exists_column?_eq
  rw [r.table?_bare, Option.map_eq_some_iff] at ht
  obtain ⟨bare, hbare, -⟩ := ht
  refine ⟨_, by rw [hfilled, hbare, Option.map_some], ?_⟩
  rw [if_neg (by rw [h]; decide), hcolumn, Table.columnNames, Table.addColumns,
    columns_of_header? hbare, Catalog.names_insertAll_empty, List.mem_eraseDups]
  simp [Named.name]

/-- The primary key of a table of orders, with a number of blanks before its columns. -/
def orderKey (gap : Nat) : KeyDeclaration where
  constraint := none
  kind := .primary
  kindWord := ⟨"PRIMARY".toList, by decide⟩
  keyWord := ⟨"Key".toList, by decide⟩
  gap := gap
  columns := ⟨"id".toList, by decide⟩
  target := none
  kind_mem := by decide

/-- The place behind the only column of a table of orders. -/
def orderPlace : Place :=
  .last "create table orders ".toList ["id int".toList] (by decide)
    (List.forall_mem_singleton.2 (by decide))

/-- The key of the orders with a blank, and without one. -/
theorem Reader.table?_keyDeclaration_orders :
    let r : Reader := ⟨"shop", "sales"⟩
    (0 < (orderKey 1).gap
        ∧ r.table? (orderPlace.filled (orderKey 1).text) = r.table? orderPlace.bare)
      ∧ isKeyField (orderKey 1).text = true
      ∧ isKeyField (orderKey 0).text = false
      ∧ ∃ t, r.table? orderPlace.bare = some t
        ∧ ∃ t', r.table? (orderPlace.filled (orderKey 0).text) = some t'
          ∧ "PRIMARY" ∈ t'.columnNames := by
  intro r
  obtain ⟨hgap, -, -⟩ := r.table?_keyDeclaration orderPlace (orderKey 1)
  obtain ⟨-, -, hcolumn⟩ := r.table?_keyDeclaration orderPlace (orderKey 0)
  have hkey : isKeyField (orderKey 0).text = false := by decide +kernel
  have hbare : (r.table? orderPlace.bare).isSome = true := by decide +kernel
  obtain ⟨t, ht⟩ := Option.isSome_iff_exists.1 hbare
  exact ⟨⟨by decide, hgap (by decide)⟩, by decide +kernel, hkey, t, ht, hcolumn hkey t ht⟩

/-- Without a blank, the key of the orders becomes a column. -/
theorem Reader.table?_keyDeclaration_without_blank :
    orderPlace.filled (orderKey 0).text = "create table orders (id int, PRIMARY Key(id))".toList
      ∧ (Reader.mk "shop" "sales").table? (orderPlace.filled (orderKey 0).text)
        ≠ (Reader.mk "shop" "sales").table? orderPlace.bare := by
  decide +kernel

end Schemata.Ddl
