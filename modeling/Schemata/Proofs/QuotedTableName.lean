import Schemata.Proofs.FieldList
import Schemata.Proofs.ReadCharacters

/-! # Quoted names of tables

The name of a table is cut out of the words before the list of columns at blanks and dots, and only
then are the quotes taken off. So of a name in quotes no more is left than stands behind its last
blank and its last dot. A name without blanks and dots is taken whole, and the tables of two such
names never take each other's place. -/

namespace Schemata

/-! ## The part behind the last of some characters -/

namespace Text

variable {p : Char → Bool}

/-- What stands behind the last of some characters reaches to the end of the text. -/
theorem afterLast_append_of_forall {after : List Char} (h : ∀ c ∈ after, p c = false)
    (before : List Char) : afterLast p (before ++ after) = afterLast p before ++ after := by
  have hpass : ∀ c ∈ after.reverse, (!p c) = true := by
    intro c hc
    simp [h c (List.mem_reverse.1 hc)]
  rw [afterLast, List.reverse_append, List.takeWhile_append_of_pos hpass, List.reverse_append,
    List.reverse_reverse, afterLast]

/-- None of the characters stands behind the last of them. -/
theorem of_mem_afterLast {cs : List Char} {c : Char} (h : c ∈ afterLast p cs) : p c = false := by
  have hpass := List.all_eq_true.1 (List.all_takeWhile (l := cs.reverse) (p := fun d => !p d)) c
    (List.mem_reverse.1 h)
  simpa using hpass

/-- A text is what stands behind the last of some characters just when it has none of them. -/
theorem afterLast_eq_self_iff {cs : List Char} : afterLast p cs = cs ↔ ∀ c ∈ cs, p c = false :=
  ⟨fun h _ hc => of_mem_afterLast (h.symm ▸ hc), fun h => afterLast_append_of_forall h []⟩

/-- What stands behind the last of some characters in a text in two parts: the first part matters if
there are none of them in the second. -/
theorem afterLast_append_eq (front cs : List Char) :
    afterLast p (front ++ cs)
      = (if ∀ c ∈ cs, p c = false then afterLast p front else []) ++ afterLast p cs := by
  by_cases h : ∀ c ∈ cs, p c = false
  · rw [if_pos h, afterLast_append_of_forall h, afterLast_eq_self_iff.2 h]
  · have hshort : ¬ (cs.reverse.takeWhile fun c => !p c).length = cs.reverse.length := by
      intro hlength
      have hall := (List.takeWhile_sublist _).eq_of_length hlength
      exact h (afterLast_eq_self_iff.1 (by rw [afterLast, hall, List.reverse_reverse]))
    rw [if_neg h, afterLast, List.reverse_append, List.takeWhile_append, if_neg hshort]
    rfl

end Text

namespace Ddl

/-! ## Names in quotes -/

/-- Whether a name can stand in quotes before a list of columns: it is not blank, and it has no
quotes, parentheses and brackets. -/
def IsQuotable (name : String) : Prop :=
  Text.isBlank name = false
    ∧ ∀ c ∈ name.toList, isQuote c = false ∧ c ∉ ['(', ')', '[', ']']

instance (name : String) : Decidable (IsQuotable name) :=
  inferInstanceAs (Decidable (_ ∧ ∀ c ∈ name.toList, isQuote c = false ∧ c ∉ ['(', ')', '[', ']']))

/-- What is left of a name: the part behind its last blank, and of this the part behind its last
dot. -/
@[irreducible] def lastPart (name : String) : String :=
  String.ofList (Text.afterLast (· == '.') (Text.afterLast (· == ' ') name.toList))

/-- All of a name is left just when it has neither blanks nor dots. -/
theorem lastPart_eq_self_iff (name : String) :
    lastPart name = name ↔ ' ' ∉ name.toList ∧ '.' ∉ name.toList := by
  rw [lastPart, ← String.toList_inj, String.toList_ofList]
  constructor
  · intro h
    constructor
    · intro hmem
      rw [← h] at hmem
      exact absurd (Text.of_mem_afterLast (afterLast_subset _ _ hmem)) (by decide)
    · intro hmem
      rw [← h] at hmem
      exact absurd (Text.of_mem_afterLast hmem) (by decide)
  · rintro ⟨hblank, hdot⟩
    rw [Text.afterLast_eq_self_iff.2 (Text.forall_beq_iff.2 hblank),
      Text.afterLast_eq_self_iff.2 (Text.forall_beq_iff.2 hdot)]

/-- Of quotes in front of a text only quotes get before what stands behind the last of some
characters. -/
theorem exists_afterLast_quotes (p : Char → Bool) {front : List Char} (h : front ⊆ ['"'])
    (cs : List Char) :
    ∃ kept ⊆ ['"'], Text.afterLast p (front ++ cs) = kept ++ Text.afterLast p cs := by
  rw [Text.afterLast_append_eq]
  refine ⟨_, ?_, rfl⟩
  split
  · exact List.Subset.trans (afterLast_subset p front) h
  · exact List.nil_subset _

/-- Words that end in a blank, with a name in quotes behind them, name the table after the last part
of the name, if there is anything. -/
theorem tableName?_quoted {words : List Char} (hwords : Text.afterLast (· == ' ') words = [])
    {name : String} (h : IsQuotable name) :
    tableName? (words ++ (['"'] ++ name.toList ++ ['"']) ++ [' '])
      = if (lastPart name).toList.isEmpty then none else some (lastPart name).toList := by
  have hmark : ∀ c ∈ ['"'], (c == ' ') = false ∧ (c == '.') = false := by decide
  have htrim : Text.trimEnd (words ++ (['"'] ++ name.toList ++ ['"']) ++ [' '])
      = words ++ (['"'] ++ name.toList ++ ['"']) := by
    have hwhite : Text.isWhite ' ' = true ∧ Text.isWhite '"' = false := by decide
    simp [Text.trimEnd, hwhite.1, hwhite.2]
  have hword : Text.afterLast (· == ' ') (words ++ (['"'] ++ name.toList ++ ['"']))
      = Text.afterLast (· == ' ') (['"'] ++ name.toList) ++ ['"'] := by
    rw [Text.afterLast_append_eq, hwords, ite_self, List.nil_append,
      Text.afterLast_append_of_forall fun c hc => (hmark c hc).1]
  -- The quote in front gets into the last part unless there are blanks and dots behind it.
  obtain ⟨front, hfront, hblank⟩ := exists_afterLast_quotes (· == ' ') (List.Subset.refl ['"'])
    name.toList
  obtain ⟨kept, hkept, hdot⟩ := exists_afterLast_quotes (· == '.') hfront
    (Text.afterLast (· == ' ') name.toList)
  have hquotes : ∀ {cs : List Char}, cs ⊆ ['"'] → cs.filter (fun c => !isQuote c) = [] := by
    intro cs hcs
    refine List.filter_eq_nil_iff.2 fun c hc => ?_
    rw [List.mem_singleton.1 (hcs hc)]
    decide
  have hname : (Text.afterLast (· == '.') (Text.afterLast (· == ' ') name.toList)).filter
      (fun c => !isQuote c) = (lastPart name).toList := by
    rw [lastPart, String.toList_ofList, List.filter_eq_self]
    intro c hc
    rw [(h.2 c (afterLast_subset _ _ (afterLast_subset _ _ hc))).1]
    rfl
  have hlast : (Text.afterLast (· == '.')
      (Text.afterLast (· == ' ') (['"'] ++ name.toList) ++ ['"'])).filter (fun c => !isQuote c)
        = (lastPart name).toList := by
    rw [hblank, Text.afterLast_append_of_forall fun c hc => (hmark c hc).2, hdot,
      List.filter_append, List.filter_append, hquotes hkept, hquotes (List.Subset.refl _), hname,
      List.nil_append, List.append_nil]
  rw [tableName?, htrim, hword]
  simp only [hlast]

/-- The table of one column that has a given name. -/
def Reader.single (r : Reader) (name : String) : Table :=
  ⟨name, r.schema, [], none, Catalog.empty.insert ⟨"a", .bigint⟩, .empty, .empty⟩

/-- Words that name no table but a blank one make none. -/
theorem Reader.header?_eq_none (r : Reader) {words : List Char}
    (h : ∀ name, tableName? words = some name → Text.isBlank (String.ofList name) = true) :
    r.header? words = none := by
  rw [Option.eq_none_iff_forall_ne_some]
  intro t ht
  simp only [header?, Option.bind_eq_bind, Option.bind_eq_some_iff] at ht
  obtain ⟨name, hname, hmade⟩ := ht
  cases hin : Table.inSchema (String.ofList name) r.schema with
  | error e =>
      rw [hin] at hmade
      cases hmade
  | ok made =>
      have hnamed := ((Table.inSchema_eq_ok_iff _ _ _).1 hin).1
      rw [h name hname] at hnamed
      cases hnamed

/-- Words with a name in quotes behind them make the table of the last part of the name, unless this
is blank. -/
theorem Reader.header?_quoted {r : Reader} (hschema : Text.isBlank r.schema = false)
    {words : List Char} (hwords : Text.afterLast (· == ' ') words = []) {name : String}
    (h : IsQuotable name) :
    r.header? (words ++ (['"'] ++ name.toList ++ ['"']) ++ [' '])
      = if Text.isBlank (lastPart name) then none
        else some ⟨lastPart name, r.schema, [], none, .empty, .empty, .empty⟩ := by
  have hname := tableName?_quoted hwords h
  by_cases hblank : Text.isBlank (lastPart name) = true
  · rw [if_pos hblank]
    refine r.header?_eq_none fun read hread => ?_
    rw [hname] at hread
    split at hread
    · cases hread
    · cases hread
      rwa [String.ofList_toList]
  · have hnamed : (lastPart name).toList.isEmpty = false := by
      rw [Bool.eq_false_iff]
      intro hempty
      rw [Text.isBlank, List.isEmpty_iff.1 hempty] at hblank
      exact hblank rfl
    rw [hnamed] at hname
    rw [if_neg hblank, header?_eq hschema hname
      (by rw [String.ofList_toList]; simpa using hblank), String.ofList_toList]

/-- The statement that creates a table of a name in quotes, with one column. -/
def quotedStatement (name : String) : String := "create table \"" ++ name ++ "\" (a int)"

/-- The words of the statement, and its list of one field. -/
theorem toList_quotedStatement (name : String) : (quotedStatement name).toList
    = creation ("create table ".toList ++ (['"'] ++ name.toList ++ ['"']) ++ [' '])
      ["a int".toList] [] := by
  have hfront : "create table \"".toList = "create table ".toList ++ ['"'] := by decide
  have hback : "\" (a int)".toList = ['"', ' ', '('] ++ ("a int".toList ++ [')']) := by decide
  have hparts : ∀ words name field : List Char,
      words ++ ['"'] ++ name ++ (['"', ' ', '('] ++ (field ++ [')']))
        = creation (words ++ (['"'] ++ name ++ ['"']) ++ [' ']) [field] [] := by
    simp [creation, listed]
  have htext : ∀ front back : String,
      (front ++ name ++ back).toList = front.toList ++ name.toList ++ back.toList := by simp
  calc (quotedStatement name).toList
      = "create table \"".toList ++ name.toList ++ "\" (a int)".toList := htext _ _
    _ = _ := congrArg₂ (· ++ name.toList ++ ·) hfront hback
    _ = _ := hparts _ _ _

/-- The characters before the list of fields are no parentheses and no brackets. -/
theorem IsQuotable.forall_mem_words {name : String} (h : IsQuotable name) {words : List Char}
    (hwords : ∀ c ∈ words, c ∉ ['(', ')', '[', ']']) :
    ∀ c ∈ words ++ (['"'] ++ name.toList ++ ['"']) ++ [' '], c ∉ ['(', ')', '[', ']'] := by
  intro c hc
  simp only [List.mem_append, List.mem_singleton] at hc
  rcases hc with (hc | (rfl | hc) | rfl) | rfl
  · exact hwords c hc
  · decide
  · exact (h.2 c hc).2
  · decide
  · decide

/-- A statement with a name in quotes is read as the table of the last part of the name, unless this
is blank. -/
theorem Reader.table?_quotedStatement {r : Reader} (hschema : Text.isBlank r.schema = false)
    {name : String} (h : IsQuotable name) :
    r.table? (quotedStatement name).toList
      = if Text.isBlank (lastPart name) then none else some (r.single (lastPart name)) := by
  have hwords : ∀ c ∈ "create table ".toList, c ∉ ['(', ')', '[', ']'] := by decide
  have hplain := h.forall_mem_words hwords
  have hquoted := quoteBrackets_of_forall fun c hc => by
    have hnot := hplain c hc
    simp only [List.mem_cons, not_or] at hnot
    exact ⟨hnot.2.2.1, hnot.2.2.2.1⟩
  have hbody : columns (listed (["a int".toList].map quoteBrackets)) = [⟨"a", .bigint⟩] := by
    decide +kernel
  rw [toList_quotedStatement, r.table?_creation (fun hc => hplain _ hc (by decide)) (by simp),
    hquoted, hbody, header?_quoted hschema (by decide) h]
  split <;> rfl

/-- A name in quotes is taken whole just when it has neither blanks nor dots. -/
theorem Reader.exists_table?_quotedStatement_iff {r : Reader}
    (hschema : Text.isBlank r.schema = false) {name : String} (h : IsQuotable name) :
    (∃ t, r.table? (quotedStatement name).toList = some t ∧ t.name = name)
      ↔ ' ' ∉ name.toList ∧ '.' ∉ name.toList := by
  rw [table?_quotedStatement hschema h, ← lastPart_eq_self_iff]
  constructor
  · rintro ⟨t, ht, hname⟩
    split at ht
    · cases ht
    · cases ht
      exact hname
  · intro hname
    exact ⟨r.single name, by rw [hname, h.1]; rfl, rfl⟩

/-- **Of a name in quotes the part behind the last blank and the last dot is taken.** A statement
with a name in quotes is read as the table of that part, or as none if it is blank; so the whole
name is taken just when it has neither blanks nor dots. The tables of two different names without
blanks and dots do not take each other's place: when one of them is added to a database, what is
there under the other name stays. -/
theorem Reader.table?_quotedName {r : Reader} (hschema : Text.isBlank r.schema = false)
    {name : String} (h : IsQuotable name) :
    r.table? (quotedStatement name).toList
        = (if Text.isBlank (lastPart name) then none else some (r.single (lastPart name)))
      ∧ ((∃ t, r.table? (quotedStatement name).toList = some t ∧ t.name = name)
        ↔ ' ' ∉ name.toList ∧ '.' ∉ name.toList)
      ∧ ∀ other, IsQuotable other → other ≠ name →
        (∀ whole ∈ [name, other], ' ' ∉ whole.toList ∧ '.' ∉ whole.toList) →
        ∃ t t', r.table? (quotedStatement name).toList = some t
          ∧ r.table? (quotedStatement other).toList = some t'
          ∧ ∀ db : Database, (db.addTable t).table? other = db.table? other
            ∧ (db.addTable t').table? name = db.table? name := by
  refine ⟨table?_quotedStatement hschema h, exists_table?_quotedStatement_iff hschema h,
    fun other hother hne hwhole => ?_⟩
  obtain ⟨t, ht, rfl⟩ := (exists_table?_quotedStatement_iff hschema h).2 (hwhole name (by simp))
  obtain ⟨t', ht', rfl⟩ :=
    (exists_table?_quotedStatement_iff hschema hother).2 (hwhole other (by simp))
  refine ⟨t, t', ht, ht', fun db => ⟨?_, ?_⟩⟩
  · rw [Database.table?_addTable, if_neg hne.symm]
  · rw [Database.table?_addTable, if_neg hne]

/-- Names with a tab and with a hyphen, neither of which takes the other's place. -/
theorem Reader.table?_quotedName_items :
    let r : Reader := ⟨"shop", "sales"⟩
    let name := "order\titems"
    let other := "order-items"
    Text.isBlank r.schema = false ∧ IsQuotable name ∧ IsQuotable other ∧ other ≠ name
      ∧ (∀ whole ∈ [name, other], ' ' ∉ whole.toList ∧ '.' ∉ whole.toList)
      ∧ ∃ t t', r.table? (quotedStatement name).toList = some t
        ∧ r.table? (quotedStatement other).toList = some t' ∧ t.name = name ∧ t'.name = other
        ∧ ∀ db : Database, (db.addTable t).table? other = db.table? other
          ∧ (db.addTable t').table? name = db.table? name := by
  intro r name other
  have hschema : Text.isBlank r.schema = false := by decide
  have hname : IsQuotable name := by decide
  have hother : IsQuotable other := by decide
  have hne : other ≠ name := by decide
  have hwhole : ∀ whole ∈ [name, other], ' ' ∉ whole.toList ∧ '.' ∉ whole.toList := by decide
  obtain ⟨-, -, hapart⟩ := table?_quotedName hschema hname
  obtain ⟨t, t', ht, ht', hkept⟩ := hapart other hother hne hwhole
  have hnamed : (r.table? (quotedStatement name).toList).map Table.name = some name := by
    decide +kernel
  have hnamed' : (r.table? (quotedStatement other).toList).map Table.name = some other := by
    decide +kernel
  rw [ht] at hnamed
  rw [ht'] at hnamed'
  exact ⟨hschema, hname, hother, hne, hwhole, t, t', ht, ht', Option.some.inj hnamed,
    Option.some.inj hnamed', hkept⟩

/-- Of a name with a blank only the second word is taken, so two names may make one. -/
theorem Reader.quotedName_cut :
    let r : Reader := ⟨"shop", "sales"⟩
    IsQuotable "order items" ∧ IsQuotable "return items"
      ∧ r.table? (quotedStatement "order items").toList = some (r.single "items")
      ∧ r.table? (quotedStatement "return items").toList = some (r.single "items")
      ∧ ¬ ∃ t, r.table? (quotedStatement "order items").toList = some t
        ∧ t.name = "order items" := by
  intro r
  have hread : r.table? (quotedStatement "order items").toList = some (r.single "items") := by
    decide +kernel
  refine ⟨by decide, by decide, hread, by decide +kernel, ?_⟩
  rintro ⟨t, ht, hname⟩
  rw [hread] at ht
  cases ht
  exact absurd hname (by decide)

end Ddl

end Schemata
