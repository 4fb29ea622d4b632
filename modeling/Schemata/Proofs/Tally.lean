import Schemata.Database

/-! # What a tally counts

A proper tally has every schema once and with a positive count. Adding a table and releasing one
keep it proper and change one count by one, so a tally that is kept in step with a catalog of tables
holds, for every schema, the number of tables that are in it. -/

namespace Schemata

/-! ## Proper tallies -/

namespace SchemaTally

/-- A tally in which every schema stands once, with a positive count. -/
structure Proper (tally : SchemaTally) : Prop where
  /-- No schema stands twice. -/
  nodup : tally.names.Nodup
  /-- Every count is positive. -/
  positive : ∀ entry ∈ tally.entries, 0 < entry.2

/-- The tally without schemas is proper. -/
theorem proper_empty : empty.Proper := ⟨List.nodup_nil, by simp [empty]⟩

/-- The tail of a proper tally is proper. -/
theorem Proper.of_cons {entry : String × Nat} {rest : List (String × Nat)}
    (h : Proper ⟨entry :: rest⟩) : Proper ⟨rest⟩ :=
  ⟨(List.nodup_cons.1 h.nodup).2, fun e he => h.positive e (List.mem_cons_of_mem _ he)⟩

/-- A schema that a tally does not name is counted zero times. -/
theorem count_eq_zero {tally : SchemaTally} {schema : String} (h : schema ∉ tally.names) :
    tally.count schema = 0 := by
  have hnone : tally.entries.lookup schema = none := by
    rw [List.lookup_eq_none_iff]
    rintro ⟨s, n⟩ hmem
    have hne : schema ≠ s := by
      rintro rfl
      exact h (List.mem_map.2 ⟨_, hmem, rfl⟩)
    simpa using hne
  rw [count, hnone]
  rfl

/-- The entries of a proper tally are its positive counts. -/
theorem Proper.mem_entries_iff {tally : SchemaTally} (h : tally.Proper) (schema : String)
    (n : Nat) : (schema, n) ∈ tally.entries ↔ 0 < n ∧ tally.count schema = n := by
  obtain ⟨entries⟩ := tally
  induction entries with
  | nil =>
      simp only [List.not_mem_nil, false_iff, not_and, count]
      rintro hpos rfl
      exact Nat.lt_irrefl _ hpos
  | cons entry rest ih =>
      obtain ⟨s, m⟩ := entry
      have hpositive := h.positive (s, m) List.mem_cons_self
      have hfresh : s ∉ names ⟨rest⟩ := (List.nodup_cons.1 h.nodup).1
      by_cases hs : schema = s
      · -- The rest does not have the schema again.
        subst hs
        have hrest : (schema, n) ∉ rest := fun hmem => hfresh (List.mem_map.2 ⟨_, hmem, rfl⟩)
        simp only [List.mem_cons, Prod.mk.injEq, true_and, hrest, or_false, count,
          List.lookup_cons_self, Option.getD_some]
        exact ⟨fun e => ⟨e ▸ hpositive, e.symm⟩, fun e => e.2.symm⟩
      · have hb : (schema == s) = false := by simpa using hs
        have hcount : count ⟨(s, m) :: rest⟩ schema = count ⟨rest⟩ schema := by
          simp [count, List.lookup_cons, hb]
        rw [hcount, ← ih h.of_cons]
        simp [hs]

/-- A proper tally names the schemas that it counts. -/
theorem Proper.mem_names_iff {tally : SchemaTally} (h : tally.Proper) (schema : String) :
    schema ∈ tally.names ↔ 0 < tally.count schema := by
  constructor
  · intro hmem
    obtain ⟨⟨_, n⟩, hentry, rfl⟩ := List.mem_map.1 hmem
    obtain ⟨hpos, hcount⟩ := (h.mem_entries_iff _ n).1 hentry
    exact hcount ▸ hpos
  · intro hpos
    have hentry := (h.mem_entries_iff schema (tally.count schema)).2 ⟨hpos, rfl⟩
    exact List.mem_map.2 ⟨_, hentry, rfl⟩

/-! ## Adding and releasing -/

/-- The schemas after one more table: a new one comes at the end. -/
theorem names_add (tally : SchemaTally) (schema : String) :
    (tally.add schema).names
      = if schema ∈ tally.names then tally.names else tally.names ++ [schema] := by
  obtain ⟨entries⟩ := tally
  simp only [names, add]
  induction entries with
  | nil => rfl
  | cons entry rest ih =>
      obtain ⟨s, n⟩ := entry
      by_cases hs : s = schema
      · simp [addTo, hs]
      · have hs' : ¬ schema = s := fun e => hs e.symm
        simp only [addTo, if_neg hs, List.map_cons, ih, List.mem_cons, hs', false_or]
        by_cases hmem : schema ∈ rest.map (·.1)
        · simp only [hmem, if_true]
        · simp only [hmem, if_false]
          rfl

/-- One more table keeps a tally proper. -/
theorem Proper.add {tally : SchemaTally} (h : tally.Proper) (schema : String) :
    (tally.add schema).Proper := by
  constructor
  · rw [names_add]
    split
    · exact h.nodup
    · rename_i hnew
      rw [List.nodup_append]
      refine ⟨h.nodup, by simp, ?_⟩
      rintro s hs t ht rfl
      exact hnew (List.mem_singleton.1 ht ▸ hs)
  · obtain ⟨entries⟩ := tally
    intro entry hentry
    simp only [SchemaTally.add] at hentry
    induction entries with
    | nil =>
        rw [addTo, List.mem_singleton] at hentry
        simp [hentry]
    | cons first rest ih =>
        obtain ⟨s, n⟩ := first
        rw [addTo] at hentry
        split at hentry
        · rcases List.mem_cons.1 hentry with rfl | hrest
          · exact Nat.succ_pos n
          · exact h.positive _ (List.mem_cons_of_mem _ hrest)
        · rcases List.mem_cons.1 hentry with rfl | hrest
          · exact h.positive _ List.mem_cons_self
          · exact ih h.of_cons hrest

/-- Releasing a table takes no new schema in. -/
theorem names_release_sublist (tally : SchemaTally) (schema : String) :
    (tally.release schema).names.Sublist tally.names := by
  obtain ⟨entries⟩ := tally
  simp only [names, release]
  induction entries with
  | nil => exact List.Sublist.refl _
  | cons entry rest ih =>
      obtain ⟨s, n⟩ := entry
      by_cases hs : s = schema
      · -- The entry goes with its last table, and else only its count is lower.
        by_cases hn : n ≤ 1
        · simp [takeFrom, hs, hn]
        · simp [takeFrom, hs, hn]
      · simpa [takeFrom, hs] using ih

/-- Releasing a table keeps a tally proper. -/
theorem Proper.release {tally : SchemaTally} (h : tally.Proper) (schema : String) :
    (tally.release schema).Proper := by
  constructor
  · exact h.nodup.sublist (names_release_sublist tally schema)
  · obtain ⟨entries⟩ := tally
    intro entry hentry
    simp only [SchemaTally.release] at hentry
    induction entries with
    | nil => cases hentry
    | cons first rest ih =>
        obtain ⟨s, n⟩ := first
        rw [takeFrom] at hentry
        split at hentry
        · split at hentry
          · exact h.positive _ (List.mem_cons_of_mem _ hentry)
          · rename_i hn
            rcases List.mem_cons.1 hentry with rfl | hrest
            · exact Nat.sub_pos_of_lt (Nat.not_le.1 hn)
            · exact h.positive _ (List.mem_cons_of_mem _ hrest)
        · rcases List.mem_cons.1 hentry with rfl | hrest
          · exact h.positive _ List.mem_cons_self
          · exact ih h.of_cons hrest

/-- Releasing a table of a proper tally counts it no more, and touches no other count. -/
theorem Proper.count_release {tally : SchemaTally} (h : tally.Proper) (schema other : String) :
    (tally.release schema).count other
      = tally.count other - if other = schema then 1 else 0 := by
  obtain ⟨entries⟩ := tally
  simp only [SchemaTally.release]
  induction entries with
  | nil => simp [count, takeFrom]
  | cons entry rest ih =>
      obtain ⟨s, n⟩ := entry
      have hfresh : s ∉ names ⟨rest⟩ := (List.nodup_cons.1 h.nodup).1
      have hpositive := h.positive (s, n) List.mem_cons_self
      by_cases hs : s = schema
      · subst hs
        by_cases hn : n ≤ 1
        · -- The last table of the schema: its entry goes, and there is no other.
          by_cases ho : other = s
          · subst ho
            have hgone := count_eq_zero hfresh
            rw [count] at hgone
            simp [takeFrom, hn, count, hgone]
          · have hb : (other == s) = false := by simpa using ho
            simp [takeFrom, hn, count, List.lookup_cons, hb, ho]
        · by_cases ho : other = s
          · simp [takeFrom, hn, count, ho]
          · have hb : (other == s) = false := by simpa using ho
            simp [takeFrom, hn, count, List.lookup_cons, hb, ho]
      · by_cases ho : other = s
        · have hne : ¬ other = schema := fun e => hs (ho ▸ e)
          rw [if_neg hne]
          simp [takeFrom, hs, count, ho]
        · have hb : (other == s) = false := by simpa using ho
          have ih := ih h.of_cons
          simp only [count] at ih
          simp [takeFrom, hs, count, List.lookup_cons, hb, ih]

end SchemaTally

/-! ## Counting members of a catalog -/

namespace Catalog

variable {α : Type} [Named α]

/-- Putting a thing in the place of another counts the new one and no more the old one. -/
theorem countP_insert (c : Catalog α) (x : α) (p : α → Bool) :
    (c.insert x).toList.countP p + (c.get? (name x)).toList.countP p
      = c.toList.countP p + if p x then 1 else 0 := by
  obtain ⟨members, h⟩ := c
  simp only [toList_insert, get?]
  clear h
  induction members with
  | nil => simp [putNamed, List.countP_cons]
  | cons y rest ih =>
      by_cases hy : name y = name x
      · simp only [putNamed, hy, if_true, List.find?_cons, beq_self_eq_true, Option.toList_some,
          List.countP_cons, List.countP_nil]
        omega
      · have hb : (name y == name x) = false := by simpa using hy
        simp only [putNamed, if_neg hy, List.find?_cons, hb, List.countP_cons]
        omega

/-- Erasing a member counts it no more. -/
theorem countP_erase (c : Catalog α) (key : String) (p : α → Bool) :
    (c.erase key).toList.countP p + (c.get? key).toList.countP p = c.toList.countP p := by
  obtain ⟨members, h⟩ := c
  simp only [toList_erase, get?]
  induction members with
  | nil => simp
  | cons y rest ih =>
      rw [List.map_cons, List.nodup_cons] at h
      by_cases hy : name y = key
      · -- No other member has the name, so the rest is kept whole.
        have hrest : rest.filter (fun x => name x != key) = rest := by
          rw [List.filter_eq_self]
          intro x hx
          have hne : name x ≠ key := fun e => h.1 (List.mem_map.2 ⟨x, hx, e.trans hy.symm⟩)
          simpa using hne
        simp [hy, hrest, List.countP_cons]
      · have hb : (name y == key) = false := by simpa using hy
        have ih := ih h.2
        simp only [List.filter_cons, bne, hb, Bool.not_false, if_true, List.find?_cons,
          List.countP_cons]
        simp only [bne] at ih
        omega

end Catalog

/-! ## Tallies in step with tables -/

namespace Database

/-- Whether a table is in a schema. -/
def inSchema (schema : String) (t : Table) : Bool := t.schema == schema

/-- A table is in its own schema and in no other. -/
@[simp] theorem inSchema_eq_true_iff (schema : String) (t : Table) :
    inSchema schema t = true ↔ schema = t.schema := by
  rw [inSchema, beq_iff_eq, eq_comm]

/-- The tally of a database is in step with its tables: it is proper, and it counts for every schema
the tables that are in it. -/
structure Tallied (db : Database) : Prop where
  /-- The tally is proper. -/
  proper : db.schemas.Proper
  /-- The tally counts the tables of every schema. -/
  count_eq : ∀ schema, db.schemas.count schema = db.tables.toList.countP (inSchema schema)

namespace Tallied

variable {db : Database} (h : db.Tallied)
include h

/-- The schema of a table is counted. -/
theorem count_pos {table : String} {t : Table} (found : db.table? table = some t) :
    0 < db.schemas.count t.schema := by
  have hmem : t ∈ db.tables.toList := Catalog.mem_of_get? found
  rw [h.count_eq, List.countP_pos_iff]
  exact ⟨t, hmem, by simp [inSchema]⟩

/-- The schemas in use are those of the tables. -/
theorem mem_schemaNames_iff (schema : String) :
    schema ∈ db.schemaNames ↔ ∃ t ∈ db.tables.toList, t.schema = schema := by
  rw [schemaNames, h.proper.mem_names_iff, h.count_eq, List.countP_pos_iff]
  simp [inSchema]

/-- A table that comes keeps the tally in step. The schema of the table that it replaces is released
after its own has been counted. -/
theorem addTable (t : Table) : (db.addTable t).Tallied := by
  cases hold : db.table? t.name with
  | none =>
      refine ⟨?_, fun schema => ?_⟩
      · simpa only [Database.addTable, hold] using h.proper.add t.schema
      · have hcount := Catalog.countP_insert db.tables t (inSchema schema)
        rw [show db.tables.get? (Named.name t) = none from hold] at hcount
        simp only [Option.toList_none, List.countP_nil, inSchema_eq_true_iff] at hcount
        simp only [Database.addTable, hold, SchemaTally.count_add, h.count_eq]
        omega
  | some old =>
      refine ⟨?_, fun schema => ?_⟩
      · simpa only [Database.addTable, hold] using (h.proper.add t.schema).release old.schema
      · have hcount := Catalog.countP_insert db.tables t (inSchema schema)
        rw [show db.tables.get? (Named.name t) = some old from hold] at hcount
        simp only [Option.toList_some, List.countP_cons, List.countP_nil,
          inSchema_eq_true_iff] at hcount
        simp only [Database.addTable, hold, (h.proper.add t.schema).count_release,
          SchemaTally.count_add, h.count_eq]
        omega

/-- A table that goes keeps the tally in step. -/
theorem dropTable (table : String) : (db.dropTable table).Tallied := by
  cases hold : db.table? table with
  | none => simpa only [Database.dropTable, hold] using h
  | some old =>
      refine ⟨?_, fun schema => ?_⟩
      · simpa only [Database.dropTable, hold] using h.proper.release old.schema
      · have hcount := Catalog.countP_erase db.tables table (inSchema schema)
        rw [show db.tables.get? table = some old from hold] at hcount
        simp only [Option.toList_some, List.countP_cons, List.countP_nil,
          inSchema_eq_true_iff] at hcount
        simp only [Database.dropTable, hold, h.proper.count_release, h.count_eq]
        omega

/-- A table that is edited keeps its schema, and so the tally stays in step. -/
theorem editTable (table : String) (edit : Table → Table) :
    (db.editTable table edit).Tallied := by
  cases hold : db.table? table with
  | none => simpa only [Database.editTable, hold] using h
  | some old =>
      refine ⟨?_, fun schema => ?_⟩
      · simpa only [Database.editTable, hold] using h.proper
      · let new : Table := { edit old with name := old.name, schema := old.schema }
        have hname : old.name = table := Catalog.name_of_get? hold
        have hfound : db.tables.get? (Named.name new) = some old := by
          rw [show Named.name new = table from hname]
          exact hold
        have hcount := Catalog.countP_insert db.tables new (inSchema schema)
        rw [hfound] at hcount
        -- The new table is counted where the old one was.
        have hschema : new.schema = old.schema := rfl
        simp only [Option.toList_some, List.countP_cons, List.countP_nil,
          inSchema_eq_true_iff, hschema] at hcount
        simp only [Database.editTable, hold, h.count_eq]
        show _ = (db.tables.insert new).toList.countP _
        omega

end Tallied

end Database

end Schemata
