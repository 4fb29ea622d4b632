import Mathlib.Data.List.Forall2
import Schemata.Proofs.Agreement

/-! # Comparing rearranged databases

Two databases are rearrangements of each other when they differ only in the order in which their
tables came in, and the columns, foreign keys and relationships of the tables. A comparison pairs by
name, and so it lists the same changes for rearranged databases, in the same order. The order shows
in one place only: inside a table that a change creates or drops as a whole. -/

namespace Schemata

variable {α : Type} [Named α] {R : α → α → Prop}

/-! ## Rearrangements -/

/-- Two tables with the same contents, up to the order inside their catalogs. -/
structure Table.Rearranged (a b : Table) : Prop where
  /-- The name is the same. -/
  name : a.name = b.name
  /-- The schema is the same. -/
  schema : a.schema = b.schema
  /-- The primary key is the same, in the same order. -/
  primaryKey : a.primaryKey = b.primaryKey
  /-- The shard key is the same. -/
  shardKey : a.shardKey = b.shardKey
  /-- The columns are the same in some order. -/
  columns : a.columns.toList.Perm b.columns.toList
  /-- The foreign keys are the same in some order. -/
  foreignKeys : a.foreignKeys.toList.Perm b.foreignKeys.toList
  /-- The relationships are the same in some order. -/
  relationships : a.relationships.toList.Perm b.relationships.toList

/-- A table is a rearrangement of itself. -/
theorem Table.Rearranged.refl (t : Table) : t.Rearranged t :=
  ⟨rfl, rfl, rfl, rfl, .refl _, .refl _, .refl _⟩

/-- Two databases of one name whose tables are rearrangements of each other, in some order. -/
structure Database.Rearranged (a b : Database) : Prop where
  /-- The name is the same. -/
  name : a.name = b.name
  /-- Under every name there are tables that are rearrangements of each other, or none. -/
  tables : ∀ table, Option.Rel Table.Rearranged (a.table? table) (b.table? table)

/-- Two actions that differ at most in the order inside a table that comes or goes. -/
inductive ChangeAction.Rearranged : ChangeAction → ChangeAction → Prop where
  /-- A table comes into being. -/
  | tableCreated {a b : Table} (table : a.Rearranged b) :
      Rearranged (.tableCreated a) (.tableCreated b)
  /-- A table goes. -/
  | tableDropped {a b : Table} (table : a.Rearranged b) :
      Rearranged (.tableDropped a) (.tableDropped b)
  /-- The actions are equal. -/
  | refl (action : ChangeAction) : Rearranged action action

/-- Two changes to one table that differ at most in the order inside a table that comes or goes. -/
structure Change.Rearranged (c d : Change) : Prop where
  /-- The table is the same. -/
  target : c.target = d.target
  /-- The action is the same up to this order. -/
  action : c.action.Rearranged d.action

/-! ## Sorting -/

/-- Two lists in the strict order of their names are related member by member when every member of
the one is related to some member of the other and related things share their name. -/
theorem Pairing.SortedByName.forall₂ (hname : ∀ {a b}, R a b → Named.name a = Named.name b)
    {as bs : List α} (ha : SortedByName as) (hb : SortedByName bs)
    (hab : ∀ a ∈ as, ∃ b ∈ bs, R a b) (hba : ∀ b ∈ bs, ∃ a ∈ as, R a b) :
    List.Forall₂ R as bs := by
  induction as generalizing bs with
  | nil =>
      cases bs with
      | nil => exact .nil
      | cons b bs =>
          obtain ⟨a, hmem, -⟩ := hba b List.mem_cons_self
          cases hmem
  | cons a as ih =>
      cases bs with
      | nil =>
          obtain ⟨b, hmem, -⟩ := hab a List.mem_cons_self
          cases hmem
      | cons b bs =>
          obtain ⟨hlta, ha'⟩ := List.pairwise_cons.1 ha
          obtain ⟨hltb, hb'⟩ := List.pairwise_cons.1 hb
          -- The heads are related to each other: either is the least name of its list.
          have heads : R a b := by
            obtain ⟨b', hb'mem, hrel⟩ := hab a List.mem_cons_self
            obtain ⟨a', ha'mem, hrel'⟩ := hba b List.mem_cons_self
            rcases List.mem_cons.1 hb'mem with rfl | hmem
            · exact hrel
            · rcases List.mem_cons.1 ha'mem with rfl | hmem'
              · exact hrel'
              · have hlt := String.lt_trans (hname hrel ▸ hlta a' hmem')
                  (hname hrel' ▸ hltb b' hmem)
                exact absurd hlt (String.lt_irrefl _)
          refine .cons heads (ih ha' hb' (fun x hx => ?_) fun y hy => ?_)
          · obtain ⟨y, hy, hrel⟩ := hab x (List.mem_cons_of_mem _ hx)
            rcases List.mem_cons.1 hy with rfl | hy
            · exact absurd ((hname hrel).trans (hname heads).symm) (ha.ne_head x hx)
            · exact ⟨y, hy, hrel⟩
          · obtain ⟨x, hx, hrel⟩ := hba y (List.mem_cons_of_mem _ hy)
            rcases List.mem_cons.1 hx with rfl | hx
            · exact absurd ((hname hrel).symm.trans (hname heads)) (hb.ne_head y hy)
            · exact ⟨x, hx, hrel⟩

namespace Catalog

/-- Catalogs that hold related things under every name are related member by member when they are
sorted. -/
theorem forall₂_sorted {c d : Catalog α} (hname : ∀ {a b}, R a b → Named.name a = Named.name b)
    (h : ∀ key, Option.Rel R (c.get? key) (d.get? key)) : List.Forall₂ R c.sorted d.sorted := by
  refine c.sortedByName_sorted.forall₂ hname d.sortedByName_sorted (fun a ha => ?_) fun b hb => ?_
  · have hrel := h (Named.name a)
    rw [get?_of_mem (mem_sorted.1 ha)] at hrel
    generalize hd : d.get? (Named.name a) = found at hrel
    cases hrel with
    | some hrel => exact ⟨_, mem_sorted.2 (mem_of_get? hd), hrel⟩
  · have hrel := h (Named.name b)
    rw [get?_of_mem (mem_sorted.1 hb)] at hrel
    generalize hc : c.get? (Named.name b) = found at hrel
    cases hrel with
    | some hrel => exact ⟨_, mem_sorted.2 (mem_of_get? hc), hrel⟩

/-- Catalogs with the same members in some order are sorted alike. -/
theorem sorted_eq_of_perm {c d : Catalog α} (h : c.toList.Perm d.toList) : c.sorted = d.sorted := by
  have heq : List.Forall₂ Eq c.sorted d.sorted := by
    refine c.sortedByName_sorted.forall₂ (congrArg Named.name) d.sortedByName_sorted
      (fun a ha => ⟨a, ?_, rfl⟩) fun b hb => ⟨b, ?_, rfl⟩
    · exact mem_sorted.2 (h.mem_iff.1 (mem_sorted.1 ha))
    · exact mem_sorted.2 (h.mem_iff.2 (mem_sorted.1 hb))
  rwa [List.forall₂_eq_eq_eq] at heq

/-- Catalogs with the same members in some order are paired alike. -/
theorem pair_eq_of_perm {c c' d d' : Catalog α} (hc : c.toList.Perm c'.toList)
    (hd : d.toList.Perm d'.toList) : c.pair d = c'.pair d' := by
  rw [pair, pair, sorted_eq_of_perm hc, sorted_eq_of_perm hd]

end Catalog

/-! ## Pairing -/

/-- Two pairings whose sides are related. -/
inductive Pairing.Rel {α : Type} (R : α → α → Prop) : Pairing α → Pairing α → Prop where
  /-- Both pairings are on the first side. -/
  | first {a a' : α} (left : R a a') : Rel R (.first a) (.first a')
  /-- Both pairings are on the second side. -/
  | second {b b' : α} (right : R b b') : Rel R (.second b) (.second b')
  /-- Both pairings are on both sides. -/
  | both {a a' b b' : α} (left : R a a') (right : R b b') : Rel R (.both a b) (.both a' b')

/-- Lists that are related member by member are merged into pairings that are. -/
theorem Pairing.forall₂_merge (hname : ∀ {a b}, R a b → Named.name a = Named.name b)
    {as as' bs bs' : List α} (ha : List.Forall₂ R as as') (hb : List.Forall₂ R bs bs') :
    List.Forall₂ (Rel R) (merge as bs) (merge as' bs') := by
  fun_induction merge as bs generalizing as' bs' with
  | case1 bs =>
      cases ha
      rw [merge_nil_left]
      exact List.rel_map (fun _ _ => .second) hb
  | case2 as =>
      cases hb
      rw [merge_nil_right]
      exact List.rel_map (fun _ _ => .first) ha
  | case3 a as b bs hab ih =>
      obtain ⟨a', as', hhead, htail, rfl⟩ := List.forall₂_cons_left_iff.1 ha
      obtain ⟨b', bs', hhead', -, rfl⟩ := List.forall₂_cons_left_iff.1 hb
      rw [hname hhead, hname hhead'] at hab
      rw [merge, if_pos hab]
      exact .cons (.first hhead) (ih htail hb)
  | case4 a as b bs hab hba ih =>
      obtain ⟨a', as', hhead, -, rfl⟩ := List.forall₂_cons_left_iff.1 ha
      obtain ⟨b', bs', hhead', htail', rfl⟩ := List.forall₂_cons_left_iff.1 hb
      rw [hname hhead, hname hhead'] at hab hba
      rw [merge, if_neg hab, if_pos hba]
      exact .cons (.second hhead') (ih ha htail')
  | case5 a as b bs hab hba ih =>
      obtain ⟨a', as', hhead, htail, rfl⟩ := List.forall₂_cons_left_iff.1 ha
      obtain ⟨b', bs', hhead', htail', rfl⟩ := List.forall₂_cons_left_iff.1 hb
      rw [hname hhead, hname hhead'] at hab hba
      rw [merge, if_neg hab, if_neg hba]
      exact .cons (.both hhead hhead') (ih htail htail')

/-! ## Comparisons -/

/-- Rearranged tables need the same actions to be turned into rearranged tables. -/
theorem ChangeAction.ofTables_rearranged {a a' b b' : Table} (ha : a.Rearranged a')
    (hb : b.Rearranged b') : ofTables a b = ofTables a' b' := by
  simp only [ofTables, ha.primaryKey, hb.primaryKey, ha.shardKey, hb.shardKey,
    Catalog.pair_eq_of_perm ha.foreignKeys hb.foreignKeys,
    Catalog.pair_eq_of_perm ha.relationships hb.relationships,
    Catalog.pair_eq_of_perm ha.columns hb.columns]

namespace Database

/-- Rearranged tables have the same place in databases of one name. -/
theorem place_rearranged {db db' : Database} (hname : db.name = db'.name) {t t' : Table}
    (h : t.Rearranged t') : db.place t = db'.place t' := by
  rw [place, place, hname, h.schema, h.name]

/-- The changes for rearranged tables of one name are the same up to the order inside tables. -/
theorem changesFor_rearranged {db db' : Database} (hname : db.name = db'.name)
    {x x' : Pairing Table} (h : Pairing.Rel Table.Rearranged x x') :
    List.Forall₂ Change.Rearranged (db.changesFor x) (db'.changesFor x') := by
  cases h with
  | first table => exact .cons ⟨place_rearranged hname table, .tableDropped table⟩ .nil
  | second table => exact .cons ⟨place_rearranged hname table, .tableCreated table⟩ .nil
  | both left right =>
      rw [changesFor, changesFor, place_rearranged hname left,
        ChangeAction.ofTables_rearranged left right]
      exact List.forall₂_same.2 fun c _ => ⟨rfl, .refl c.action⟩

/-- Rearranged databases need the same changes to match rearranged databases, up to the order inside
tables that come or go. -/
theorem changesTo_rearranged {a a' b b' : Database} (ha : a.Rearranged a') (hb : b.Rearranged b') :
    List.Forall₂ Change.Rearranged (a.changesTo b) (a'.changesTo b') := by
  have htables : ∀ {db db' : Database}, db.Rearranged db' →
      List.Forall₂ Table.Rearranged db.tables.sorted db'.tables.sorted := fun h =>
    Catalog.forall₂_sorted Table.Rearranged.name h.tables
  have hpairs := Pairing.forall₂_merge Table.Rearranged.name (htables ha) (htables hb)
  exact List.rel_flatMap hpairs fun _ _ => changesFor_rearranged ha.name

/-- **A comparison depends on contents only.** For databases whose tables, and the columns, foreign
keys and relationships of the tables, came in another order, either side of a comparison has the
same changes in the same order; only inside a table that is created or dropped may the order be
another one. -/
theorem compare_rearranged {a a' b b' : Database} (ha : a.Rearranged a') (hb : b.Rearranged b') :
    List.Forall₂ Change.Rearranged (a.compare b).first (a'.compare b').first
      ∧ List.Forall₂ Change.Rearranged (a.compare b).second (a'.compare b').second := by
  rw [compare_eq, compare_eq]
  exact ⟨changesTo_rearranged ha hb, changesTo_rearranged hb ha⟩

/-- The same tables and columns in two orders, on both sides. -/
theorem compare_rearranged_shop :
    let table (name : String) (columns : List Column) : Table :=
      ⟨name, "sales", ["id"], none, .ofList columns, .empty, .empty⟩
    let shop (tables : List Table) : Database := tables.foldl addTable ⟨"shop", .empty, .empty⟩
    let a := shop [table "orders" [⟨"id", .int⟩], table "parts" [⟨"id", .int⟩, ⟨"size", .double⟩]]
    let a' := shop [table "parts" [⟨"size", .double⟩, ⟨"id", .int⟩], table "orders" [⟨"id", .int⟩]]
    let b := shop [table "orders" [⟨"day", .date⟩, ⟨"id", .bigint⟩]]
    let b' := shop [table "orders" [⟨"id", .bigint⟩, ⟨"day", .date⟩]]
    a.tableNames = ["orders", "parts"] ∧ a'.tableNames = ["parts", "orders"]
      ∧ a.Rearranged a' ∧ b.Rearranged b' ∧ (a.compare b).isEmpty = false
      ∧ List.Forall₂ Change.Rearranged (a.compare b).first (a'.compare b').first
      ∧ List.Forall₂ Change.Rearranged (a.compare b).second (a'.compare b').second := by
  intro table shop a a' b b'
  have ha : a.Rearranged a' := by
    refine ⟨rfl, fun key => ?_⟩
    simp only [a, a', shop, List.foldl_cons, List.foldl_nil, table?_addTable]
    by_cases horders : "orders" = key
    · subst horders
      exact .some (.refl _)
    · by_cases hparts : "parts" = key
      · subst hparts
        exact .some ⟨rfl, rfl, rfl, rfl, .swap _ _ _, .refl _, .refl _⟩
      · rw [if_neg hparts, if_neg horders, if_neg horders, if_neg hparts]
        exact .none
  have hb : b.Rearranged b' := by
    refine ⟨rfl, fun key => ?_⟩
    simp only [b, b', shop, List.foldl_cons, List.foldl_nil, table?_addTable]
    by_cases horders : "orders" = key
    · rw [if_pos horders, if_pos horders]
      exact .some ⟨rfl, rfl, rfl, rfl, .swap _ _ _, .refl _, .refl _⟩
    · rw [if_neg horders, if_neg horders]
      exact .none
  have hne : (a.compare b).isEmpty = false := by
    rw [← Bool.not_eq_true, isEmpty_compare_iff]
    intro h
    exact absurd ((h.names "parts").1 (by decide)) (by decide)
  exact ⟨rfl, rfl, ha, hb, hne, compare_rearranged ha hb⟩

end Database

end Schemata
