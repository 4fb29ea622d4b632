import Schemata.Proofs.Calls
import Schemata.Proofs.Coherence
import Schemata.Proofs.Constraints
import Schemata.Proofs.Steps

/-! # What changes refer to

The changes for a table come in the order of its sections and the tables in the order of their
names, whatever they refer to. So a change may come before what it refers to is there: a key is
added before its columns are, a foreign key before its table is created, and a table is dropped
while foreign keys still refer to it. When the second database is valid, the rest of the script
makes up for all of these, and no column is ever dropped that a key of its table still has. -/

namespace Schemata

/-! ## What changes refer to -/

namespace Database

/-- Whether one of some changes adds a column to a table. -/
def AddsColumn (changes : List Change) (table column : String) : Prop :=
  ∃ c ∈ changes, c.target.table = table ∧ c.action.AddsColumn column

/-- Whether one of some changes creates a table. -/
def CreatesTable (changes : List Change) (table : String) : Prop :=
  ∃ c ∈ changes, c.IsAbout table .creation

/-- Whether one of some changes drops a foreign key of a table, or the table with it. -/
def DropsForeignKey (changes : List Change) (table key : String) : Prop :=
  ∃ c ∈ changes, c.target.table = table
    ∧ (c.action = .foreignKeyDropped key ∨ c.action.item = .removal)

instance (changes : List Change) (table column : String) :
    Decidable (AddsColumn changes table column) :=
  inferInstanceAs (Decidable (∃ c ∈ changes, c.target.table = table ∧ c.action.AddsColumn column))

instance (changes : List Change) (table : String) : Decidable (CreatesTable changes table) :=
  inferInstanceAs (Decidable (∃ c ∈ changes, c.target.table = table ∧ c.action.item = .creation))

instance (changes : List Change) (table key : String) :
    Decidable (DropsForeignKey changes table key) :=
  inferInstanceAs (Decidable (∃ c ∈ changes, c.target.table = table
    ∧ (c.action = .foreignKeyDropped key ∨ c.action.item = .removal)))

/-- Whether a table is there, with columns of given names: each is there, or a later change adds
it. -/
def HasColumns (db : Database) (later : List Change) (table : String) (columns : List String) :
    Prop :=
  ∃ t ∈ db.table? table, ∀ column ∈ columns,
    column ∈ t.columnNames ∨ AddsColumn later table column

instance (db : Database) (later : List Change) (table : String) (columns : List String) :
    Decidable (db.HasColumns later table columns) :=
  inferInstanceAs (Decidable (∃ t ∈ db.table? table, ∀ column ∈ columns,
    column ∈ t.columnNames ∨ AddsColumn later table column))

/-- Whether a foreign key of a table joins columns that are there, those of the table and those of
the table that it refers to; or later changes bring what is not there. -/
def HasLinks (db : Database) (later : List Change) (table : String) (key : ForeignKey) : Prop :=
  db.HasColumns later table key.sourceKeys
    ∧ (db.HasColumns later key.target key.targetKeys ∨ CreatesTable later key.target)

instance (db : Database) (later : List Change) (table : String) (key : ForeignKey) :
    Decidable (db.HasLinks later table key) :=
  inferInstanceAs (Decidable (_ ∧ _))

/-- Whether a database is ready for a change that others follow. A new key needs its columns, and a
new foreign key also the table that it refers to; a created table brings its keys with it. No column
may go that a key of its table has, and no table that a foreign key of another table refers to. What
is not so yet is made up for by the changes that follow; where none do, it has to be so. -/
def Ready (db : Database) (c : Change) (later : List Change) : Prop :=
  match c.action with
  | .primaryKeyAdded columns => db.HasColumns later c.target.table columns
  | .shardKeyAdded key => db.HasColumns later c.target.table key.columns
  | .foreignKeyAdded key => db.HasLinks later c.target.table key
  | .tableCreated t =>
      (db.addTable t).HasColumns [] t.name t.primaryKey
        ∧ (∀ key ∈ t.shardKey, (db.addTable t).HasColumns [] t.name key.columns)
        ∧ ∀ key ∈ t.foreignKeys.toList, (db.addTable t).HasLinks later t.name key
  | .columnDropped column =>
      ∃ t ∈ db.table? c.target.table, column.name ∉ t.primaryKey
        ∧ ∀ key ∈ t.shardKey, column.name ∉ key.columns
  | .tableDropped _ =>
      ∀ u ∈ db.tables.toList, u.name ≠ c.target.table → ∀ key ∈ u.foreignKeys.toList,
        key.target = c.target.table → DropsForeignKey later u.name key.name
  | _ => True

instance (db : Database) (c : Change) (later : List Change) : Decidable (db.Ready c later) :=
  match c with
  | ⟨target, .primaryKeyAdded columns⟩ =>
      inferInstanceAs (Decidable (db.HasColumns later target.table columns))
  | ⟨target, .shardKeyAdded key⟩ =>
      inferInstanceAs (Decidable (db.HasColumns later target.table key.columns))
  | ⟨target, .foreignKeyAdded key⟩ =>
      inferInstanceAs (Decidable (db.HasLinks later target.table key))
  | ⟨_, .tableCreated t⟩ =>
      inferInstanceAs (Decidable (_ ∧ (∀ key ∈ t.shardKey, _) ∧ ∀ key ∈ t.foreignKeys.toList, _))
  | ⟨target, .columnDropped column⟩ =>
      inferInstanceAs (Decidable (∃ t ∈ db.table? target.table, column.name ∉ t.primaryKey
        ∧ ∀ key ∈ t.shardKey, column.name ∉ key.columns))
  | ⟨target, .tableDropped _⟩ =>
      inferInstanceAs (Decidable (∀ u ∈ db.tables.toList, u.name ≠ target.table →
        ∀ key ∈ u.foreignKeys.toList, key.target = target.table →
          DropsForeignKey later u.name key.name))
  | ⟨_, .primaryKeyDropped⟩ | ⟨_, .shardKeyDropped⟩ | ⟨_, .foreignKeyDropped _⟩
  | ⟨_, .relationshipAdded _⟩ | ⟨_, .relationshipDropped _⟩ | ⟨_, .columnAdded _⟩
  | ⟨_, .columnModified _⟩ => instDecidableTrue

end Database

/-! ## What agreement and coherence say about columns -/

/-- Tables that agree have the same columns. -/
theorem Table.Agrees.mem_columnNames_iff {a b : Table} (h : a.Agrees b) (column : String) :
    column ∈ a.columnNames ↔ column ∈ b.columnNames := by
  rw [columnNames, columnNames, ← Catalog.contains_iff, ← Catalog.contains_iff, Catalog.contains,
    Catalog.contains, ← Option.isSome_map (f := fun c : Column => c.type), h.columns column,
    Option.isSome_map]

/-! ## What actions add and drop -/

namespace ChangeAction

/-- The primary key that is added is that of the second table. -/
theorem eq_of_primaryKeyAdded_mem {a b : Table} {columns : List String}
    (h : .primaryKeyAdded columns ∈ ofTables a b) : columns = b.primaryKey := by
  have hmem : .primaryKeyAdded columns ∈ ofPrimaryKeys a.primaryKey b.primaryKey :=
    (mem_ofTables_iff a b _).1 h
  unfold ofPrimaryKeys at hmem
  split at hmem
  · cases hmem
  · split at hmem
    · simpa using hmem
    · split at hmem
      · simp at hmem
      · simpa using hmem

/-- The shard key that is added is that of the second table. -/
theorem eq_of_shardKeyAdded_mem {a b : Table} {key : ShardKey}
    (h : .shardKeyAdded key ∈ ofTables a b) : b.shardKey = some key := by
  have hmem : .shardKeyAdded key ∈ ofShardKeys a.shardKey b.shardKey :=
    (mem_ofTables_iff a b _).1 h
  unfold ofShardKeys at hmem
  split at hmem
  · cases hmem
  · simp_all
  · simp at hmem
  · split at hmem <;> simp_all

/-- A column that is dropped is not in the second table. -/
theorem not_mem_of_columnDropped_mem {a b : Table} {x : Column}
    (h : .columnDropped x ∈ ofTables a b) : x.name ∉ b.columnNames := by
  have hmem : .columnDropped x ∈ (a.columns.pair b.columns).flatMap ofColumns :=
    (mem_ofTables_iff a b _).1 h
  obtain ⟨p, hp, hmem⟩ := List.mem_flatMap.1 hmem
  obtain ⟨-, hright⟩ := (Catalog.mem_pair_iff _ _ _).1 hp
  cases p with
  | first y =>
      cases List.mem_singleton.1 hmem
      exact (Catalog.get?_eq_none_iff _ _).1 hright
  | second y => cases List.mem_singleton.1 hmem
  | both y z =>
      rw [ofColumns, ofPairing] at hmem
      split at hmem
      · cases hmem
      · cases List.mem_singleton.1 hmem

end ChangeAction

/-! ## In the middle of a script -/

namespace Database

variable {db₁ db₂ : Database}

/-- No change creates a table of a name that the first database has. -/
theorem not_creates_of_found {changes : List Change} (hsub : ∀ c ∈ changes, c ∈ db₁.changesTo db₂)
    {table : String} {t : Table} (found : db₁.table? table = some t) :
    ¬ CreatesTable changes table := by
  rintro ⟨c, hc, habout⟩
  have hdiff := (exists_mem_changesTo_iff db₁ db₂ table .creation).1 ⟨c, hsub c hc, habout⟩
  exact hdiff.1 ((mem_tableNames_iff _ _).2 ⟨t, found⟩)

/-- No change is about the removal of a table that the second database has. -/
theorem ne_removal_of_found {c : Change} (hc : c ∈ db₁.changesTo db₂) {t : Table}
    (found : db₂.table? c.target.table = some t) : c.action.item ≠ .removal := by
  intro hitem
  have hdiff := (exists_mem_changesTo_iff db₁ db₂ c.target.table .removal).1 ⟨c, hc, rfl, hitem⟩
  exact hdiff.2 ((mem_tableNames_iff _ _).2 ⟨t, found⟩)

/-- On the way to a database that agrees with the second, a table of this is there with its columns
unless later changes create the one or add the others. -/
theorem hasColumns_of_replay? {later : List Change} (hsub : ∀ c ∈ later, c ∈ db₁.changesTo db₂)
    {db last : Database} (hrun : db.replay? later = some last) (hagrees : last.Agrees db₂)
    {table : String} {t₂ : Table} (found : db₂.table? table = some t₂)
    (hcreates : ¬ CreatesTable later table) {columns : List String}
    (hcolumns : ∀ column ∈ columns, column ∈ t₂.columnNames) :
    db.HasColumns later table columns := by
  have hkind : ∀ c ∈ later, c.target.table = table → c.action.item ≠ .removal
      ∧ ∀ column, c.action.AddsColumn column → AddsColumn later table column := by
    rintro c hc rfl
    exact ⟨ne_removal_of_found (hsub c hc) found, fun column hadds => ⟨c, hc, rfl, hadds⟩⟩
  -- Going back, a column gets lost only where a change has added it.
  have hrel := rel_of_replay?
    (r := fun t u => ∀ column ∈ u.columnNames, column ∈ t.columnNames
      ∨ AddsColumn later table column)
    (p := fun action => ∀ column, action.AddsColumn column → AddsColumn later table column)
    (fun _ _ h => .inl h)
    (fun _ _ _ htu huv column h => (huv column h).elim (htu column) .inr)
    (fun t u action hadds hact column hcolumn => by
      by_cases h : AddsColumn later table column
      · exact .inr h
      · exact .inl (Table.column_of_act? hact hcolumn fun hx => h (hadds column hx)))
    hkind (fun _ c hc htable hitem => hcreates ⟨c, hc, htable, hitem⟩) hrun
  obtain ⟨t', ht', hagree⟩ := hagrees.exists_table? found
  rw [ht'] at hrel
  cases ht : db.table? table with
  | none => simp [ht] at hrel
  | some t =>
      rw [ht, Option.rel_some_some] at hrel
      refine ⟨t, ht, fun column hcolumn => hrel column ?_⟩
      exact (hagree.mem_columnNames_iff column).2 (hcolumns column hcolumn)

/-- A comparison in the middle of being replayed: a database, the change that it comes to next, and
the changes after this. -/
structure Midway (db₁ db₂ db : Database) (c : Change) (later : List Change) : Prop where
  /-- The changes are among those of the comparison. -/
  mem : ∀ d ∈ c :: later, d ∈ db₁.changesTo db₂
  /-- The changes for the same table are of the same section or of a later one. -/
  rank : ∀ d ∈ later, c.target.table = d.target.table → c.action.item.rank ≤ d.action.item.rank
  /-- The changes lead to a database that agrees with the second. -/
  run : ∃ last, db.replay? (c :: later) = some last ∧ last.Agrees db₂

namespace Midway

variable {db : Database} {c : Change} {later : List Change}

/-- Before a change that neither creates a table nor adds a column, a table of the second database
is there with its columns unless later changes create the one or add the others. -/
theorem hasColumns_or_creates (h : Midway db₁ db₂ db c later)
    (hcreation : c.action.item ≠ .creation) (hcolumn : ∀ column, ¬ c.action.AddsColumn column)
    {table : String} {t₂ : Table} (found : db₂.table? table = some t₂) {columns : List String}
    (hcolumns : ∀ column ∈ columns, column ∈ t₂.columnNames) :
    db.HasColumns later table columns ∨ CreatesTable later table := by
  by_cases hcreates : CreatesTable (c :: later) table
  · obtain ⟨d, hd, htable, hitem⟩ := hcreates
    rcases List.mem_cons.1 hd with rfl | hd
    · exact absurd hitem hcreation
    · exact .inr ⟨d, hd, htable, hitem⟩
  · obtain ⟨last, hrun, hagrees⟩ := h.run
    obtain ⟨t, ht, hall⟩ := hasColumns_of_replay? h.mem hrun hagrees found hcreates hcolumns
    -- The change itself adds no column, so one that does comes after it.
    refine .inl ⟨t, ht, fun column hmem => (hall column hmem).imp_right ?_⟩
    rintro ⟨d, hd, htable, hadds⟩
    rcases List.mem_cons.1 hd with rfl | hd
    · exact absurd hadds (hcolumn column)
    · exact ⟨d, hd, htable, hadds⟩

/-- Before a change to a table of both databases that neither creates a table nor adds a column, the
table is there with its columns unless later changes add these. -/
theorem hasColumns (h : Midway db₁ db₂ db c later)
    (hcreation : c.action.item ≠ .creation) (hcolumn : ∀ column, ¬ c.action.AddsColumn column)
    {table : String} {t₁ t₂ : Table} (found₁ : db₁.table? table = some t₁)
    (found₂ : db₂.table? table = some t₂) {columns : List String}
    (hcolumns : ∀ column ∈ columns, column ∈ t₂.columnNames) :
    db.HasColumns later table columns :=
  (h.hasColumns_or_creates hcreation hcolumn found₂ hcolumns).resolve_right
    (not_creates_of_found (fun d hd => h.mem d (List.mem_cons_of_mem _ hd)) found₁)

/-- Before a foreign key of a coherent table is added, the columns that it joins are there unless
later changes add them. -/
theorem hasLinks (h : Midway db₁ db₂ db c later) {key : ForeignKey}
    (haction : c.action = .foreignKeyAdded key) {t₁ t₂ : Table}
    (found₁ : db₁.table? c.target.table = some t₁) (found₂ : db₂.table? c.target.table = some t₂)
    (hkey : key ∈ t₂.foreignKeys.toList) (hcoherent : db₂.Coherent t₂) :
    db.HasLinks later c.target.table key := by
  have hcreation : c.action.item ≠ .creation := by simp [haction, ChangeAction.item]
  have hcolumn : ∀ column, ¬ c.action.AddsColumn column := by
    simp [haction, ChangeAction.AddsColumn]
  obtain ⟨target, htarget, hfits⟩ := hcoherent.foreignKeys key hkey
  exact ⟨h.hasColumns hcreation hcolumn found₁ found₂ hfits.source_mem,
    h.hasColumns_or_creates hcreation hcolumn htarget hfits.target_mem⟩

/-- When a column goes, the keys of its table are those of the second database already. -/
theorem keys_eq_of_columnDropped (h : Midway db₁ db₂ db c later) {x : Column}
    (haction : c.action = .columnDropped x) {t₂ : Table}
    (found₂ : db₂.table? c.target.table = some t₂) :
    ∃ t, db.table? c.target.table = some t ∧ t.primaryKey = t₂.primaryKey
      ∧ t.shardKey = t₂.shardKey := by
  -- Columns are the last section, so all that is still to come for the table is about columns.
  have hrank : ∀ d ∈ c :: later, d.target.table = c.target.table → d.action.item.rank = 5 := by
    intro d hd htable
    have hc : c.action.item.rank = 5 := by rw [haction]; rfl
    rcases List.mem_cons.1 hd with rfl | hd
    · exact hc
    · exact Nat.le_antisymm d.action.item.rank_le (hc ▸ h.rank d hd htable.symm)
  obtain ⟨last, hrun, hagrees⟩ := h.run
  have hrel := rel_of_replay?
    (r := fun t u => t.primaryKey = u.primaryKey ∧ t.shardKey = u.shardKey)
    (p := fun action => action.item.rank = 5) (fun _ => ⟨rfl, rfl⟩)
    (fun _ _ _ htu huv => ⟨htu.1.trans huv.1, htu.2.trans huv.2⟩)
    (fun t u action hp hact => by
      have hsame := Table.sameBut_of_act? hact
      exact ⟨(hsame.primaryKey (by omega)).symm, (hsame.shardKey (by omega)).symm⟩)
    (fun d hd htable => ⟨fun hitem => by simpa [hitem, Item.rank] using hrank d hd htable,
      hrank d hd htable⟩)
    (fun _ d hd htable hitem => by simpa [hitem, Item.rank] using hrank d hd htable) hrun
  obtain ⟨u, hu, hagree⟩ := hagrees.exists_table? found₂
  rw [hu] at hrel
  cases ht : db.table? c.target.table with
  | none => simp [ht] at hrel
  | some t =>
      rw [ht, Option.rel_some_some] at hrel
      exact ⟨t, rfl, hrel.1.trans hagree.primaryKey, hrel.2.trans hagree.shardKey⟩

/-- A foreign key that the second database does not have goes with its table or on its own. -/
theorem dropsForeignKey (h : Midway db₁ db₂ db c later) {t : Table} {key : ForeignKey}
    (found : db.table? t.name = some t) (hkey : t.foreignKeys.get? key.name = some key)
    (hgone : ∀ t₂ key₂, db₂.table? t.name = some t₂ → t₂.foreignKeys.get? key.name = some key₂ →
      key.same key₂ = false) :
    DropsForeignKey (c :: later) t.name key.name := by
  apply Classical.byContradiction
  intro hnot
  have hkind : ∀ d ∈ c :: later, d.target.table = t.name →
      d.action.item ≠ .removal ∧ d.action ≠ .foreignKeyDropped key.name := fun d hd htable =>
    ⟨fun hitem => hnot ⟨d, hd, htable, .inr hitem⟩,
      fun haction => hnot ⟨d, hd, htable, .inl haction⟩⟩
  obtain ⟨last, hrun, hagrees⟩ := h.run
  have hrel := rel_of_replay?
    (r := fun t u => t.foreignKeys.get? key.name = some key →
      u.foreignKeys.get? key.name = some key)
    (p := fun action => action ≠ .foreignKeyDropped key.name) (fun _ => id)
    (fun _ _ _ htu huv => huv ∘ htu)
    (fun t u action hp hact hkey => Table.foreignKey_of_act? hact hkey hp) hkind
    (fun hnone => by simp [found] at hnone) hrun
  rw [found] at hrel
  cases hu : last.table? t.name with
  | none => simp [hu] at hrel
  | some u =>
      rw [hu, Option.rel_some_some] at hrel
      obtain ⟨t₂, ht₂⟩ := (mem_tableNames_iff _ _).1
        ((hagrees.names t.name).1 ((mem_tableNames_iff _ _).2 ⟨u, hu⟩))
      -- The key would still be there at the end, and so in the second database.
      have hsame := (hagrees.tables t.name u t₂ hu ht₂).foreignKeys key.name
      rw [hrel hkey] at hsame
      cases hkey₂ : t₂.foreignKeys.get? key.name with
      | none => simp [hkey₂] at hsame
      | some key₂ =>
          rw [hkey₂, Option.rel_some_some, hgone t₂ key₂ ht₂ hkey₂] at hsame
          cases hsame

/-- A database in the middle of a script for a coherent one is ready for a change to a table of
both. -/
theorem ready_of_both (h : Midway db₁ db₂ db c later) {t₁ t₂ : Table} {action : ChangeAction}
    (hc : c = ⟨db₁.place t₁, action⟩) (hmem : action ∈ ChangeAction.ofTables t₁ t₂)
    (found₁ : db₁.table? t₁.name = some t₁) (found₂ : db₂.table? t₁.name = some t₂)
    (hcoherent : db₂.Coherent t₂) : db.Ready c later := by
  subst hc
  cases action with
  | tableCreated t => exact ((ChangeAction.mem_ofTables_iff t₁ t₂ _).1 hmem).elim
  | tableDropped t => exact ((ChangeAction.mem_ofTables_iff t₁ t₂ _).1 hmem).elim
  | primaryKeyAdded columns =>
      obtain rfl := ChangeAction.eq_of_primaryKeyAdded_mem hmem
      exact h.hasColumns nofun nofun found₁ found₂ hcoherent.primaryKey
  | shardKeyAdded key =>
      have hkey := ChangeAction.eq_of_shardKeyAdded_mem hmem
      exact h.hasColumns nofun nofun found₁ found₂ fun column hcolumn =>
        (hcoherent.shardKey key hkey column hcolumn).1
  | foreignKeyAdded key =>
      obtain ⟨hkey, -⟩ := (ChangeAction.foreignKeyAdded_mem_ofTables_iff t₁ t₂ key).1 hmem
      exact h.hasLinks rfl found₁ found₂ (Catalog.mem_of_get? hkey) hcoherent
  | columnDropped x =>
      have hgone := ChangeAction.not_mem_of_columnDropped_mem hmem
      obtain ⟨t, ht, hprimary, hshard⟩ := h.keys_eq_of_columnDropped rfl found₂
      refine ⟨t, ht, fun hx => ?_, fun key hkey hx => ?_⟩
      · exact hgone (hcoherent.primaryKey _ (hprimary ▸ hx))
      · exact hgone (hcoherent.shardKey key (hshard ▸ hkey) _ hx).1
  | _ => trivial

/-- A database in the middle of a script for a coherent one is ready for the creation of a table. -/
theorem ready_of_created (h : Midway db₁ db₂ db c later) {t : Table}
    (hc : c = ⟨db₁.place t, .tableCreated t⟩) (hcoherent : db₂.Coherent t) : db.Ready c later := by
  subst hc
  have hthere : (db.addTable t).table? t.name = some t := by rw [table?_addTable, if_pos rfl]
  have hown : ∀ {changes : List Change} {columns : List String},
      (∀ column ∈ columns, column ∈ t.columnNames) →
        (db.addTable t).HasColumns changes t.name columns :=
    fun hcolumns => ⟨t, hthere, fun column hcolumn => .inl (hcolumns column hcolumn)⟩
  -- The run goes on from the database with the new table, so this is the one to look back at.
  obtain ⟨last, hrun, hagrees⟩ := h.run
  obtain ⟨next, hstep, hrun⟩ := Option.bind_eq_some_iff.1 hrun
  simp only [change?] at hstep
  split at hstep
  · cases hstep
    refine ⟨hown hcoherent.primaryKey, fun key hkey => hown fun column hcolumn =>
      (hcoherent.shardKey key hkey column hcolumn).1, fun key hkey => ?_⟩
    obtain ⟨target, htarget, hfits⟩ := hcoherent.foreignKeys key hkey
    refine ⟨hown hfits.source_mem, ?_⟩
    by_cases hcreates : CreatesTable later key.target
    · exact .inr hcreates
    · exact .inl (hasColumns_of_replay? (fun d hd => h.mem d (List.mem_cons_of_mem _ hd)) hrun
        hagrees htarget hcreates hfits.target_mem)
  · cases hstep

/-- A database in the middle of a script for a coherent one is ready for the removal of a table. -/
theorem ready_of_dropped (h : Midway db₁ db₂ db c later) {t : Table}
    (hc : c = ⟨db₁.place t, .tableDropped t⟩) (gone : db₂.table? t.name = none)
    (hcoherent : ∀ t ∈ db₂.tables.toList, db₂.Coherent t) : db.Ready c later := by
  subst hc
  intro u hu hne key hkey htarget
  have found : db.table? u.name = some u := Catalog.get?_of_mem hu
  have hfound : u.foreignKeys.get? key.name = some key := Catalog.get?_of_mem hkey
  obtain ⟨d, hd, htable, hdrops⟩ := h.dropsForeignKey found hfound fun t₂ key₂ ht₂ hkey₂ => by
    -- A key that is the same refers to the same table, which the second database does not have.
    apply Bool.eq_false_iff.2
    intro hsame
    have hkeys : key.target = key₂.target := by
      simp only [ForeignKey.same, Bool.and_eq_true, beq_iff_eq] at hsame
      grind
    have hlinks := (hcoherent t₂ (Catalog.mem_of_get? ht₂)).foreignKeys
    obtain ⟨target, found₂, -⟩ := hlinks key₂ (Catalog.mem_of_get? hkey₂)
    rw [← hkeys, htarget] at found₂
    cases gone.symm.trans found₂
  rcases List.mem_cons.1 hd with rfl | hd
  · exact absurd htable.symm hne
  · exact ⟨d, hd, htable, hdrops⟩

end Midway

/-- The changes of a comparison lead to a database that agrees with the second. -/
theorem exists_replay?_agrees (db₁ db₂ : Database) (h₂ : db₂.Built) :
    ∃ last, db₁.replay? (db₁.changesTo db₂) = some last ∧ last.Agrees db₂ := by
  obtain ⟨last, hrun, -, hall⟩ := exists_replay?_settled db₁ db₂ h₂
  refine ⟨last, by rwa [compare_eq] at hrun, agrees_of_rel fun table => ?_⟩
  rcases hall table with ⟨p, -, hright, hp⟩ | ⟨-, hnone, h⟩
  · rw [hright]
    exact hp.rel
  · rw [h, hnone]
    exact .none

/-- **Every change finds what it refers to, or the script still brings it.** Made in their order,
the changes for the first database are always made at a moment when it is ready for them, given
that the second database is valid: what a new key refers to is there or is added by a later change,
a foreign key to a table that goes is dropped by a later change unless it has gone already, and no
column goes that is in the primary key or the shard key of its table. -/
theorem compare_ready (db₁ db₂ : Database) (h₂ : db₂.Built) (hvalid : db₂.validate.isValid = true)
    (before : List Change) (c : Change) (later : List Change)
    (hscript : (db₁.compare db₂).first = before ++ c :: later) :
    ∃ db, db₁.replay? before = some db ∧ db.Ready c later := by
  have hchanges : db₁.changesTo db₂ = before ++ c :: later := by rwa [compare_eq] at hscript
  have hcoherent : ∀ t ∈ db₂.tables.toList, db₂.Coherent t := fun t ht =>
    ((isValid_validate_iff_coherent db₂).1 hvalid t ht).2
  obtain ⟨last, hrun, hagrees⟩ := exists_replay?_agrees db₁ db₂ h₂
  rw [hchanges, replay?, List.foldlM_append] at hrun
  obtain ⟨db, hbefore, hrun⟩ := Option.bind_eq_some_iff.1 hrun
  have hmidway : Midway db₁ db₂ db c later := {
    mem := fun d hd => hchanges ▸ List.mem_append_right before hd
    rank := by
      have hpairwise := pairwise_rank_changesTo db₁ db₂
      rw [hchanges] at hpairwise
      exact fun d hd => List.rel_of_pairwise_cons (List.pairwise_append.1 hpairwise).2.1 hd
    run := ⟨last, hrun, hagrees⟩ }
  refine ⟨db, hbefore, ?_⟩
  rcases mem_changesTo_cases (hmidway.mem c List.mem_cons_self) with
    ⟨t, hc, -, gone⟩ | ⟨t, hc, -, found₂⟩ | ⟨t₁, t₂, action, hmem, hc, found₁, found₂⟩
  · exact hmidway.ready_of_dropped hc gone hcoherent
  · exact hmidway.ready_of_created hc (hcoherent t (Catalog.mem_of_get? found₂))
  · exact hmidway.ready_of_both hc hmem found₁ found₂
      (hcoherent t₂ (Catalog.mem_of_get? found₂))

end Database

/-! ## A script that runs ahead of itself -/

namespace Shop

open Database

/-- A shop before it moves its stock to shelves: an order belongs to an account. -/
def old : Database :=
  (⟨"old", .empty, .empty⟩ : Database).run [
    .addTable "accounts" "shop" [.addColumn "id" "INT", .setPrimaryKey (.one "id")],
    .addTable "orders" "shop"
      [.addColumn "item" "INT", .referTo (.one "item") "accounts" (.one "id") (some "owner")],
    .addTable "stock" "shop" [.addColumn "item" "INT", .setPrimaryKey (.one "item")]]

/-- The shop after that: an order names a part and a shelf, and there are no accounts. -/
def new : Database :=
  (⟨"new", .empty, .empty⟩ : Database).run [
    .addTable "orders" "shop"
      [.addColumn "item" "INT", .addColumn "shelf" "INT", .setPrimaryKey (.one "shelf"),
        .setShardKey (.one "shelf") 2, .referTo (.one "item") "parts" (.one "id") (some "part"),
        .referTo (.one "shelf") "stock" (.one "shelf") (some "place")],
    .addTable "parts" "shop" [.addColumn "id" "INT", .setPrimaryKey (.one "id")],
    .addTable "stock" "shop"
      [.addColumn "item" "INT", .addColumn "shelf" "INT", .setPrimaryKey (.one "shelf")]]

/-- The place of a table of the old shop. -/
def place (table : String) : TableRef := ⟨"old", "shop", table⟩

/-- A table whose rows have an identifier. -/
def keyed (table : String) : Table :=
  ⟨table, "shop", ["id"], none, Catalog.empty.insert ⟨"id", .int⟩, .empty, .empty⟩

/-- The changes that lead from the old shop to the new one. -/
def script : List Change := [
  ⟨place "accounts", .tableDropped (keyed "accounts")⟩,
  ⟨place "orders", .primaryKeyAdded ["shelf"]⟩,
  ⟨place "orders", .shardKeyAdded ⟨["shelf"], 2⟩⟩,
  ⟨place "orders", .foreignKeyDropped "owner"⟩,
  ⟨place "orders", .foreignKeyAdded ⟨"part", "orders", ["item"], "parts", ["id"]⟩⟩,
  ⟨place "orders", .foreignKeyAdded ⟨"place", "orders", ["shelf"], "stock", ["shelf"]⟩⟩,
  ⟨place "orders", .columnAdded ⟨"shelf", .int⟩⟩,
  ⟨place "parts", .tableCreated (keyed "parts")⟩,
  ⟨place "stock", .primaryKeyDropped⟩,
  ⟨place "stock", .primaryKeyAdded ["shelf"]⟩,
  ⟨place "stock", .columnAdded ⟨"shelf", .int⟩⟩]

/-- Both shops have a history. -/
theorem built : old.Built ∧ new.Built := by
  have hold : Database.make "old" = .ok ⟨"old", .empty, .empty⟩ := rfl
  have hnew : Database.make "new" = .ok ⟨"new", .empty, .empty⟩ := rfl
  exact ⟨(Built.make hold).run _, (Built.make hnew).run _⟩

/-- Both shops are valid. -/
theorem valid : old.validate.isValid = true ∧ new.validate.isValid = true := by decide +kernel

/-- The script is what the comparison lists for the old shop. -/
theorem first_compare : (old.compare new).first = script := by
  have hpair : old.tables.pair new.tables = Pairing.merge old.tables.toList new.tables.toList :=
    Catalog.pair_eq_merge (by decide +kernel) (by decide +kernel)
  have hold : old.tables.toList = [keyed "accounts",
    ⟨"orders", "shop", [], none, Catalog.empty.insert ⟨"item", .int⟩,
      Catalog.empty.insert ⟨"owner", "orders", ["item"], "accounts", ["id"]⟩, .empty⟩,
    ⟨"stock", "shop", ["item"], none, Catalog.empty.insert ⟨"item", .int⟩, .empty, .empty⟩] := rfl
  have hnew : new.tables.toList = [
    ⟨"orders", "shop", ["shelf"], some ⟨["shelf"], 2⟩,
      (Catalog.empty.insert ⟨"item", .int⟩).insert ⟨"shelf", .int⟩,
      (Catalog.empty.insert ⟨"part", "orders", ["item"], "parts", ["id"]⟩).insert
        ⟨"place", "orders", ["shelf"], "stock", ["shelf"]⟩, .empty⟩,
    keyed "parts",
    ⟨"stock", "shop", ["shelf"], none,
      (Catalog.empty.insert ⟨"item", .int⟩).insert ⟨"shelf", .int⟩, .empty, .empty⟩] := rfl
  rw [compare_eq]
  show old.changesTo new = script
  rw [changesTo, hpair, hold, hnew]
  -- Catalogs that are sorted already are merged as they are; all else is computed.
  simp (disch := decide +kernel) only [Catalog.pair_eq_merge, Pairing.merge, Catalog.toList_insert,
    Catalog.toList_empty, putNamed, Table.named_eq, Column.named_eq, ForeignKey.named_eq, keyed,
    String.reduceEq, String.reduceLT, String.lt_irrefl, ↓reduceIte, List.map_nil, List.map_cons,
    List.flatMap_nil, List.flatMap_cons, changesFor, ChangeAction.ofTables]
  rfl

/-- The old shop is not ready for six of the changes when it comes to them, if what is missing is
not to come later: the accounts go while orders refer to them, and keys are added before their
columns or the table of the parts are there. -/
theorem first_compare_not_ready :
    old.Built ∧ new.Built ∧ old.validate.isValid = true ∧ new.validate.isValid = true
      ∧ ∀ n ∈ [0, 1, 2, 4, 5, 9], ∃ db c, old.replay? ((old.compare new).first.take n) = some db
        ∧ (old.compare new).first[n]? = some c ∧ ¬ db.Ready c [] := by
  refine ⟨built.1, built.2, valid.1, valid.2, fun n hn => ?_⟩
  rw [first_compare]
  simp only [List.mem_cons, List.not_mem_nil, or_false] at hn
  rcases hn with rfl | rfl | rfl | rfl | rfl | rfl <;>
    exact ⟨_, _, rfl, rfl, by decide +kernel⟩

/-- The primary key of the orders comes before its column, which the script adds later. -/
theorem compare_ready_shop :
    new.Built ∧ new.validate.isValid = true
      ∧ (old.compare new).first
        = script.take 1 ++ ⟨place "orders", .primaryKeyAdded ["shelf"]⟩ :: script.drop 2
      ∧ ∃ db, old.replay? (script.take 1) = some db
        ∧ db.Ready ⟨place "orders", .primaryKeyAdded ["shelf"]⟩ (script.drop 2) :=
  ⟨built.2, valid.2, first_compare,
    compare_ready old new built.2 valid.2 (script.take 1) _ (script.drop 2) first_compare⟩

end Shop

end Schemata
