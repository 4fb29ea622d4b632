import Schemata.Proofs.Order
import Schemata.Proofs.Replay

/-! # What a replayed change leaves alone

An action that fits changes one section of its table, and a change that fits changes one table. What
a run of changes does to the table of a given name is therefore told by the actions that it makes
there: every reflexive and transitive relation that these keep holds between the table that the run
finds and the one that it leaves. -/

namespace Schemata

/-! ## Catalogs -/

namespace Catalog

variable {α : Type} [Named α] {c d : Catalog α}

/-- What is there stays there when a thing is added, as the name of this was free. -/
theorem get?_of_add? {x y : α} {key : String} (h : c.add? x = some d) (hy : c.get? key = some y) :
    d.get? key = some y := by
  rw [add?] at h
  split at h
  · cases h
  · rename_i hfree
    cases h
    have hne : Named.name x ≠ key := by
      rintro rfl
      simp [contains, hy] at hfree
    rw [get?_insert, if_neg hne, hy]

/-- What is there stays there when another name is dropped. -/
theorem get?_of_drop? {key other : String} (h : c.drop? other = some d) (hne : other ≠ key) :
    d.get? key = c.get? key := by
  rw [drop?] at h
  split at h
  · cases h
    rw [get?_erase, if_neg hne]
  · cases h

/-- A name is new only where a thing of that name is added. -/
theorem mem_names_of_add? {x : α} {key : String} (h : c.add? x = some d) (hkey : key ∈ d.names)
    (hne : key ≠ Named.name x) : key ∈ c.names := by
  rw [add?] at h
  split at h
  · cases h
  · cases h
    rw [names_insert] at hkey
    split at hkey
    · exact hkey
    · rw [List.mem_append, List.mem_singleton] at hkey
      exact hkey.resolve_right hne

/-- No name is new where one is dropped. -/
theorem mem_names_of_drop? {key other : String} (h : c.drop? other = some d)
    (hkey : key ∈ d.names) : key ∈ c.names := by
  rw [drop?] at h
  split at h
  · cases h
    rw [names_erase] at hkey
    exact (List.mem_filter.1 hkey).1
  · cases h

/-- No name is new where a member is replaced. -/
theorem mem_names_of_replace? {x : α} {key : String} (h : c.replace? x = some d)
    (hkey : key ∈ d.names) : key ∈ c.names := by
  rw [replace?] at h
  split at h
  · rename_i hthere
    cases h
    rwa [names_insert, if_pos ((contains_iff _ _).1 hthere)] at hkey
  · cases h

end Catalog

/-! ## Tables -/

/-- Whether an action adds a column. -/
def ChangeAction.AddsColumn (column : String) : ChangeAction → Prop
  | .columnAdded x => x.name = column
  | _ => False

instance (column : String) (action : ChangeAction) : Decidable (action.AddsColumn column) :=
  match action with
  | .columnAdded x => inferInstanceAs (Decidable (x.name = column))
  | .tableCreated _ | .tableDropped _ | .primaryKeyAdded _ | .primaryKeyDropped | .shardKeyAdded _
  | .shardKeyDropped | .foreignKeyAdded _ | .foreignKeyDropped _ | .relationshipAdded _
  | .relationshipDropped _ | .columnDropped _ | .columnModified _ => instDecidableFalse

namespace Table

/-- Two tables differ at most in the section of a given place. -/
structure SameBut (n : Nat) (t t' : Table) : Prop where
  /-- The primary key is the first section of a table. -/
  primaryKey : n ≠ 1 → t'.primaryKey = t.primaryKey
  /-- The shard key follows. -/
  shardKey : n ≠ 2 → t'.shardKey = t.shardKey
  /-- The foreign keys follow. -/
  foreignKeys : n ≠ 3 → t'.foreignKeys = t.foreignKeys
  /-- The relationships follow. -/
  relationships : n ≠ 4 → t'.relationships = t.relationships
  /-- The columns are the last section. -/
  columns : n ≠ 5 → t'.columns = t.columns

/-- A primary key that is set is all that changes. -/
theorem sameBut_of_setPrimaryKey {t t' : Table} {key : KeyColumns}
    (h : (t.setPrimaryKey key).toOption = some t') : SameBut 1 t t' := by
  cases hkey : t.setPrimaryKey key with
  | error _ => simp [hkey, Except.toOption] at h
  | ok u =>
      obtain ⟨-, rfl⟩ := (setPrimaryKey_eq_ok_iff _ _ _).1 hkey
      rw [hkey] at h
      cases h
      exact ⟨fun hne => absurd rfl hne, fun _ => rfl, fun _ => rfl, fun _ => rfl, fun _ => rfl⟩

/-- An action that fits changes no section of the table but its own. -/
theorem sameBut_of_act? {t t' : Table} {action : ChangeAction} (h : t.act? action = some t') :
    SameBut action.item.rank t t' := by
  cases action with
  | tableCreated _ => cases h
  | tableDropped _ => cases h
  | primaryKeyAdded columns =>
      simp only [act?] at h
      split at h
      · exact sameBut_of_setPrimaryKey h
      · cases h
  | primaryKeyDropped =>
      simp only [act?] at h
      split at h
      · cases h
      · exact sameBut_of_setPrimaryKey h
  | shardKeyAdded key =>
      cases h
      constructor <;> simp [ChangeAction.item, Item.rank, setShardKey]
  | shardKeyDropped =>
      simp only [act?] at h
      split at h
      · cases h
        constructor <;> simp [ChangeAction.item, Item.rank, clearShardKey]
      · cases h
  | _ =>
      obtain ⟨_, -, rfl⟩ := Option.map_eq_some_iff.1 h
      constructor <;> simp [ChangeAction.item, Item.rank]

/-- A foreign key stays where an action fits that does not drop it. -/
theorem foreignKey_of_act? {t t' : Table} {action : ChangeAction} (h : t.act? action = some t')
    {key : ForeignKey} (hkey : t.foreignKeys.get? key.name = some key)
    (hne : action ≠ .foreignKeyDropped key.name) :
    t'.foreignKeys.get? key.name = some key := by
  cases action with
  | foreignKeyAdded other =>
      obtain ⟨fks, hadd, rfl⟩ := Option.map_eq_some_iff.1 h
      exact Catalog.get?_of_add? hadd hkey
  | foreignKeyDropped other =>
      obtain ⟨fks, hdrop, rfl⟩ := Option.map_eq_some_iff.1 h
      have hother : other ≠ key.name := fun heq => hne (heq ▸ rfl)
      exact (Catalog.get?_of_drop? hdrop hother).trans hkey
  | _ =>
      rw [(sameBut_of_act? h).foreignKeys (by simp [ChangeAction.item, Item.rank])]
      exact hkey

/-- A column that is there after an action that fits, and that does not add it, was there before. -/
theorem column_of_act? {t t' : Table} {action : ChangeAction} (h : t.act? action = some t')
    {column : String} (hcolumn : column ∈ t'.columnNames)
    (hne : ¬ action.AddsColumn column) : column ∈ t.columnNames := by
  cases action with
  | columnAdded c =>
      obtain ⟨cols, hadd, rfl⟩ := Option.map_eq_some_iff.1 h
      exact Catalog.mem_names_of_add? hadd hcolumn fun heq => hne heq.symm
  | columnDropped c =>
      obtain ⟨cols, hdrop, rfl⟩ := Option.map_eq_some_iff.1 h
      exact Catalog.mem_names_of_drop? hdrop hcolumn
  | columnModified c =>
      obtain ⟨cols, hreplace, rfl⟩ := Option.map_eq_some_iff.1 h
      exact Catalog.mem_names_of_replace? hreplace hcolumn
  | _ =>
      rwa [columnNames, (sameBut_of_act? h).columns (by simp [ChangeAction.item, Item.rank])]
        at hcolumn

end Table

/-! ## Databases -/

namespace Database

/-- What an action that fits leaves under every name. -/
theorem table?_editTable_of_act? {db : Database} {t t' : Table} {action : ChangeAction}
    (found : db.table? t.name = some t) (h : t.act? action = some t') (key : String) :
    (db.editTable t.name fun _ => t').table? key
      = if t.name = key then some t' else db.table? key := by
  obtain ⟨hname, hschema⟩ := Table.name_schema_of_act? h
  rw [table?_editTable found, ← hname, ← hschema]

/-- What a change that fits does: it creates a table under a free name, it drops one that is there,
or it acts on one that is there. Under every other name it leaves what it finds. -/
theorem change?_cases {db db' : Database} {c : Change} (h : db.change? c = some db') :
    ∃ after : Option Table,
      (∀ key, db'.table? key = if c.target.table = key then after else db.table? key)
        ∧ ((∃ t, c.action = .tableCreated t ∧ db.table? c.target.table = none ∧ after = some t)
          ∨ (∃ t u, c.action = .tableDropped t ∧ db.table? c.target.table = some u ∧ after = none)
          ∨ ∃ t t', db.table? c.target.table = some t ∧ t.act? c.action = some t'
            ∧ after = some t') := by
  obtain ⟨target, action⟩ := c
  -- All but the first two kinds of change act on a table where it stands.
  have hacted : (do
      let t ← db.table? target.table
      if target = db.place t then (t.act? action).map fun t' => db.editTable t.name fun _ => t'
      else none) = some db' →
      ∃ after : Option Table,
        (∀ key, db'.table? key = if target.table = key then after else db.table? key)
          ∧ ∃ t t', db.table? target.table = some t ∧ t.act? action = some t'
            ∧ after = some t' := by
    intro h
    obtain ⟨t, found, h⟩ := Option.bind_eq_some_iff.1 h
    split at h
    · obtain ⟨t', hact, rfl⟩ := Option.map_eq_some_iff.1 h
      have hname : t.name = target.table := Catalog.name_of_get? found
      refine ⟨some t', fun key => ?_, t, t', found, hact, rfl⟩
      rw [← hname] at found ⊢
      exact table?_editTable_of_act? found hact key
    · cases h
  cases action with
  | tableCreated t =>
      simp only [change?] at h
      split at h
      · rename_i hfree
        obtain ⟨rfl, hfree⟩ := hfree
        cases h
        refine ⟨some t, table?_addTable db t, .inl ⟨t, rfl, ?_, rfl⟩⟩
        exact (Catalog.get?_eq_none_iff _ _).2 hfree
      · cases h
  | tableDropped t =>
      obtain ⟨u, found, h⟩ := Option.bind_eq_some_iff.1 h
      split at h
      · cases h
        have hname : u.name = target.table := Catalog.name_of_get? found
        refine ⟨none, fun key => ?_, .inr (.inl ⟨t, u, rfl, found, rfl⟩)⟩
        rw [← hname]
        exact table?_dropTable db u.name key
      · cases h
  | _ =>
      obtain ⟨after, hlook, hafter⟩ := hacted h
      exact ⟨after, hlook, .inr (.inr hafter)⟩

/-- A run relates what it finds under a name to what it leaves there, when the relation is reflexive
and transitive, when the run drops no table of that name and creates none that is not there, and
when the actions that it makes there are of a kind that relates what they find to what they
leave. -/
theorem rel_of_replay? {r : Table → Table → Prop} (hrefl : ∀ t, r t t)
    (htrans : ∀ t u v, r t u → r u v → r t v) {p : ChangeAction → Prop}
    (hact : ∀ t t' action, p action → t.act? action = some t' → r t t') {table : String}
    {changes : List Change}
    (hkind : ∀ c ∈ changes, c.target.table = table → c.action.item ≠ .removal ∧ p c.action)
    {db db' : Database} (hfree : db.table? table = none →
      ∀ c ∈ changes, c.target.table = table → c.action.item ≠ .creation)
    (hrun : db.replay? changes = some db') :
    Option.Rel r (db.table? table) (db'.table? table) := by
  induction changes generalizing db with
  | nil =>
      cases hrun
      cases db'.table? table with
      | none => exact .none
      | some t => exact .some (hrefl t)
  | cons c changes ih =>
      rw [replay?, List.foldlM_cons] at hrun
      obtain ⟨next, hstep, hrun⟩ := Option.bind_eq_some_iff.1 hrun
      have ih := fun hnext => ih (fun d hd => hkind d (List.mem_cons_of_mem _ hd)) hnext hrun
      obtain ⟨after, hlook, hafter⟩ := change?_cases hstep
      rw [hlook] at ih
      by_cases htable : c.target.table = table
      · obtain ⟨hremoval, hc⟩ := hkind c List.mem_cons_self htable
        subst htable
        rw [if_pos rfl] at ih
        rcases hafter with ⟨t, haction, hnone, -⟩ | ⟨t, u, haction, -⟩ | ⟨t, t', found, hfit, rfl⟩
        · exact absurd (haction ▸ rfl) (hfree hnone c List.mem_cons_self rfl)
        · exact absurd (haction ▸ rfl) hremoval
        · -- The table stays under its name, so no later change finds the name free.
          have ih := ih (by simp)
          rw [found]
          cases hlast : db'.table? c.target.table with
          | none => simp [hlast] at ih
          | some u =>
              rw [hlast, Option.rel_some_some] at ih
              exact .some (htrans _ _ _ (hact t t' c.action hc hfit) ih)
      · rw [if_neg htable] at ih
        exact ih fun hnone d hd => hfree hnone d (List.mem_cons_of_mem _ hd)

end Database

end Schemata
