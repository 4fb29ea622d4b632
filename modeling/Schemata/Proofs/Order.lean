import Schemata.Proofs.Agreement

/-! # The order of changes

The changes to a database stand in a strict order, and nothing but the names decides it. Tables come
in the order of their names. The changes for one table come section by section: the existence of the
table, its primary key, its shard key, its foreign keys, its relationships, and its columns at the
end. In a section the items come in the order of their names, and where an item is replaced, the old
one is dropped before the new one is added. -/

namespace Schemata

/-- The place of the section of an item among the sections of a table. -/
def Item.rank : Item → Nat
  | .creation | .removal => 0
  | .primaryKey => 1
  | .shardKey => 2
  | .foreignKey _ => 3
  | .relationship _ => 4
  | .column _ => 5

/-- The columns are the last section. -/
theorem Item.rank_le (item : Item) : item.rank ≤ 5 := by cases item <;> simp [rank]

/-- The name of an item in its section. A section with one item only needs no names. -/
def Item.key : Item → String
  | .creation | .removal | .primaryKey | .shardKey => ""
  | .foreignKey key | .relationship key | .column key => key

namespace ChangeAction

/-! ## Places in the order -/

/-- The place of an action among the actions about one item: what drops it comes first. -/
def phase : ChangeAction → Nat
  | .tableDropped _ | .primaryKeyDropped | .shardKeyDropped | .foreignKeyDropped _
  | .relationshipDropped _ | .columnDropped _ => 0
  | .tableCreated _ | .primaryKeyAdded _ | .shardKeyAdded _ | .foreignKeyAdded _
  | .relationshipAdded _ | .columnAdded _ | .columnModified _ => 1

/-- The place of an action among the actions for one table: the section, the name of the item in
it, and the place among the actions about the item. -/
def place (x : ChangeAction) : Nat × String × Nat := (x.item.rank, x.item.key, x.phase)

/-- Whether an action comes strictly before another for the same table. -/
def Before (x y : ChangeAction) : Prop :=
  Prod.Lex (· < ·) (Prod.Lex (· < ·) (· < ·)) x.place y.place

/-- An action of an earlier section comes before. -/
theorem before_of_rank {x y : ChangeAction} (h : x.item.rank < y.item.rank) : x.Before y :=
  Prod.Lex.left _ _ h

/-- An action about an item of an earlier name in the same section comes before. -/
theorem before_of_key {x y : ChangeAction} (hrank : x.item.rank = y.item.rank)
    (h : x.item.key < y.item.key) : x.Before y := by
  rw [Before, place, place, hrank]
  exact .right _ (.left _ _ h)

/-- Of two actions about one item the one that drops it comes before. -/
theorem before_of_phase {x y : ChangeAction} (hitem : x.item = y.item) (h : x.phase < y.phase) :
    x.Before y := by
  rw [Before, place, place, hitem]
  exact .right _ (.right _ h)

/-- An action does not come before one of an earlier section. -/
theorem Before.rank_le {x y : ChangeAction} (h : x.Before y) : x.item.rank ≤ y.item.rank := by
  rcases Prod.lex_def.1 h with hlt | ⟨heq, -⟩
  · exact Nat.le_of_lt hlt
  · exact Nat.le_of_eq heq

/-- The wording of an action tells whether it drops something. -/
theorem phase_eq (x : ChangeAction) :
    x.phase = if x.label ∈ ["Table Dropped", "Primary Key Dropped", "Shard Key Dropped",
      "Foreign Key Dropped", "Relationship Dropped", "Column Dropped"] then 0 else 1 := by
  cases x <;> simp [phase, label]

/-- An action does not come before one in its place. -/
theorem Before.place_ne {x y : ChangeAction} (h : x.Before y) : x.place ≠ y.place := by
  intro hplace
  rw [Before, hplace] at h
  rcases Prod.lex_def.1 h with hrank | ⟨-, h⟩
  · exact Nat.lt_irrefl _ hrank
  · rcases Prod.lex_def.1 h with hkey | ⟨-, hphase⟩
    · exact String.lt_irrefl _ hkey
    · exact Nat.lt_irrefl _ hphase

/-- Of two actions about one item that are worded alike, none comes before the other. -/
theorem Before.ne {x y : ChangeAction} (h : x.Before y) (hitem : x.item = y.item) :
    x.label ≠ y.label := by
  intro hlabel
  refine h.place_ne ?_
  rw [place, place, hitem, phase_eq, phase_eq, hlabel]

/-! ## Sections -/

/-- Actions in their strict order, up to the section of a given place. -/
structure SortedUpTo (n : Nat) (actions : List ChangeAction) : Prop where
  /-- Each action comes before those behind it. -/
  pairwise : actions.Pairwise Before
  /-- There is no later section. -/
  le : ∀ x ∈ actions, x.item.rank ≤ n

/-- A later section may follow. -/
theorem SortedUpTo.append {m n : Nat} {xs ys : List ChangeAction} (hxs : SortedUpTo m xs)
    (hmn : m < n) (hys : ys.Pairwise Before) (hrank : ∀ y ∈ ys, y.item.rank = n) :
    SortedUpTo n (xs ++ ys) where
  pairwise := by
    refine List.pairwise_append.2 ⟨hxs.pairwise, hys, fun x hx y hy => before_of_rank ?_⟩
    rw [hrank y hy]
    exact Nat.lt_of_le_of_lt (hxs.le x hx) hmn
  le := by
    intro x hx
    rcases List.mem_append.1 hx with hx | hx
    · exact Nat.le_of_lt (Nat.lt_of_le_of_lt (hxs.le x hx) hmn)
    · exact Nat.le_of_eq (hrank x hx)

/-- The actions for a primary key drop the old one first. -/
theorem pairwise_ofPrimaryKeys (a b : List String) : (ofPrimaryKeys a b).Pairwise Before := by
  unfold ofPrimaryKeys
  split
  · exact .nil
  · split
    · exact List.pairwise_singleton _ _
    · split
      · exact List.pairwise_singleton _ _
      · exact List.pairwise_pair.2 (before_of_phase rfl Nat.zero_lt_one)

/-- There is at most one action for a shard key. -/
theorem pairwise_ofShardKeys (a b : Option ShardKey) : (ofShardKeys a b).Pairwise Before := by
  unfold ofShardKeys
  split
  · exact .nil
  · exact List.pairwise_singleton _ _
  · exact List.pairwise_singleton _ _
  · split
    · exact .nil
    · exact List.pairwise_singleton _ _

/-- The actions that turn the things of one catalog into those of another come in the order of the
names, when each action is about the name of its thing and those for two things of one name come in
their order. -/
theorem pairwise_ofPairing {α : Type} [Named α] (c d : Catalog α) (about : String → Item)
    {same : α → α → Bool} {drop add : α → ChangeAction} {turn : α → α → List ChangeAction}
    {n : Nat} (habout : ∀ key, (about key).rank = n ∧ (about key).key = key)
    (hdrop : ∀ a, (drop a).item = about (Named.name a))
    (hadd : ∀ b, (add b).item = about (Named.name b))
    (hturn : ∀ a b, Named.name b = Named.name a →
      (∀ x ∈ turn a b, x.item = about (Named.name a)) ∧ (turn a b).Pairwise Before) :
    ((c.pair d).flatMap (ofPairing same drop add turn)).Pairwise Before
      ∧ ∀ x ∈ (c.pair d).flatMap (ofPairing same drop add turn), x.item.rank = n := by
  have hpart : ∀ p ∈ c.pair d, (ofPairing same drop add turn p).Pairwise Before
      ∧ ∀ x ∈ ofPairing same drop add turn p, x.item = about p.key := by
    intro p hp
    cases p with
    | first a => exact ⟨List.pairwise_singleton _ _, List.forall_mem_singleton.2 (hdrop a)⟩
    | second b => exact ⟨List.pairwise_singleton _ _, List.forall_mem_singleton.2 (hadd b)⟩
    | both a b =>
        obtain ⟨hitem, hbefore⟩ := hturn a b (Catalog.name_eq_of_both_mem hp)
        rw [ofPairing]
        split
        · exact ⟨.nil, by simp⟩
        · exact ⟨hbefore, hitem⟩
  constructor
  · refine List.pairwise_flatMap.2 ⟨fun p hp => (hpart p hp).1, ?_⟩
    -- Pairings stand in the order of their names, and so do the items that their actions are about.
    refine (Catalog.pairwise_pair c d).imp_of_mem ?_
    intro p q hp hq hlt x hx y hy
    have hxitem := (hpart p hp).2 x hx
    have hyitem := (hpart q hq).2 y hy
    refine before_of_key ?_ ?_
    · rw [hxitem, hyitem, (habout _).1, (habout _).1]
    · rwa [hxitem, hyitem, (habout _).2, (habout _).2]
  · intro x hx
    obtain ⟨p, hp, hx⟩ := List.mem_flatMap.1 hx
    rw [(hpart p hp).2 x hx]
    exact (habout _).1

/-- The actions for foreign keys come in the order of the names. -/
theorem pairwise_ofForeignKeys (c d : Catalog ForeignKey) :
    ((c.pair d).flatMap ofForeignKeys).Pairwise Before
      ∧ ∀ x ∈ (c.pair d).flatMap ofForeignKeys, x.item.rank = 3 := by
  refine pairwise_ofPairing c d Item.foreignKey ?_ ?_ ?_ ?_
  · exact fun _ => ⟨rfl, rfl⟩
  · exact fun _ => rfl
  · exact fun _ => rfl
  · intro a b hname
    have hadded : (ChangeAction.foreignKeyAdded b).item = .foreignKey a.name :=
      congrArg Item.foreignKey hname
    refine ⟨by simpa using ⟨rfl, hadded⟩, List.pairwise_pair.2 ?_⟩
    exact before_of_phase hadded.symm Nat.zero_lt_one

/-- The actions for relationships come in the order of the names. -/
theorem pairwise_ofRelationships (c d : Catalog Relationship) :
    ((c.pair d).flatMap ofRelationships).Pairwise Before
      ∧ ∀ x ∈ (c.pair d).flatMap ofRelationships, x.item.rank = 4 := by
  refine pairwise_ofPairing c d Item.relationship ?_ ?_ ?_ ?_
  · exact fun _ => ⟨rfl, rfl⟩
  · exact fun _ => rfl
  · exact fun _ => rfl
  · intro a b hname
    have hadded : (ChangeAction.relationshipAdded b).item = .relationship a.name :=
      congrArg Item.relationship hname
    refine ⟨by simpa using ⟨rfl, hadded⟩, List.pairwise_pair.2 ?_⟩
    exact before_of_phase hadded.symm Nat.zero_lt_one

/-- The actions for columns come in the order of the names. -/
theorem pairwise_ofColumns (c d : Catalog Column) :
    ((c.pair d).flatMap ofColumns).Pairwise Before
      ∧ ∀ x ∈ (c.pair d).flatMap ofColumns, x.item.rank = 5 := by
  refine pairwise_ofPairing c d Item.column ?_ ?_ ?_ ?_
  · exact fun _ => ⟨rfl, rfl⟩
  · exact fun _ => rfl
  · exact fun _ => rfl
  · intro a b hname
    exact ⟨List.forall_mem_singleton.2 (congrArg Item.column hname), List.pairwise_singleton _ _⟩

/-- The actions for two tables stand in their strict order. -/
theorem sortedUpTo_ofTables (a b : Table) : SortedUpTo 5 (ofTables a b) := by
  have hprimary : ∀ x ∈ ofPrimaryKeys a.primaryKey b.primaryKey, x.item.rank = 1 := by
    intro x hx
    rw [((touch_ofPrimaryKeys _ _ _).1 ⟨x, hx, rfl⟩).1]
    rfl
  have hshard : ∀ x ∈ ofShardKeys a.shardKey b.shardKey, x.item.rank = 2 := by
    intro x hx
    rw [((touch_ofShardKeys _ _ _).1 ⟨x, hx, rfl⟩).1]
    rfl
  obtain ⟨hforeign, hforeignRank⟩ := pairwise_ofForeignKeys a.foreignKeys b.foreignKeys
  obtain ⟨hrelated, hrelatedRank⟩ := pairwise_ofRelationships a.relationships b.relationships
  obtain ⟨hcolumns, hcolumnsRank⟩ := pairwise_ofColumns a.columns b.columns
  have hfirst : SortedUpTo 1 (ofPrimaryKeys a.primaryKey b.primaryKey) :=
    ⟨pairwise_ofPrimaryKeys _ _, fun x hx => Nat.le_of_eq (hprimary x hx)⟩
  exact (((hfirst.append (by decide) (pairwise_ofShardKeys _ _) hshard).append (by decide) hforeign
    hforeignRank).append (by decide) hrelated hrelatedRank).append (by decide) hcolumns hcolumnsRank

/-! ## The number of actions -/

/-- As many actions turn the one primary key into the other as the other into the one. -/
theorem length_ofPrimaryKeys_comm (a b : List String) :
    (ofPrimaryKeys a b).length = (ofPrimaryKeys b a).length := by
  unfold ofPrimaryKeys
  by_cases hab : a = b
  · rw [hab]
  · have hba : ¬b = a := fun hba => hab hba.symm
    rw [if_neg hab, if_neg hba]
    cases a with
    | nil => cases b with
      | nil => rfl
      | cons => rfl
    | cons => cases b with
      | nil => rfl
      | cons => rfl

/-- As many actions turn the one shard key into the other as the other into the one. -/
theorem length_ofShardKeys_comm (a b : Option ShardKey) :
    (ofShardKeys a b).length = (ofShardKeys b a).length := by
  match a, b with
  | none, none => rfl
  | none, some _ => rfl
  | some _, none => rfl
  | some a, some b =>
      simp only [ofShardKeys, eq_comm (a := b)]
      split <;> rfl

/-- As many actions turn the things of one catalog into those of another as the other way around. -/
theorem length_ofPairing_comm {α : Type} [Named α] (c d : Catalog α) {same : α → α → Bool}
    (hsame : ∀ a b, same b a = same a b) {drop add : α → ChangeAction}
    {turn : α → α → List ChangeAction} (hturn : ∀ a b, (turn b a).length = (turn a b).length) :
    ((c.pair d).flatMap (ofPairing same drop add turn)).length
      = ((d.pair c).flatMap (ofPairing same drop add turn)).length := by
  have hswap : ∀ p : Pairing α,
      (ofPairing same drop add turn p.swap).length = (ofPairing same drop add turn p).length := by
    intro p
    cases p with
    | first a => rfl
    | second b => rfl
    | both a b =>
        simp only [Pairing.swap, ofPairing, hsame]
        split
        · rfl
        · exact hturn a b
  rw [← Catalog.map_swap_pair c d, List.flatMap_map, List.length_flatMap, List.length_flatMap]
  simp only [hswap]

/-- As many actions turn the one table into the other as the other into the one. -/
theorem length_ofTables_comm (a b : Table) : (ofTables a b).length = (ofTables b a).length := by
  have hforeign : ((a.foreignKeys.pair b.foreignKeys).flatMap ofForeignKeys).length
      = ((b.foreignKeys.pair a.foreignKeys).flatMap ofForeignKeys).length :=
    length_ofPairing_comm _ _ (fun k l => l.same_comm k) fun _ _ => rfl
  have hrelated : ((a.relationships.pair b.relationships).flatMap ofRelationships).length
      = ((b.relationships.pair a.relationships).flatMap ofRelationships).length :=
    length_ofPairing_comm _ _ (fun _ _ => Bool.beq_comm) fun _ _ => rfl
  have hcolumns : ((a.columns.pair b.columns).flatMap ofColumns).length
      = ((b.columns.pair a.columns).flatMap ofColumns).length :=
    length_ofPairing_comm _ _ (fun _ _ => Bool.beq_comm) fun _ _ => rfl
  simp only [ofTables, List.length_append]
  rw [length_ofPrimaryKeys_comm, length_ofShardKeys_comm]
  exact congr (congrArg _ (congr (congrArg _ (congrArg _ hforeign)) hrelated)) hcolumns

end ChangeAction

/-! ## Changes -/

namespace Change

/-- The place of a change: the name of the table, and the place among the actions for it. -/
def place (c : Change) : String × Nat × String × Nat := (c.target.table, c.action.place)

/-- Whether a change comes strictly before another. -/
def Before (c d : Change) : Prop :=
  Prod.Lex (· < ·) (Prod.Lex (· < ·) (Prod.Lex (· < ·) (· < ·))) c.place d.place

/-- What a change does to which item of which table. -/
def subject (c : Change) : String × Item × String :=
  (c.target.table, c.action.item, c.action.label)

/-- Of two changes for one table the one with the action that comes before comes before. -/
theorem before_of_action {c d : Change} (htable : c.target.table = d.target.table)
    (h : c.action.Before d.action) : c.Before d := by
  rw [Before, place, place, htable]
  exact .right _ h

/-- Of two changes for one table, the one that comes before has the action that comes before. -/
theorem Before.action {c d : Change} (h : c.Before d) (htable : c.target.table = d.target.table) :
    c.action.Before d.action := by
  rcases Prod.lex_def.1 h with hlt | ⟨-, haction⟩
  · exact absurd htable (Std.ne_of_lt hlt)
  · exact haction

/-- A change that comes before another does something else, or does it elsewhere. -/
theorem Before.subject_ne {c d : Change} (h : c.Before d) : c.subject ≠ d.subject := by
  intro heq
  obtain ⟨htable, hsame⟩ := Prod.mk.inj heq
  obtain ⟨hitem, hlabel⟩ := Prod.mk.inj hsame
  exact ChangeAction.Before.ne (h.action htable) hitem hlabel

/-- Changes in their strict order do different things. -/
theorem nodup_subjects {changes : List Change} (h : changes.Pairwise Before) :
    (changes.map subject).Nodup :=
  List.pairwise_map.2 (h.imp Before.subject_ne)

end Change

namespace Database

open ChangeAction

/-- The changes for the tables of one name are about tables of this name. -/
theorem table_of_mem_changesFor {db : Database} {p : Pairing Table} {c : Change}
    (h : c ∈ db.changesFor p) : c.target.table = p.key := by
  cases p with
  | first t => rw [List.mem_singleton.1 h]; rfl
  | second t => rw [List.mem_singleton.1 h]; rfl
  | both t₁ t₂ =>
      obtain ⟨action, -, rfl⟩ := List.mem_map.1 h
      rfl

/-- The changes to a database stand in their strict order. -/
theorem pairwise_before_changesTo (db₁ db₂ : Database) :
    (db₁.changesTo db₂).Pairwise Change.Before := by
  refine List.pairwise_flatMap.2 ⟨fun p _ => ?_, ?_⟩
  · cases p with
    | first t => exact List.pairwise_singleton _ _
    | second t => exact List.pairwise_singleton _ _
    | both t₁ t₂ =>
        refine List.pairwise_map.2 ((sortedUpTo_ofTables t₁ t₂).pairwise.imp ?_)
        exact fun h => Change.before_of_action rfl h
  · -- Different pairings stand under different names, and so do the tables of their changes.
    refine (Catalog.pairwise_pair db₁.tables db₂.tables).imp ?_
    intro p q hlt c hc d hd
    refine Prod.Lex.left _ _ ?_
    rwa [table_of_mem_changesFor hc, table_of_mem_changesFor hd]

/-- The changes for a table come section by section, whatever comes between them. -/
theorem pairwise_rank_changesTo (db₁ db₂ : Database) :
    (db₁.changesTo db₂).Pairwise fun c d =>
      c.target.table = d.target.table → c.action.item.rank ≤ d.action.item.rank := by
  refine (pairwise_before_changesTo db₁ db₂).imp ?_
  exact fun h htable => ChangeAction.Before.rank_le (h.action htable)

/-- As many changes make the one database match the other as the other the one. -/
theorem length_changesTo_comm (db₁ db₂ : Database) :
    (db₁.changesTo db₂).length = (db₂.changesTo db₁).length := by
  have hswap : ∀ p : Pairing Table, (db₂.changesFor p.swap).length = (db₁.changesFor p).length := by
    intro p
    cases p with
    | first t => rfl
    | second t => rfl
    | both t₁ t₂ =>
        simp only [Pairing.swap, changesFor, List.length_map]
        exact length_ofTables_comm t₂ t₁
  rw [changesTo, changesTo, ← Catalog.map_swap_pair db₁.tables db₂.tables, List.flatMap_map,
    List.length_flatMap, List.length_flatMap]
  simp only [hswap]

/-- **Each side of a comparison stands in a strict order.** The changes increase strictly in the
name of the table, then the section, then the name of the item, where what is dropped comes before
what is added. So no item is changed twice in one way on one side; and both sides have the same
length. -/
theorem compare_ordered (db₁ db₂ : Database) :
    (db₁.compare db₂).first.Pairwise Change.Before
      ∧ (db₁.compare db₂).second.Pairwise Change.Before
      ∧ ((db₁.compare db₂).first.map Change.subject).Nodup
      ∧ ((db₁.compare db₂).second.map Change.subject).Nodup
      ∧ (db₁.compare db₂).first.length = (db₁.compare db₂).second.length := by
  rw [compare_eq]
  have hfirst := pairwise_before_changesTo db₁ db₂
  have hsecond := pairwise_before_changesTo db₂ db₁
  exact ⟨hfirst, hsecond, Change.nodup_subjects hfirst, Change.nodup_subjects hsecond,
    length_changesTo_comm db₁ db₂⟩

end Database

end Schemata
