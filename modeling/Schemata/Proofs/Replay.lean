import Schemata.Proofs.Agreement
import Schemata.Proofs.History

/-! # Replaying a comparison

A strict interpreter makes changes one by one and stops at the first that does not fit: a change
that speaks of another place than the table has, that removes or modifies what is not there, or that
adds what is. The changes to the first side of a comparison all fit, in their order, and lead from
the first database to one that agrees with the second. -/

namespace Schemata

variable {α : Type}

/-! ## The interpreter -/

namespace Catalog

variable [Named α]

/-- The catalog with a thing whose name is still free. -/
def add? (c : Catalog α) (x : α) : Option (Catalog α) :=
  if c.contains (Named.name x) then none else some (c.insert x)

/-- The catalog without the member of a name. -/
def drop? (c : Catalog α) (key : String) : Option (Catalog α) :=
  if c.contains key then some (c.erase key) else none

/-- The catalog with a thing in the place of the member of its name. -/
def replace? (c : Catalog α) (x : α) : Option (Catalog α) :=
  if c.contains (Named.name x) then some (c.insert x) else none

/-- A thing is added under a free name. -/
theorem add?_of_get? {c : Catalog α} {x : α} (h : c.get? (Named.name x) = none) :
    c.add? x = some (c.insert x) := by
  simp [add?, contains, h]

/-- A member is dropped. -/
theorem drop?_of_get? {c : Catalog α} {key : String} {x : α} (h : c.get? key = some x) :
    c.drop? key = some (c.erase key) := by
  simp [drop?, contains, h]

/-- A member is replaced. -/
theorem replace?_of_get? {c : Catalog α} {x y : α} (h : c.get? (Named.name x) = some y) :
    c.replace? x = some (c.insert x) := by
  simp [replace?, contains, h]

end Catalog

/-- A table after an action on one of its parts, if the action fits. A shard key may take the place
of another one. -/
def Table.act? (t : Table) : ChangeAction → Option Table
  | .tableCreated _ | .tableDropped _ => none
  | .primaryKeyAdded columns =>
      if t.primaryKey.isEmpty then (t.setPrimaryKey (.many columns)).toOption else none
  | .primaryKeyDropped =>
      if t.primaryKey.isEmpty then none else (t.setPrimaryKey (.many [])).toOption
  | .shardKeyAdded key => some (t.setShardKey key)
  | .shardKeyDropped => if t.shardKey.isSome then some t.clearShardKey else none
  | .foreignKeyAdded key => (t.foreignKeys.add? key).map ({ t with foreignKeys := · })
  | .foreignKeyDropped key => (t.foreignKeys.drop? key).map ({ t with foreignKeys := · })
  | .relationshipAdded r => (t.relationships.add? r).map ({ t with relationships := · })
  | .relationshipDropped r => (t.relationships.drop? r).map ({ t with relationships := · })
  | .columnAdded column => (t.columns.add? column).map ({ t with columns := · })
  | .columnDropped column => (t.columns.drop? column.name).map ({ t with columns := · })
  | .columnModified column => (t.columns.replace? column).map ({ t with columns := · })

namespace Database

/-- A database after a change, if the change fits: it speaks of the place that the table has at the
moment, or of the place that a created table is to have, under a name that is still free. -/
def change? (db : Database) (c : Change) : Option Database :=
  match c.action with
  | .tableCreated t =>
      if c.target = db.place t ∧ t.name ∉ db.tableNames then some (db.addTable t) else none
  | .tableDropped _ => do
      let t ← db.table? c.target.table
      if c.target = db.place t then some (db.dropTable t.name) else none
  | action => do
      let t ← db.table? c.target.table
      if c.target = db.place t then (t.act? action).map fun t' => db.editTable t.name fun _ => t'
      else none

/-- A database after changes, if all of them fit. -/
def replay? (db : Database) (changes : List Change) : Option Database := changes.foldlM change? db

end Database

/-! ## Runs over pairings -/

/-- A run over lists that a function gives is a run over its arguments. -/
theorem foldlM_flatMap {σ β γ : Type} (step : σ → γ → Option σ) (f : β → List γ) (xs : List β)
    (s : σ) : (xs.flatMap f).foldlM step s = xs.foldlM (fun s x => (f x).foldlM step s) s := by
  induction xs generalizing s with
  | nil => rfl
  | cons x xs ih => simp only [List.flatMap_cons, List.foldlM_append, List.foldlM_cons, ih]

/-- A run over pairings of different names goes through when every step does that finds, under the
name of its pairing, what the pairing shows on the left, and that touches no other name. -/
theorem exists_foldlM_pairings [Named α] {σ : Type} (look : σ → String → Option α)
    (step : σ → Pairing α → Option σ) (Inv : σ → Prop) (Done : Pairing α → Option α → Prop)
    (ps : List (Pairing α)) (hnodup : (ps.map Pairing.key).Nodup)
    (hstep : ∀ p ∈ ps, ∀ s, Inv s → look s p.key = p.left? →
      ∃ s', step s p = some s' ∧ Inv s' ∧ Done p (look s' p.key)
        ∧ ∀ key, key ≠ p.key → look s' key = look s key)
    (s : σ) (hinv : Inv s) (hs : ∀ p ∈ ps, look s p.key = p.left?) :
    ∃ s', ps.foldlM step s = some s' ∧ Inv s' ∧ (∀ p ∈ ps, Done p (look s' p.key))
      ∧ ∀ key, key ∉ ps.map Pairing.key → look s' key = look s key := by
  induction ps generalizing s with
  | nil => exact ⟨s, rfl, hinv, by simp, fun _ _ => rfl⟩
  | cons p ps ih =>
      rw [List.map_cons, List.nodup_cons] at hnodup
      obtain ⟨s₁, hstep₁, hinv₁, hdone, hframe⟩ :=
        hstep p List.mem_cons_self s hinv (hs p List.mem_cons_self)
      -- The names differ, so the step leaves alone what the later pairings look up.
      have hne : ∀ q ∈ ps, q.key ≠ p.key := fun q hq e =>
        hnodup.1 (e ▸ List.mem_map_of_mem hq)
      have hs₁ : ∀ q ∈ ps, look s₁ q.key = q.left? := fun q hq =>
        (hframe q.key (hne q hq)).trans (hs q (List.mem_cons_of_mem _ hq))
      obtain ⟨s₂, hrun, hinv₂, hdone₂, hframe₂⟩ :=
        ih hnodup.2 (fun q hq => hstep q (List.mem_cons_of_mem _ hq)) s₁ hinv₁ hs₁
      refine ⟨s₂, by simp [hstep₁, hrun], hinv₂, ?_, ?_⟩
      · intro q hq
        rcases List.mem_cons.1 hq with rfl | hq
        · rw [hframe₂ q.key hnodup.1]
          exact hdone
        · exact hdone₂ q hq
      · intro key hkey
        rw [List.map_cons, List.mem_cons, not_or] at hkey
        rw [hframe₂ key hkey.2, hframe key hkey.1]

namespace Catalog

variable [Named α]

/-- The catalog after what a pairing asks for: a member goes, comes or is changed. -/
def follow? (change? : Catalog α → α → α → Option (Catalog α)) (c : Catalog α) :
    Pairing α → Option (Catalog α)
  | .first a => c.drop? (Named.name a)
  | .second b => c.add? b
  | .both a b => change? c a b

/-- The catalog with one thing exchanged for another, unless they are the same. -/
def exchange? (same : α → α → Bool) (c : Catalog α) (a b : α) : Option (Catalog α) :=
  if same a b then some c else (c.drop? (Named.name a)).bind (·.add? b)

/-- The catalog with one thing replaced by another, unless they are the same. -/
def overwrite? (same : α → α → Bool) (c : Catalog α) (a b : α) : Option (Catalog α) :=
  if same a b then some c else c.replace? b

/-- What a way to change a member of a catalog has to do: it succeeds, it puts something that is the
same as the new thing in the place of the old one, and it touches no other name. -/
def Changes (same : α → α → Bool) (change? : Catalog α → α → α → Option (Catalog α)) : Prop :=
  ∀ (c : Catalog α) (a b : α), c.get? (Named.name a) = some a → Named.name b = Named.name a →
    ∃ c', change? c a b = some c'
      ∧ Option.Rel (fun x y => same x y = true) (c'.get? (Named.name a)) (some b)
      ∧ ∀ key, key ≠ Named.name a → c'.get? key = c.get? key

/-- Exchanging a member changes it. -/
theorem changes_exchange? {same : α → α → Bool} (hrefl : ∀ x, same x x = true) :
    Changes same (exchange? same) := by
  intro c a b ha hname
  by_cases hsame : same a b = true
  · exact ⟨c, by simp [exchange?, hsame], by rw [ha]; exact .some hsame, fun _ _ => rfl⟩
  · have hfree : (c.erase (Named.name a)).get? (Named.name b) = none := by
      rw [hname, get?_erase, if_pos rfl]
    -- The name is free only once the old thing has gone.
    refine ⟨(c.erase (Named.name a)).insert b, ?_, ?_, ?_⟩
    · simp [exchange?, hsame, drop?_of_get? ha, add?_of_get? hfree]
    · rw [get?_insert, if_pos hname]
      exact .some (hrefl b)
    · intro key hne
      rw [get?_insert, hname, if_neg hne.symm, get?_erase, if_neg hne.symm]

/-- Replacing a member changes it. -/
theorem changes_overwrite? {same : α → α → Bool} (hrefl : ∀ x, same x x = true) :
    Changes same (overwrite? same) := by
  intro c a b ha hname
  by_cases hsame : same a b = true
  · exact ⟨c, by simp [overwrite?, hsame], by rw [ha]; exact .some hsame, fun _ _ => rfl⟩
  · have hthere : c.get? (Named.name b) = some a := by rw [hname, ha]
    refine ⟨c.insert b, ?_, ?_, ?_⟩
    · simp [overwrite?, hsame, replace?_of_get? hthere]
    · rw [get?_insert, if_pos hname]
      exact .some (hrefl b)
    · intro key hne
      rw [get?_insert, hname, if_neg hne.symm]

/-- Following the pairings of two catalogs leads from the first to one that holds the same as the
second under every name. -/
theorem exists_foldlM_follow? (same : α → α → Bool) (hrefl : ∀ x, same x x = true)
    {change? : Catalog α → α → α → Option (Catalog α)} (hchange : Changes same change?)
    (c d : Catalog α) :
    ∃ e, (c.pair d).foldlM (follow? change?) c = some e
      ∧ ∀ key, Option.Rel (fun x y => same x y = true) (e.get? key) (d.get? key) := by
  have hstep : ∀ p ∈ c.pair d, ∀ s : Catalog α, True → s.get? p.key = p.left? →
      ∃ s', follow? change? s p = some s' ∧ True
        ∧ Option.Rel (fun x y => same x y = true) (s'.get? p.key) p.right?
        ∧ ∀ key, key ≠ p.key → s'.get? key = s.get? key := by
    intro p hp s _ hleft
    cases p with
    | first a =>
        refine ⟨s.erase (Named.name a), drop?_of_get? hleft, trivial, ?_, ?_⟩
        · rw [Pairing.key, get?_erase, if_pos rfl]
          exact .none
        · intro key hne
          exact (get?_erase ..).trans (if_neg hne.symm)
    | second b =>
        refine ⟨s.insert b, add?_of_get? hleft, trivial, ?_, ?_⟩
        · rw [Pairing.key, get?_insert, if_pos rfl]
          exact .some (hrefl b)
        · intro key hne
          exact (get?_insert ..).trans (if_neg hne.symm)
    | both a b =>
        obtain ⟨s', hs', hrel, hne⟩ := hchange s a b hleft (name_eq_of_both_mem hp)
        exact ⟨s', hs', trivial, hrel, hne⟩
  obtain ⟨e, hrun, -, hdone, hframe⟩ := exists_foldlM_pairings get? (follow? change?)
    (fun _ => True) (fun p o => Option.Rel (fun x y => same x y = true) o p.right?)
    (c.pair d) (nodup_map_key_pair c d) hstep c trivial fun p hp => ((mem_pair_iff c d p).1 hp).1
  refine ⟨e, hrun, fun key => ?_⟩
  by_cases hkey : key ∈ (c.pair d).map Pairing.key
  · obtain ⟨p, hp, rfl⟩ := List.mem_map.1 hkey
    rw [((mem_pair_iff c d p).1 hp).2]
    exact hdone p hp
  · obtain ⟨hc, hd⟩ := get?_eq_none_of_unpaired hkey
    rw [hframe key hkey, hc, hd]
    exact .none

end Catalog

/-! ## Tables -/

namespace Table

open ChangeAction Catalog

/-- A catalog in a table, as it is read and written. -/
structure Part (α : Type) [Named α] where
  /-- The catalog of a table. -/
  get : Table → Catalog α
  /-- The table with another catalog. -/
  put : Table → Catalog α → Table
  /-- What is written is read. -/
  get_put : ∀ t c, get (put t c) = c
  /-- What is written last counts. -/
  put_put : ∀ t c d, put (put t c) d = put t d
  /-- Writing what is there changes nothing. -/
  put_get : ∀ t, put t (get t) = t

/-- The foreign keys of a table. -/
def foreignKeysPart : Part ForeignKey where
  get t := t.foreignKeys
  put t c := { t with foreignKeys := c }
  get_put _ _ := rfl
  put_put _ _ _ := rfl
  put_get _ := rfl

/-- The relationships of a table. -/
def relationshipsPart : Part Relationship where
  get t := t.relationships
  put t c := { t with relationships := c }
  get_put _ _ := rfl
  put_put _ _ _ := rfl
  put_get _ := rfl

/-- The columns of a table. -/
def columnsPart : Part Column where
  get t := t.columns
  put t c := { t with columns := c }
  get_put _ _ := rfl
  put_put _ _ _ := rfl
  put_get _ := rfl

section Part

variable [Named α] (part : Part α)

/-- Actions that act on one catalog of a table follow pairings there. -/
theorem foldlM_flatMap_part {actions : Pairing α → List ChangeAction}
    {follow : Catalog α → Pairing α → Option (Catalog α)}
    (hstep : ∀ t p, (actions p).foldlM act? t = (follow (part.get t) p).map (part.put t))
    (ps : List (Pairing α)) (t : Table) :
    (ps.flatMap actions).foldlM act? t = (ps.foldlM follow (part.get t)).map (part.put t) := by
  rw [foldlM_flatMap]
  induction ps generalizing t with
  | nil => exact congrArg some (part.put_get t).symm
  | cons p ps ih =>
      rw [List.foldlM_cons, List.foldlM_cons, hstep]
      cases follow (part.get t) p with
      | none => rfl
      | some c =>
          show ps.foldlM _ (part.put t c) = (ps.foldlM follow c).map (part.put t)
          rw [ih, part.get_put]
          exact congrArg (ps.foldlM follow c).map (funext (part.put_put t c))

/-- Actions that drop and add in one catalog of a table exchange the one thing for the other. -/
theorem foldlM_ofPairing_exchange {drop add : α → ChangeAction}
    (hdrop : ∀ t a, act? t (drop a) = ((part.get t).drop? (Named.name a)).map (part.put t))
    (hadd : ∀ t b, act? t (add b) = ((part.get t).add? b).map (part.put t)) (same : α → α → Bool)
    (t : Table) (p : Pairing α) :
    (ofPairing same drop add (fun a b => [drop a, add b]) p).foldlM act? t
      = (follow? (exchange? same) (part.get t) p).map (part.put t) := by
  cases p with
  | first a => simp [ofPairing, follow?, hdrop]
  | second b => simp [ofPairing, follow?, hadd]
  | both a b =>
      by_cases hsame : same a b = true
      · simp [ofPairing, follow?, exchange?, hsame, part.put_get]
      · have hfold : [drop a, add b].foldlM act? t
            = ((part.get t).drop? (Named.name a)).bind fun c => (c.add? b).map (part.put t) := by
          rw [List.foldlM_cons, hdrop]
          cases (part.get t).drop? (Named.name a) with
          | none => rfl
          | some c => simp [hadd, part.get_put, funext (part.put_put t c)]
        rw [ofPairing, if_neg hsame, hfold, follow?, exchange?, if_neg hsame, Option.map_bind]
        rfl

end Part

/-- The actions for foreign keys of one name exchange the one for the other. -/
theorem foldlM_ofForeignKeys (t : Table) (p : Pairing ForeignKey) :
    (ofForeignKeys p).foldlM act? t
      = (follow? (exchange? ForeignKey.same) t.foreignKeys p).map (foreignKeysPart.put t) :=
  foldlM_ofPairing_exchange foreignKeysPart (fun _ _ => rfl) (fun _ _ => rfl) ForeignKey.same t p

/-- The actions for relationships of one name exchange the one for the other. -/
theorem foldlM_ofRelationships (t : Table) (p : Pairing Relationship) :
    (ofRelationships p).foldlM act? t
      = (follow? (exchange? (· == ·)) t.relationships p).map (relationshipsPart.put t) :=
  foldlM_ofPairing_exchange relationshipsPart (fun _ _ => rfl) (fun _ _ => rfl) (· == ·) t p

/-- The actions for columns of one name replace the one by the other. -/
theorem foldlM_ofColumns (t : Table) (p : Pairing Column) :
    (ofColumns p).foldlM act? t
      = (follow? (overwrite? fun a b => a.type == b.type) t.columns p).map (columnsPart.put t) := by
  cases p with
  | first a => simp [ofColumns, ofPairing, act?, follow?, columnsPart]
  | second b => simp [ofColumns, ofPairing, act?, follow?, columnsPart]
  | both a b => by_cases hsame : a.type = b.type <;>
      simp [ofColumns, ofPairing, act?, follow?, overwrite?, columnsPart, hsame]

/-- The actions for primary keys lead from the one to the other, if no column of this is blank. -/
theorem foldlM_ofPrimaryKeys (t : Table) {b : List String}
    (hb : ∀ column ∈ b, Text.isBlank column = false) :
    (ofPrimaryKeys t.primaryKey b).foldlM act? t = some { t with primaryKey := b } := by
  have hset : ∀ t : Table, t.setPrimaryKey (.many b) = .ok { t with primaryKey := b } := fun t =>
    (setPrimaryKey_eq_ok_iff _ _ _).2 ⟨hb, rfl⟩
  have hclear : t.setPrimaryKey (.many []) = .ok { t with primaryKey := [] } :=
    (setPrimaryKey_eq_ok_iff _ _ _).2 ⟨by simp [KeyColumns.toList], rfl⟩
  unfold ofPrimaryKeys
  split
  · rename_i heq
    subst heq
    rfl
  · split
    · rename_i hempty
      simp [act?, hset, hempty, Except.toOption]
    · rename_i hfull
      split
      · rename_i hb'
        simp [act?, hclear, hfull, Except.toOption, List.isEmpty_iff.1 hb']
      · simp [act?, hclear, hset, hfull, Except.toOption]

/-- The actions for shard keys lead from the one to the other. -/
theorem foldlM_ofShardKeys (t : Table) (b : Option ShardKey) :
    (ofShardKeys t.shardKey b).foldlM act? t = some { t with shardKey := b } := by
  obtain ⟨name, schema, primaryKey, shardKey, columns, foreignKeys, relationships⟩ := t
  cases shardKey with
  | none => cases b <;> simp [ofShardKeys, act?, setShardKey]
  | some a =>
      cases b with
      | none => simp [ofShardKeys, act?, clearShardKey]
      | some b => by_cases hab : a = b <;> simp [ofShardKeys, act?, setShardKey, hab]

/-- The actions for two tables lead from the first to one that keeps its name and its schema and
agrees with the second. -/
theorem exists_foldlM_ofTables (a b : Table)
    (hb : ∀ column ∈ b.primaryKey, Text.isBlank column = false) :
    ∃ t, (ofTables a b).foldlM act? a = some t ∧ t.name = a.name ∧ t.schema = a.schema
      ∧ t.Agrees b := by
  obtain ⟨fks, hfks, hsameFks⟩ := exists_foldlM_follow? ForeignKey.same ForeignKey.same_self
    (changes_exchange? ForeignKey.same_self) a.foreignKeys b.foreignKeys
  obtain ⟨rels, hrels, hsameRels⟩ := exists_foldlM_follow? (fun x y => x == y) (by simp)
    (changes_exchange? (by simp)) a.relationships b.relationships
  obtain ⟨cols, hcols, hsameCols⟩ := exists_foldlM_follow? (fun x y => x.type == y.type) (by simp)
    (changes_overwrite? (by simp)) a.columns b.columns
  -- The table after the keys, and then after each catalog.
  let t₂ : Table := { a with primaryKey := b.primaryKey, shardKey := b.shardKey }
  let t₃ : Table := { t₂ with foreignKeys := fks }
  let t₄ : Table := { t₃ with relationships := rels }
  have hrun₂ : (ofPrimaryKeys a.primaryKey b.primaryKey ++ ofShardKeys a.shardKey b.shardKey).foldlM
      act? a = some t₂ := by
    rw [List.foldlM_append, foldlM_ofPrimaryKeys a hb]
    exact foldlM_ofShardKeys { a with primaryKey := b.primaryKey } b.shardKey
  have hrun₃ : ((a.foreignKeys.pair b.foreignKeys).flatMap ofForeignKeys).foldlM act? t₂
      = some t₃ := by
    rw [foldlM_flatMap_part foreignKeysPart foldlM_ofForeignKeys]
    exact congrArg (Option.map (foreignKeysPart.put t₂)) hfks
  have hrun₄ : ((a.relationships.pair b.relationships).flatMap ofRelationships).foldlM act? t₃
      = some t₄ := by
    rw [foldlM_flatMap_part relationshipsPart foldlM_ofRelationships]
    exact congrArg (Option.map (relationshipsPart.put t₃)) hrels
  have hrun₅ : ((a.columns.pair b.columns).flatMap ofColumns).foldlM act? t₄
      = some { t₄ with columns := cols } := by
    rw [foldlM_flatMap_part columnsPart foldlM_ofColumns]
    exact congrArg (Option.map (columnsPart.put t₄)) hcols
  refine ⟨{ t₄ with columns := cols }, ?_, rfl, rfl, ?_⟩
  · rw [ofTables, List.foldlM_append, List.foldlM_append, List.foldlM_append, hrun₂]
    show (((_ : List ChangeAction).foldlM act? t₂ >>= _) >>= _) = _
    rw [hrun₃]
    show ((_ : List ChangeAction).foldlM act? t₃ >>= _) = _
    rw [hrun₄]
    exact hrun₅
  · exact {
      primaryKey := rfl
      shardKey := rfl
      foreignKeys := hsameFks
      relationships := fun key => by
        have h := hsameRels key
        simp only [beq_iff_eq] at h
        simpa using (rel_image_iff id _ _).1 h
      columns := fun key => by
        have h := hsameCols key
        simp only [beq_iff_eq] at h
        exact (rel_image_iff (fun c : Column => c.type) _ _).1 h }

/-- An action that fits changes neither the name of a table nor its schema. -/
theorem name_schema_of_act? {t t' : Table} {action : ChangeAction} (h : t.act? action = some t') :
    t'.name = t.name ∧ t'.schema = t.schema := by
  have hset : ∀ key, (t.setPrimaryKey key).toOption = some t' →
      t'.name = t.name ∧ t'.schema = t.schema := by
    intro key h
    cases hkey : t.setPrimaryKey key with
    | error _ => simp [hkey, Except.toOption] at h
    | ok u =>
        simp only [hkey, Except.toOption, Option.some.injEq] at h
        subst h
        exact (Edit.setPrimaryKey hkey).name_schema_eq
  cases action with
  | tableCreated _ => cases h
  | tableDropped _ => cases h
  | primaryKeyAdded columns =>
      simp only [act?] at h
      split at h
      · exact hset _ h
      · cases h
  | primaryKeyDropped =>
      simp only [act?] at h
      split at h
      · cases h
      · exact hset _ h
  | shardKeyAdded key =>
      cases h
      exact ⟨rfl, rfl⟩
  | shardKeyDropped =>
      simp only [act?] at h
      split at h
      · cases h
        exact ⟨rfl, rfl⟩
      · cases h
  | _ =>
      obtain ⟨_, -, rfl⟩ := Option.map_eq_some_iff.1 h
      exact ⟨rfl, rfl⟩

end Table

/-! ## Databases -/

namespace Database

open ChangeAction

/-- A change that speaks of a table where it is acts on this table alone. -/
theorem change?_of_act? {db : Database} {t t' : Table} {action : ChangeAction}
    (found : db.table? t.name = some t) (h : t.act? action = some t') :
    db.change? ⟨db.place t, action⟩ = some (db.editTable t.name fun _ => t') := by
  have hfound : db.table? (db.place t).table = some t := found
  cases action with
  | tableCreated _ => cases h
  | tableDropped _ => cases h
  | _ => simp [change?, hfound, h]

/-- Actions that fit a table, made one by one as changes to its database, lead to the database that
has the changed table in its place. -/
theorem exists_foldlM_change? {acts : List ChangeAction} {db : Database} {t t' : Table}
    (found : db.table? t.name = some t) (h : acts.foldlM Table.act? t = some t') :
    ∃ db', (acts.map (⟨db.place t, ·⟩)).foldlM change? db = some db' ∧ db'.name = db.name
      ∧ db'.table? t.name = some t' ∧ ∀ key, key ≠ t.name → db'.table? key = db.table? key := by
  induction acts generalizing db t with
  | nil =>
      cases h
      exact ⟨db, rfl, rfl, found, fun _ _ => rfl⟩
  | cons action acts ih =>
      rw [List.foldlM_cons] at h
      obtain ⟨u, hu, h⟩ := Option.bind_eq_some_iff.1 h
      obtain ⟨hname, hschema⟩ := Table.name_schema_of_act? hu
      have hedit : ∀ key, (db.editTable t.name fun _ => u).table? key
          = if t.name = key then some u else db.table? key := by
        intro key
        rw [table?_editTable found, ← hname, ← hschema]
      -- The changes that follow still speak of the place that the table had at first.
      have hplace : (db.editTable t.name fun _ => u).place u = db.place t := by
        simp [place, editTable, found, hname, hschema]
      obtain ⟨db', hrun, hdb', hu', hframe⟩ := ih (by rw [hedit, hname, if_pos rfl]) h
      refine ⟨db', ?_, ?_, ?_, ?_⟩
      · rw [hplace] at hrun
        rw [List.map_cons, List.foldlM_cons, change?_of_act? found hu]
        exact hrun
      · rw [hdb']
        simp [editTable, found]
      · rw [← hname, hu']
      · intro key hne
        rw [hframe key (hname ▸ hne), hedit, if_neg hne.symm]

/-- What replaying a comparison is to leave under the name of a pairing: nothing where only the
first database has a table, the table of the second where only this has one, and otherwise a table
with the name and the schema of the first that agrees with the second. -/
def Settled : Pairing Table → Option Table → Prop
  | .first _, found => found = none
  | .second t, found => found = some t
  | .both t₁ t₂, found =>
      ∃ t, found = some t ∧ t.name = t₁.name ∧ t.schema = t₁.schema ∧ t.Agrees t₂

/-- What is settled agrees with the second database. -/
theorem Settled.rel {p : Pairing Table} {found : Option Table} (h : Settled p found) :
    Option.Rel Table.Agrees found p.right? := by
  cases p with
  | first _ =>
      rw [h]
      exact .none
  | second t =>
      rw [h]
      exact .some (Table.Agrees.refl t)
  | both _ _ =>
      obtain ⟨t, hfound, -, -, hagrees⟩ := h
      rw [hfound]
      exact .some hagrees

/-- The changes for the tables of one name settle this name and touch no other. -/
theorem exists_foldlM_changesFor {db₁ db₂ : Database} (h₂ : db₂.Built) {p : Pairing Table}
    (hp : p ∈ db₁.tables.pair db₂.tables) {db : Database} (hname : db.name = db₁.name)
    (hleft : db.table? p.key = p.left?) :
    ∃ db', (db₁.changesFor p).foldlM change? db = some db' ∧ db'.name = db₁.name
      ∧ Settled p (db'.table? p.key) ∧ ∀ key, key ≠ p.key → db'.table? key = db.table? key := by
  have hplace : ∀ t, db₁.place t = db.place t := fun t => by simp [place, hname]
  have hright : db₂.table? p.key = p.right? := ((Catalog.mem_pair_iff _ _ _).1 hp).2
  cases p with
  | first t =>
      have hfound : db.table? t.name = some t := hleft
      refine ⟨db.dropTable t.name, ?_, ?_, ?_, ?_⟩
      · simp [changesFor, change?, place, hfound, hname]
      · simp [dropTable, hfound, hname]
      · exact (table?_dropTable ..).trans (if_pos rfl)
      · intro key hne
        exact (table?_dropTable ..).trans (if_neg hne.symm)
  | second t =>
      have hfree : t.name ∉ db.tableNames := by
        rw [mem_tableNames_iff]
        rintro ⟨u, hu⟩
        cases hu.symm.trans hleft
      refine ⟨db.addTable t, ?_, hname, ?_, ?_⟩
      · simp [changesFor, hplace, change?, hfree]
      · exact (table?_addTable ..).trans (if_pos rfl)
      · intro key hne
        exact (table?_addTable ..).trans (if_neg hne.symm)
  | both t₁ t₂ =>
      obtain ⟨t, hacts, htname, htschema, hagrees⟩ := Table.exists_foldlM_ofTables t₁ t₂
        (h₂.table hright).primaryKey_not_blank
      have hfound₁ : db.table? t₁.name = some t₁ := hleft
      obtain ⟨db', hrun, hdb', hfound, hframe⟩ := exists_foldlM_change? hfound₁ hacts
      refine ⟨db', ?_, hdb'.trans hname, ⟨t, hfound, htname, htschema, hagrees⟩, hframe⟩
      rw [changesFor, hplace]
      exact hrun

/-- Replaying the changes for the first database settles every name; a name that is not settled is
unknown to both databases and stays unknown. -/
theorem exists_replay?_settled (db₁ db₂ : Database) (h₂ : db₂.Built) :
    ∃ db, db₁.replay? (db₁.compare db₂).first = some db ∧ db.name = db₁.name ∧ ∀ table,
      (∃ p, db₁.table? table = p.left? ∧ db₂.table? table = p.right? ∧ Settled p (db.table? table))
        ∨ (db₁.table? table = none ∧ db₂.table? table = none ∧ db.table? table = none) := by
  obtain ⟨db, hrun, hname, hsettled, hframe⟩ := exists_foldlM_pairings table?
    (fun db p => (db₁.changesFor p).foldlM change? db) (fun db => db.name = db₁.name) Settled
    (db₁.tables.pair db₂.tables) (Catalog.nodup_map_key_pair _ _)
    (fun p hp db hname hleft => exists_foldlM_changesFor h₂ hp hname hleft)
    db₁ rfl fun p hp => ((Catalog.mem_pair_iff _ _ p).1 hp).1
  refine ⟨db, ?_, hname, fun table => ?_⟩
  · rw [compare_eq, replay?, changesTo, foldlM_flatMap]
    exact hrun
  · by_cases hmem : table ∈ (db₁.tables.pair db₂.tables).map Pairing.key
    · obtain ⟨p, hp, rfl⟩ := List.mem_map.1 hmem
      obtain ⟨hleft, hright⟩ := (Catalog.mem_pair_iff _ _ _).1 hp
      exact .inl ⟨p, hleft, hright, hsettled p hp⟩
    · -- A name that is not paired is that of no table in either database.
      obtain ⟨h₁, h₂⟩ := Catalog.get?_eq_none_of_unpaired hmem
      exact .inr ⟨h₁, h₂, (hframe table hmem).trans h₁⟩

/-- **A comparison can be replayed.** The changes that a comparison lists for the first database all
fit when they are made one by one in their order, and they lead to a database that has nothing more
to change towards the second. A table that only the second database has is then exactly as it is
there, a table that only the first has is gone, and a table of both has kept its name and its schema
and agrees with the one in the second. -/
theorem replay_compare (db₁ db₂ : Database) (h₂ : db₂.Built) :
    ∃ db, db₁.replay? (db₁.compare db₂).first = some db ∧ db.name = db₁.name
      ∧ (db.compare db₂).isEmpty = true
      ∧ (∀ table, table ∉ db₁.tableNames → db.table? table = db₂.table? table)
      ∧ (∀ table, table ∉ db₂.tableNames → db.table? table = none)
      ∧ ∀ table t₁ t₂, db₁.table? table = some t₁ → db₂.table? table = some t₂ →
        ∃ t, db.table? table = some t ∧ t.name = t₁.name ∧ t.schema = t₁.schema
          ∧ t.Agrees t₂ := by
  obtain ⟨db, hrun, hname, hall⟩ := exists_replay?_settled db₁ db₂ h₂
  have hagrees : db.Agrees db₂ := by
    refine agrees_of_rel fun table => ?_
    rcases hall table with ⟨p, -, hright, hp⟩ | ⟨-, h₂, h⟩
    · rw [hright]
      exact hp.rel
    · rw [h, h₂]
      exact .none
  refine ⟨db, hrun, hname, (isEmpty_compare_iff _ _).2 hagrees, ?_, ?_, ?_⟩
  · intro table hne
    have hnone : db₁.table? table = none := (Catalog.get?_eq_none_iff _ _).2 hne
    rcases hall table with ⟨p, hleft, hright, hp⟩ | ⟨-, h₂, h⟩
    · cases p with
      | second t => exact hp.trans hright.symm
      | _ => cases hnone.symm.trans hleft
    · rw [h, h₂]
  · intro table hne
    have hnone : db₂.table? table = none := (Catalog.get?_eq_none_iff _ _).2 hne
    rcases hall table with ⟨p, hleft, hright, hp⟩ | ⟨-, -, h⟩
    · cases p with
      | first t => exact hp
      | _ => cases hnone.symm.trans hright
    · exact h
  · intro table t₁ t₂ h₁ h₂
    rcases hall table with ⟨p, hleft, hright, hp⟩ | ⟨hnone, -, -⟩
    · cases p with
      | both u₁ u₂ =>
          cases h₁.symm.trans hleft
          cases h₂.symm.trans hright
          exact hp
      | first _ => cases h₂.symm.trans hright
      | second _ => cases h₁.symm.trans hleft
    · cases h₁.symm.trans hnone

/-- A table that gets a primary key and another column type, and stays in its schema. -/
theorem replay_compare_orders :
    let orders : Table := {
      name := "orders"
      schema := "sales"
      primaryKey := ["id"]
      shardKey := none
      columns := Catalog.empty.insert ⟨"id", .bigint⟩
      foreignKeys := .empty
      relationships := .empty }
    let orders₁ := { orders with
      schema := "archive"
      primaryKey := []
      columns := Catalog.empty.insert ⟨"id", .int⟩ }
    let db₁ := (⟨"shop", .empty, .empty⟩ : Database).addTable orders₁
    let db₂ := (⟨"depot", .empty, .empty⟩ : Database).addTable orders
    db₂.Built ∧ ∃ db, db₁.replay? (db₁.compare db₂).first = some db
      ∧ (db.compare db₂).isEmpty = true
      ∧ ∃ t, db.table? "orders" = some t ∧ t.schema = "archive" ∧ t.Agrees orders := by
  intro orders orders₁ db₁ db₂
  have hbare : Table.inSchema "orders" "sales"
      = .ok { orders with primaryKey := [], columns := .empty } := rfl
  have hcolumn : Column.make "id" "BIGINT" = .ok ⟨"id", .bigint⟩ := rfl
  have hkey : Table.setPrimaryKey { orders with primaryKey := [] } (.one "id") = .ok orders := rfl
  have hdepot : Database.make "depot" = .ok ⟨"depot", .empty, .empty⟩ := rfl
  have horders : orders.Built :=
    .edit (.edit (.inSchema hbare) (.addColumn hcolumn)) (.setPrimaryKey hkey)
  have h₂ : db₂.Built := .addTable (.make hdepot) horders
  obtain ⟨db, hrun, -, hempty, -, -, hshared⟩ := replay_compare db₁ db₂ h₂
  obtain ⟨t, hfound, -, hschema, hagrees⟩ := hshared "orders" orders₁ orders rfl rfl
  exact ⟨h₂, db, hrun, hempty, t, hfound, hschema, hagrees⟩

end Database

end Schemata
