import Mathlib.Data.List.Induction
import Schemata.Proofs.Calls

/-! # The order in which names come in

What a catalog holds, and in which order, can be read off from all that has happened to it. A name
is there when something has been added under it and it has not been dropped since. It stands in the
order of the first addition after its last drop, however often it has been added again, and what
stands there is what was added last. Whatever calls are made on a table, its columns, its foreign
keys and its relationships keep to this, each kind by its own additions and drops. -/

namespace Schemata

/-! ## Histories -/

namespace Catalog

/-- Something that happens to a catalog. -/
inductive Event (α : Type) where
  /-- A thing is added, in the place of any member of its name. -/
  | add (x : α)
  /-- A name is dropped, whether it is there or not. -/
  | drop (key : String)

variable {α : Type} [Named α]

/-- The catalog after something has happened to it. -/
def after (c : Catalog α) : Event α → Catalog α
  | .add x => c.insert x
  | .drop key => c.erase key

/-- The catalog after one thing after the other has happened to it. -/
def replay (c : Catalog α) (history : List (Event α)) : Catalog α := history.foldl after c

/-- What happens in two parts happens one after the other. -/
theorem replay_append (c : Catalog α) (first second : List (Event α)) :
    c.replay (first ++ second) = (c.replay first).replay second :=
  List.foldl_append

/-- In a history, a thing is added between what happened before and what has happened since, and its
name has not been dropped since. -/
structure Added (before : List (Event α)) (x : α) (since history : List (Event α)) : Prop where
  /-- The thing is added between the two parts of the history. -/
  eq : history = before ++ .add x :: since
  /-- Its name is not dropped in the second one. -/
  kept : .drop (name x) ∉ since

/-- A name stands when something has been added under it and it has not been dropped since. -/
def Stands (history : List (Event α)) (key : String) : Prop :=
  ∃ before x since, Added before x since history ∧ name x = key

/-- A name comes in at a place of a history when it is added there without standing before, and has
not been dropped since. -/
def ComesIn (history : List (Event α)) (key : String) (place : Nat) : Prop :=
  ∃ before x since, Added before x since history ∧ name x = key ∧ ¬ Stands before key
    ∧ place = before.length

/-- A thing is the latest of its name when it has been added, and its name has neither been dropped
nor added again since. -/
def IsLatest (history : List (Event α)) (x : α) : Prop :=
  ∃ before since, Added before x since history ∧ ∀ y, .add y ∈ since → name y ≠ name x

/-! ### One event more -/

section Concat

variable {history : List (Event α)}

/-- What has been added in a history with one event more: the last event adds it, or it has been
added before and the last event does not drop its name. -/
theorem added_concat_iff {before since : List (Event α)} {x : α} {e : Event α} :
    Added before x since (history ++ [e])
      ↔ (before = history ∧ e = .add x ∧ since = [])
        ∨ ∃ most, since = most ++ [e] ∧ Added before x most history ∧ e ≠ .drop (name x) := by
  constructor
  · rintro ⟨heq, hkept⟩
    -- The last event is either the addition itself or the last one since.
    rcases List.eq_nil_or_concat since with rfl | ⟨most, last, rfl⟩
    · obtain ⟨rfl, hlast⟩ := List.append_inj' heq rfl
      cases hlast
      exact .inl ⟨rfl, rfl, rfl⟩
    · rw [List.concat_eq_append] at heq hkept ⊢
      rw [← List.cons_append, ← List.append_assoc] at heq
      obtain ⟨rfl, hlast⟩ := List.append_inj' heq rfl
      cases hlast
      simp only [List.mem_append, List.mem_singleton, not_or] at hkept
      exact .inr ⟨most, rfl, ⟨rfl, hkept.1⟩, Ne.symm hkept.2⟩
  · rintro (⟨rfl, rfl, rfl⟩ | ⟨most, rfl, ⟨rfl, hkept⟩, hne⟩)
    · exact ⟨rfl, List.not_mem_nil⟩
    · refine ⟨by simp, ?_⟩
      simp only [List.mem_append, List.mem_singleton, not_or]
      exact ⟨hkept, Ne.symm hne⟩

/-- The names that stand after one more addition. -/
theorem stands_concat_add (x : α) (key : String) :
    Stands (history ++ [.add x]) key ↔ name x = key ∨ Stands history key := by
  constructor
  · rintro ⟨before, y, since, hadded, hname⟩
    rcases added_concat_iff.1 hadded with ⟨-, hlast, -⟩ | ⟨most, -, hmost, -⟩
    · cases hlast
      exact .inl hname
    · exact .inr ⟨before, y, most, hmost, hname⟩
  · rintro (hname | ⟨before, y, since, hadded, hname⟩)
    · exact ⟨history, x, [], added_concat_iff.2 (.inl ⟨rfl, rfl, rfl⟩), hname⟩
    · exact ⟨before, y, _, added_concat_iff.2 (.inr ⟨since, rfl, hadded, by simp⟩), hname⟩

/-- The names that stand after one more drop. -/
theorem stands_concat_drop (gone key : String) :
    Stands (history ++ [.drop gone]) key ↔ key ≠ gone ∧ Stands history key := by
  constructor
  · rintro ⟨before, y, since, hadded, rfl⟩
    rcases added_concat_iff.1 hadded with ⟨-, hlast, -⟩ | ⟨most, -, hmost, hne⟩
    · cases hlast
    · refine ⟨?_, before, y, most, hmost, rfl⟩
      rintro rfl
      exact hne rfl
  · rintro ⟨hne, before, y, since, hadded, rfl⟩
    refine ⟨before, y, _, added_concat_iff.2 (.inr ⟨since, rfl, hadded, ?_⟩), rfl⟩
    rintro hlast
    cases hlast
    exact hne rfl

/-- A name that comes in somewhere stands. -/
theorem ComesIn.stands {key : String} {place : Nat} (h : ComesIn history key place) :
    Stands history key := by
  obtain ⟨before, x, since, hadded, hname, -⟩ := h
  exact ⟨before, x, since, hadded, hname⟩

/-- A name comes in at a place that the history has. -/
theorem ComesIn.lt {key : String} {place : Nat} (h : ComesIn history key place) :
    place < history.length := by
  obtain ⟨before, x, since, ⟨rfl, -⟩, -, -, rfl⟩ := h
  simp

/-- Where names come in after one more addition: a new one at the end. -/
theorem comesIn_concat_add (x : α) (key : String) (place : Nat) :
    ComesIn (history ++ [.add x]) key place
      ↔ ComesIn history key place
        ∨ (name x = key ∧ ¬ Stands history key ∧ place = history.length) := by
  constructor
  · rintro ⟨before, y, since, hadded, hname, hnew, hplace⟩
    rcases added_concat_iff.1 hadded with ⟨rfl, hlast, -⟩ | ⟨most, -, hmost, -⟩
    · cases hlast
      exact .inr ⟨hname, hnew, hplace⟩
    · exact .inl ⟨before, y, most, hmost, hname, hnew, hplace⟩
  · rintro (⟨before, y, since, hadded, hrest⟩ | ⟨hname, hnew, hplace⟩)
    · exact ⟨before, y, _, added_concat_iff.2 (.inr ⟨since, rfl, hadded, by simp⟩), hrest⟩
    · exact ⟨history, x, [], added_concat_iff.2 (.inl ⟨rfl, rfl, rfl⟩), hname, hnew, hplace⟩

/-- Where names come in after one more drop: where they came in before. -/
theorem ComesIn.of_concat_drop {gone key : String} {place : Nat}
    (h : ComesIn (history ++ [.drop gone]) key place) : ComesIn history key place := by
  obtain ⟨before, y, since, hadded, hrest⟩ := h
  rcases added_concat_iff.1 hadded with ⟨-, hlast, -⟩ | ⟨most, -, hmost, -⟩
  · cases hlast
  · exact ⟨before, y, most, hmost, hrest⟩

/-- A drop of another name leaves a name where it came in. -/
theorem ComesIn.concat_drop {gone key : String} {place : Nat} (h : ComesIn history key place)
    (hne : key ≠ gone) : ComesIn (history ++ [.drop gone]) key place := by
  obtain ⟨before, y, since, hadded, rfl, hrest⟩ := h
  refine ⟨before, y, _, added_concat_iff.2 (.inr ⟨since, rfl, hadded, ?_⟩), rfl, hrest⟩
  rintro hlast
  cases hlast
  exact hne rfl

/-- The latest things after one more addition. -/
theorem isLatest_concat_add (x y : α) :
    IsLatest (history ++ [.add x]) y ↔ y = x ∨ (IsLatest history y ∧ name y ≠ name x) := by
  constructor
  · rintro ⟨before, since, hadded, hlatest⟩
    rcases added_concat_iff.1 hadded with ⟨-, hlast, -⟩ | ⟨most, rfl, hmost, -⟩
    · cases hlast
      exact .inl rfl
    · refine .inr ⟨⟨before, most, hmost, fun z hz => hlatest z (by simp [hz])⟩, ?_⟩
      exact Ne.symm (hlatest x (by simp))
  · rintro (rfl | ⟨⟨before, since, hadded, hlatest⟩, hne⟩)
    · exact ⟨history, [], added_concat_iff.2 (.inl ⟨rfl, rfl, rfl⟩), by simp⟩
    · refine ⟨before, _, added_concat_iff.2 (.inr ⟨since, rfl, hadded, by simp⟩), ?_⟩
      intro z hz
      rcases List.mem_append.1 hz with hz | hz
      · exact hlatest z hz
      · cases List.mem_singleton.1 hz
        exact Ne.symm hne

/-- The latest things after one more drop. -/
theorem isLatest_concat_drop (gone : String) (y : α) :
    IsLatest (history ++ [.drop gone]) y ↔ IsLatest history y ∧ name y ≠ gone := by
  constructor
  · rintro ⟨before, since, hadded, hlatest⟩
    rcases added_concat_iff.1 hadded with ⟨-, hlast, -⟩ | ⟨most, rfl, hmost, hne⟩
    · cases hlast
    · refine ⟨⟨before, most, hmost, fun z hz => hlatest z (by simp [hz])⟩, ?_⟩
      rintro rfl
      exact hne rfl
  · rintro ⟨⟨before, since, hadded, hlatest⟩, hne⟩
    refine ⟨before, _, added_concat_iff.2 (.inr ⟨since, rfl, hadded, ?_⟩), ?_⟩
    · rintro hlast
      cases hlast
      exact hne rfl
    · intro z hz
      rcases List.mem_append.1 hz with hz | hz
      · exact hlatest z hz
      · cases List.mem_singleton.1 hz

/-- A name that stands has come in somewhere. -/
theorem exists_comesIn {key : String} (h : Stands history key) :
    ∃ place, ComesIn history key place := by
  -- On the history from its end. A name that stands anew after the last event comes in there.
  induction history using List.reverseRecOn with
  | nil =>
      obtain ⟨before, x, since, ⟨heq, -⟩, -⟩ := h
      simp at heq
  | append_singleton history e ih =>
      cases e with
      | add x =>
          by_cases hold : Stands history key
          · obtain ⟨place, hplace⟩ := ih hold
            exact ⟨place, (comesIn_concat_add _ _ _).2 (.inl hplace)⟩
          · have hname := ((stands_concat_add _ _).1 h).resolve_right hold
            exact ⟨_, (comesIn_concat_add _ _ _).2 (.inr ⟨hname, hold, rfl⟩)⟩
      | drop gone =>
          obtain ⟨hne, hold⟩ := (stands_concat_drop _ _).1 h
          obtain ⟨place, hplace⟩ := ih hold
          exact ⟨place, hplace.concat_drop hne⟩

end Concat

/-! ## Catalogs and their histories -/

/-- A catalog is what a history has made of it: the names that are there, their order, and the
members. -/
structure Follows (c : Catalog α) (history : List (Event α)) : Prop where
  /-- The names that are there are those that have been added and not dropped since. -/
  mem_names_iff : ∀ key, key ∈ c.names ↔ Stands history key
  /-- A name that is there has come in somewhere. -/
  exists_place : ∀ key ∈ c.names, ∃ place, ComesIn history key place
  /-- The names stand in the order in which they came in. -/
  ordered : c.names.Pairwise fun a b => ∀ i j, ComesIn history a i → ComesIn history b j → i < j
  /-- The members are those that have been added last under their names. -/
  mem_iff : ∀ x, x ∈ c.toList ↔ IsLatest history x

/-- What a history is followed by when nothing has happened: a catalog without members. -/
theorem follows_nil : (empty : Catalog α).Follows [] := by
  have hstands : ∀ key, ¬ Stands ([] : List (Event α)) key := by
    rintro key ⟨before, x, since, ⟨heq, -⟩, -⟩
    simp at heq
  refine ⟨fun key => ?_, by simp [names], by simp [names], fun x => ?_⟩
  · simp [names, hstands key]
  · have hlatest : ¬ IsLatest [] x := by
      rintro ⟨before, since, ⟨heq, -⟩, -⟩
      simp at heq
    simp [hlatest]

namespace Follows

variable {c : Catalog α} {history : List (Event α)} (h : c.Follows history)
include h

/-- An addition is followed: a name that is there keeps its place, and another one comes last. -/
theorem add (x : α) : (c.insert x).Follows (history ++ [.add x]) := by
  have hmem : ∀ key, key ∈ (c.insert x).names ↔ Stands (history ++ [.add x]) key := by
    intro key
    rw [stands_concat_add, ← h.mem_names_iff, names_insert]
    by_cases hx : name x ∈ c.names
    · rw [if_pos hx]
      refine ⟨.inr, ?_⟩
      rintro (rfl | hkey)
      · exact hx
      · exact hkey
    · rw [if_neg hx, List.mem_append, List.mem_singleton, or_comm, eq_comm]
  refine ⟨hmem, fun key hkey => exists_comesIn ((hmem key).1 hkey), ?_, fun y => ?_⟩
  · -- A name that was there came in where it did before.
    have hplace : ∀ key ∈ c.names, ∀ i, ComesIn (history ++ [.add x]) key i
        → ComesIn history key i := by
      intro key hkey i hi
      rcases (comesIn_concat_add _ _ _).1 hi with hi | ⟨-, hnew, -⟩
      · exact hi
      · exact absurd ((h.mem_names_iff key).1 hkey) hnew
    have hold : c.names.Pairwise fun a b => ∀ i j,
        ComesIn (history ++ [.add x]) a i → ComesIn (history ++ [.add x]) b j → i < j :=
      h.ordered.imp_of_mem fun ha hb hab i j hi hj =>
        hab i j (hplace _ ha i hi) (hplace _ hb j hj)
    rw [names_insert]
    by_cases hx : name x ∈ c.names
    · rwa [if_pos hx]
    · rw [if_neg hx, List.pairwise_append]
      refine ⟨hold, List.pairwise_singleton _ _, ?_⟩
      intro a ha b hb i j hi hj
      rw [List.mem_singleton] at hb
      subst hb
      -- The new name comes in at the end, and the others before.
      rcases (comesIn_concat_add _ _ _).1 hj with hj | ⟨-, -, rfl⟩
      · exact absurd ((h.mem_names_iff _).2 hj.stands) hx
      · exact (hplace a ha i hi).lt
  · rw [toList_insert, mem_putNamed x c.nodup, isLatest_concat_add, h.mem_iff]

/-- A drop is followed: the other names keep their order. -/
theorem drop (gone : String) : (c.erase gone).Follows (history ++ [.drop gone]) := by
  have hmem : ∀ key, key ∈ (c.erase gone).names ↔ Stands (history ++ [.drop gone]) key := by
    intro key
    rw [stands_concat_drop, ← h.mem_names_iff, names_erase, List.mem_filter, bne_iff_ne, and_comm]
  refine ⟨hmem, fun key hkey => exists_comesIn ((hmem key).1 hkey), ?_, fun y => ?_⟩
  · -- A drop lets no name come in, so the places are those of before.
    rw [names_erase]
    exact (h.ordered.imp fun hab i j hi hj =>
      hab i j hi.of_concat_drop hj.of_concat_drop).filter _
  · rw [toList_erase, List.mem_filter, bne_iff_ne, isLatest_concat_drop, h.mem_iff]

/-- What happens is followed, one event after the other. -/
theorem replay (events : List (Event α)) : (c.replay events).Follows (history ++ events) := by
  induction events generalizing c history with
  | nil => rwa [List.append_nil]
  | cons e events ih =>
      have hnext : (c.after e).Follows (history ++ [e]) := by
        cases e with
        | add x => exact h.add x
        | drop gone => exact h.drop gone
      have hrest := ih hnext
      rwa [List.append_assoc] at hrest

end Follows

/-- What has happened to a catalog: its members count as added in their order. -/
def history (c : Catalog α) (events : List (Event α)) : List (Event α) :=
  c.toList.map .add ++ events

/-- Whatever happens to a catalog, it is what its history has made of it. -/
theorem follows_history (c : Catalog α) (events : List (Event α)) :
    (c.replay events).Follows (c.history events) := by
  -- The names of the members differ, so adding them in their order makes the catalog itself.
  have hstart : (empty : Catalog α).replay (c.toList.map .add) = c := by
    refine ext ?_
    have hinsert : (empty : Catalog α).replay (c.toList.map .add) = empty.insertAll c.toList := by
      rw [Catalog.replay, List.foldl_map]
      rfl
    rw [hinsert, toList_insertAll _ (by simpa using c.nodup)]
    rfl
  have hc : c.Follows (c.toList.map .add) := by
    have hfollows := follows_nil.replay (c.toList.map Event.add)
    rwa [hstart, List.nil_append] at hfollows
  exact hc.replay events

end Catalog

/-! ## Calls on tables -/

namespace Table

open Catalog (Event)

/-- What happens to a catalog where things are made and added, if they are made. -/
def additions {α : Type} (made : Except Error (List α)) : List (Event α) :=
  match made with
  | .ok things => things.map .add
  | .error _ => []

/-- What a call does to the columns of a table. -/
def Call.columnEvents : Call → List (Event Column)
  | .addColumn name type => additions (List.singleton <$> Column.make name type)
  | .addColumns columns => additions (columns.mapM fun c => Column.make c.1 c.2)
  | .dropColumn column => [.drop column]
  | _ => []

/-- What a call does to the foreign keys of a table of a given name. -/
def Call.foreignKeyEvents (table : String) : Call → List (Event ForeignKey)
  | .addForeignKey source sourceKeys target targetKeys name? =>
      additions (List.singleton <$> ForeignKey.make source sourceKeys target targetKeys name?)
  | .referTo sourceKeys target targetKeys name? =>
      additions (List.singleton <$> ForeignKey.make table sourceKeys target targetKeys name?)
  | .dropForeignKey key => [.drop key]
  | _ => []

/-- What a call does to the relationships of a table of a given name. -/
def Call.relationshipEvents (table : String) : Call → List (Event Relationship)
  | .addRelationship source target condition name? =>
      additions (List.singleton <$> Relationship.make source target condition name?)
  | .relateTo target condition name? =>
      additions (List.singleton <$> Relationship.make table target condition name?)
  | .dropRelationship relationship => [.drop relationship]
  | _ => []

/-- A call that checks first leaves what it writes, or the state that it has found. -/
theorem after_checked_eq {σ α : Type} (check : σ → Except Error α) (write : α → σ → σ) (s : σ) :
    (Attempt.checked check write).after s
      = match check s with
        | .ok checked => write checked s
        | .error _ => s := by
  rw [Attempt.after, Attempt.checked_on]
  cases check s <;> rfl

/-- A call does to the columns, the foreign keys and the relationships what it says. -/
theorem parts_after (call : Call) (t : Table) :
    (call.attempt.after t).columns = t.columns.replay call.columnEvents
      ∧ (call.attempt.after t).foreignKeys
        = t.foreignKeys.replay (call.foreignKeyEvents t.name)
      ∧ (call.attempt.after t).relationships
        = t.relationships.replay (call.relationshipEvents t.name) := by
  cases call with
  | addColumn name type =>
      simp only [Call.attempt, after_checked_eq, Call.columnEvents]
      cases Column.make name type <;> exact ⟨rfl, rfl, rfl⟩
  | addColumns columns =>
      simp only [Call.attempt, after_checked_eq, Call.columnEvents]
      cases columns.mapM fun c => Column.make c.1 c.2 with
      | error e => exact ⟨rfl, rfl, rfl⟩
      | ok cs =>
          refine ⟨?_, rfl, rfl⟩
          show t.columns.insertAll cs = t.columns.replay (cs.map .add)
          rw [Catalog.replay, List.foldl_map]
          rfl
  | setPrimaryKey key =>
      simp only [Call.attempt, after_checked_eq]
      cases hset : t.setPrimaryKey key with
      | error e => exact ⟨rfl, rfl, rfl⟩
      | ok t' =>
          obtain ⟨-, rfl⟩ := (setPrimaryKey_eq_ok_iff _ _ _).1 hset
          exact ⟨rfl, rfl, rfl⟩
  | setShardKey columns shards =>
      simp only [Call.attempt, after_checked_eq]
      cases ShardKey.make columns shards <;> exact ⟨rfl, rfl, rfl⟩
  | addForeignKey source sourceKeys target targetKeys name? =>
      simp only [Call.attempt, after_checked_eq, Call.foreignKeyEvents]
      cases ForeignKey.make source sourceKeys target targetKeys name? <;> exact ⟨rfl, rfl, rfl⟩
  | referTo sourceKeys target targetKeys name? =>
      simp only [Call.attempt, after_checked_eq, Call.foreignKeyEvents, referTo]
      cases ForeignKey.make t.name sourceKeys target targetKeys name? <;> exact ⟨rfl, rfl, rfl⟩
  | addRelationship source target condition name? =>
      simp only [Call.attempt, after_checked_eq, Call.relationshipEvents]
      cases Relationship.make source target condition name? <;> exact ⟨rfl, rfl, rfl⟩
  | relateTo target condition name? =>
      simp only [Call.attempt, after_checked_eq, Call.relationshipEvents, relateTo]
      cases Relationship.make t.name target condition name? <;> exact ⟨rfl, rfl, rfl⟩
  | dropColumn | clearShardKey | dropForeignKey | dropRelationship => exact ⟨rfl, rfl, rfl⟩

/-- Calls one after the other do what each of them says. -/
theorem parts_run (t : Table) (calls : List Call) :
    (t.run calls).columns = t.columns.replay (calls.flatMap Call.columnEvents)
      ∧ (t.run calls).foreignKeys
        = t.foreignKeys.replay (calls.flatMap (Call.foreignKeyEvents t.name))
      ∧ (t.run calls).relationships
        = t.relationships.replay (calls.flatMap (Call.relationshipEvents t.name)) := by
  induction calls generalizing t with
  | nil => exact ⟨rfl, rfl, rfl⟩
  | cons call calls ih =>
      -- The name of the table is that of its own keys and relationships, and no call changes it.
      have hname : (call.attempt.after t).name = t.name := (name_schema_of_edits (call.edits t)).1
      obtain ⟨hcolumns, hkeys, hrelationships⟩ := parts_after call t
      obtain ⟨ihcolumns, ihkeys, ihrelationships⟩ := ih (call.attempt.after t)
      rw [hcolumns] at ihcolumns
      rw [hname, hkeys] at ihkeys
      rw [hname, hrelationships] at ihrelationships
      simp only [List.flatMap_cons, Catalog.replay_append]
      exact ⟨ihcolumns, ihkeys, ihrelationships⟩

/-- What a table keeps of one kind, with its own ways to add and to take out, is what a history has
made of it. Adding again moves nothing, and what is taken out is what was added last. -/
structure Keeps {α : Type} [Named α] (part : Table → Catalog α) (add : Table → α → Table)
    (take : Table → String → Option α × Table) (t : Table) (history : List (Event α)) : Prop where
  /-- The names, their order and the members are those of the history. -/
  follows : (part t).Follows history
  /-- What is added under a name that is there takes its place, and no name moves. -/
  names_add : ∀ x, Named.name x ∈ (part t).names →
    (part (add t x)).names = (part t).names ∧ (part (add t x)).get? (Named.name x) = some x
  /-- What is taken out is what has been added last under the name. -/
  taken_iff : ∀ key x,
    (take t key).1 = some x ↔ Named.name x = key ∧ Catalog.IsLatest history x
  /-- Nothing is taken out where the name is not there. -/
  taken_none_iff : ∀ key, (take t key).1 = none ↔ ¬ Catalog.Stands history key
  /-- The other names keep their order. -/
  names_take : ∀ key, (part (take t key).2).names = (part t).names.filter (· != key)

/-- A part of a table that is added to and taken from as a catalog keeps what its history has made
of it. -/
theorem keeps_of_follows {α : Type} [Named α] {part : Table → Catalog α} {add : Table → α → Table}
    {take : Table → String → Option α × Table} {t : Table} {history : List (Event α)}
    (hadd : ∀ x, part (add t x) = (part t).insert x)
    (htake : ∀ key, (take t key).1 = (part t).get? key ∧ part (take t key).2 = (part t).erase key)
    (h : (part t).Follows history) : Keeps part add take t history where
  follows := h
  names_add x hx := by
    rw [hadd, Catalog.names_insert, if_pos hx, Catalog.get?_insert, if_pos rfl]
    exact ⟨rfl, rfl⟩
  taken_iff key x := by
    rw [(htake key).1, Catalog.get?_eq_some_iff, h.mem_iff, and_comm]
  taken_none_iff key := by
    rw [(htake key).1, Catalog.get?_eq_none_iff, h.mem_names_iff]
  names_take key := by rw [(htake key).2, Catalog.names_erase]

/-- Whether a call is about the columns of a table. -/
def Call.onColumns : Call → Bool
  | .addColumn .. | .addColumns .. | .dropColumn .. => true
  | _ => false

/-- **Tables keep the order in which names come in.** Whatever calls are made on a table, one after
the other and with refusals among them, its columns, foreign keys and relationships are what their
own additions and drops have made of them, the members of the table at the start counting as added
in their order. Calls on keys, foreign keys and relationships leave the columns as they are. -/
theorem run_keeps (t : Table) (calls : List Call) :
    Keeps columns addColumn takeColumn (t.run calls)
        (t.columns.history (calls.flatMap Call.columnEvents))
      ∧ Keeps foreignKeys addForeignKey takeForeignKey (t.run calls)
        (t.foreignKeys.history (calls.flatMap (Call.foreignKeyEvents t.name)))
      ∧ Keeps relationships addRelationship takeRelationship (t.run calls)
        (t.relationships.history (calls.flatMap (Call.relationshipEvents t.name)))
      ∧ ∀ (u : Table) (call : Call), call.onColumns = false →
          (call.attempt.after u).columns = u.columns := by
  obtain ⟨hcolumns, hkeys, hrelationships⟩ := parts_run t calls
  refine ⟨?_, ?_, ?_, ?_⟩
  · apply keeps_of_follows (fun _ => rfl) (fun _ => ⟨rfl, rfl⟩)
    rw [hcolumns]
    exact Catalog.follows_history _ _
  · apply keeps_of_follows (fun _ => rfl) (fun _ => ⟨rfl, rfl⟩)
    rw [hkeys]
    exact Catalog.follows_history _ _
  · apply keeps_of_follows (fun _ => rfl) (fun _ => ⟨rfl, rfl⟩)
    rw [hrelationships]
    exact Catalog.follows_history _ _
  · intro u call hother
    rw [(parts_after call u).1]
    cases call with
    | addColumn | addColumns | dropColumn => cases hother
    | _ => rfl

/-- A column that is added again stays in its place, and one that is dropped in between comes
last. -/
example :
    let calls : List Call := [.addColumn "b" "INT", .addColumn "a" "DOUBLE", .addColumn "c" "DATE",
      .addColumn "b" "VARCHAR(10)", .addColumn "a" "money", .dropColumn "a", .addColumn "a" "INT"]
    (((⟨"orders", "sales", [], none, .empty, .empty, .empty⟩ : Table).run calls).columns.toList.map
        fun c => (c.name, c.type.text))
      = [("b", "VARCHAR(10)"), ("c", "DATE"), ("a", "INT")] := by
  decide +kernel

end Table

end Schemata
