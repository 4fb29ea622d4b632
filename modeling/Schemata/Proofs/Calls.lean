import Mathlib.Logic.Relation
import Schemata.Proofs.WellFormed

/-! # Runs of calls

The calls that build databases, as a caller makes them: each names its arguments as they come, makes
the checks that belong to it, and may refuse. A call acts on a state in place, so what it had
written before it refused would stay written; yet every call makes its checks before it writes, and
one that refuses leaves everything as it was. Any number of calls, with refusals among them,
therefore leads to a well-formed database. -/

namespace Schemata

open Relation (ReflTransGen)

/-! ## Calls that may refuse -/

/-- A call on a state. It may write and it may refuse, and what it has written stays written when it
refuses. -/
abbrev Attempt (σ α : Type) := ExceptT Error (StateM σ) α

namespace Attempt

variable {σ α : Type}

/-- The answer of a call and the state that it leaves. -/
def on (a : Attempt σ Unit) (s : σ) : Except Error Unit × σ := Id.run (StateT.run (ExceptT.run a) s)

/-- The state that a call leaves. -/
def after (a : Attempt σ Unit) (s : σ) : σ := (a.on s).2

/-- A call that makes all its checks on the state that it finds and then writes. -/
def checked (check : σ → Except Error α) (write : α → σ → σ) : Attempt σ Unit := do
  let checked ← check (← get)
  modify (write checked)

/-- A call is clean when it leaves every state as it was where it refuses. -/
def Clean (a : Attempt σ Unit) : Prop := ∀ s e, (a.on s).1 = .error e → a.after s = s

/-- What a call does that checks first: it writes if the check goes well, and else it refuses and
writes nothing. -/
theorem checked_on (check : σ → Except Error α) (write : α → σ → σ) (s : σ) :
    (checked check write).on s
      = match check s with
        | .ok checked => (.ok (), write checked s)
        | .error e => (.error e, s) := by
  show on (liftM (check s) >>= fun x => modify (write x)) s = _
  cases check s <;> rfl

/-- A call that checks first is clean. -/
theorem clean_checked (check : σ → Except Error α) (write : α → σ → σ) :
    Clean (checked check write) := by
  intro s e h
  rw [checked_on] at h
  rw [after, checked_on]
  cases hcheck : check s with
  | ok x =>
      rw [hcheck] at h
      cases h
  | error e => rfl

/-- A call that only writes does not refuse. -/
theorem clean_modify (write : σ → σ) : Clean (modify write : Attempt σ Unit) := by
  intro s e h
  cases h

/-- What a call that checks first leaves has a property that the state has and that is kept by what
the call writes. -/
theorem after_checked {check : σ → Except Error α} {write : α → σ → σ} {p : σ → Prop} {s : σ}
    (hs : p s) (hwrite : ∀ x, check s = .ok x → p (write x s)) :
    p ((checked check write).after s) := by
  rw [after, checked_on]
  cases hcheck : check s with
  | ok x => exact hwrite x hcheck
  | error e => exact hs

end Attempt

/-! ## Calls on tables -/

/-- A call on a table. -/
inductive Table.Call where
  /-- Make a column and add it. -/
  | addColumn (name type : String)
  /-- Make columns of given names and types, and add them. -/
  | addColumns (columns : List (String × String))
  /-- Remove a column. -/
  | dropColumn (column : String)
  /-- Replace the primary key. -/
  | setPrimaryKey (key : KeyColumns)
  /-- Make a shard key and put it in the place of any other. -/
  | setShardKey (columns : KeyColumns) (shards : Nat)
  /-- Remove the shard key. -/
  | clearShardKey
  /-- Make a foreign key and add it. -/
  | addForeignKey (source : String) (sourceKeys : KeyColumns) (target : String)
    (targetKeys : KeyColumns) (name? : Option String)
  /-- Add a foreign key from this table. -/
  | referTo (sourceKeys : KeyColumns) (target : String) (targetKeys : KeyColumns)
    (name? : Option String)
  /-- Remove a foreign key. -/
  | dropForeignKey (key : String)
  /-- Make a relationship and add it. -/
  | addRelationship (source target condition : String) (name? : Option String)
  /-- Add a relationship from this table. -/
  | relateTo (target condition : String) (name? : Option String)
  /-- Remove a relationship. -/
  | dropRelationship (relationship : String)

namespace Table

/-- What a call on a table does. -/
def Call.attempt : Call → Attempt Table Unit
  | .addColumn name type => .checked (fun _ => Column.make name type) fun c t => t.addColumn c
  | .addColumns columns =>
      -- All the columns are made before the first is added.
      .checked (fun _ => columns.mapM fun c => Column.make c.1 c.2) fun cs t => t.addColumns cs
  | .dropColumn column => modify (·.dropColumn column)
  | .setPrimaryKey key => .checked (·.setPrimaryKey key) fun t' _ => t'
  | .setShardKey columns shards =>
      .checked (fun _ => ShardKey.make columns shards) fun key t => t.setShardKey key
  | .clearShardKey => modify (·.clearShardKey)
  | .addForeignKey source sourceKeys target targetKeys name? =>
      .checked (fun _ => ForeignKey.make source sourceKeys target targetKeys name?)
        fun key t => t.addForeignKey key
  | .referTo sourceKeys target targetKeys name? =>
      .checked (·.referTo sourceKeys target targetKeys name?) fun t' _ => t'
  | .dropForeignKey key => modify (·.dropForeignKey key)
  | .addRelationship source target condition name? =>
      .checked (fun _ => Relationship.make source target condition name?)
        fun r t => t.addRelationship r
  | .relateTo target condition name? => .checked (·.relateTo target condition name?) fun t' _ => t'
  | .dropRelationship relationship => modify (·.dropRelationship relationship)

/-- The table after calls one after the other, whatever they answer. -/
def run (t : Table) (calls : List Call) : Table :=
  calls.foldl (fun t call => call.attempt.after t) t

/-- Every call on a table is clean. -/
theorem Call.clean (call : Call) : call.attempt.Clean := by
  cases call with
  | dropColumn | clearShardKey | dropForeignKey | dropRelationship => exact Attempt.clean_modify _
  | _ => exact Attempt.clean_checked _ _

/-- Columns that are made one after the other are made each. -/
theorem forall_made_of_mapM {columns : List (String × String)} {cs : List Column}
    (h : (columns.mapM fun c => Column.make c.1 c.2) = .ok cs) :
    ∀ c ∈ cs, ∃ name type, Column.make name type = .ok c := by
  induction columns generalizing cs with
  | nil =>
      cases h
      simp
  | cons column columns ih =>
      rw [List.mapM_cons] at h
      simp only [bind_eq_ok_iff] at h
      obtain ⟨c, hc, rest, hrest, heq⟩ := h
      cases heq
      exact List.forall_mem_cons.2 ⟨⟨_, _, hc⟩, ih hrest⟩

/-- Columns that have been made are added by one edit after the other. -/
theorem edits_addColumns {cs : List Column}
    (made : ∀ c ∈ cs, ∃ name type, Column.make name type = .ok c) (t : Table) :
    ReflTransGen Edit t (t.addColumns cs) := by
  induction cs generalizing t with
  | nil => exact .refl
  | cons c cs ih =>
      obtain ⟨⟨_, _, hc⟩, hcs⟩ := List.forall_mem_cons.1 made
      exact .head (.addColumn hc) (ih hcs (t.addColumn c))

/-- A call makes edits, and none where it refuses. -/
theorem Call.edits (call : Call) (t : Table) : ReflTransGen Edit t (call.attempt.after t) := by
  cases call with
  | addColumn => exact Attempt.after_checked .refl fun _ made => .single (.addColumn made)
  | addColumns =>
      exact Attempt.after_checked .refl fun _ made => edits_addColumns (forall_made_of_mapM made) t
  | dropColumn column => exact .single (.dropColumn column)
  | setPrimaryKey => exact Attempt.after_checked .refl fun _ set => .single (.setPrimaryKey set)
  | setShardKey => exact Attempt.after_checked .refl fun _ made => .single (.setShardKey made)
  | clearShardKey => exact .single .clearShardKey
  | addForeignKey => exact Attempt.after_checked .refl fun _ made => .single (.addForeignKey made)
  | referTo =>
      refine Attempt.after_checked .refl fun t' refers => ?_
      simp only [Table.referTo, bind_eq_ok_iff] at refers
      obtain ⟨key, made, heq⟩ := refers
      cases heq
      exact .single (.addForeignKey made)
  | dropForeignKey key => exact .single (.dropForeignKey key)
  | addRelationship =>
      exact Attempt.after_checked .refl fun _ made => .single (.addRelationship made)
  | relateTo =>
      refine Attempt.after_checked .refl fun t' relates => ?_
      simp only [Table.relateTo, bind_eq_ok_iff] at relates
      obtain ⟨r, made, heq⟩ := relates
      cases heq
      exact .single (.addRelationship made)
  | dropRelationship relationship => exact .single (.dropRelationship relationship)

/-- Edits one after the other change neither the name of a table nor its schema. -/
theorem name_schema_of_edits {t t' : Table} (h : ReflTransGen Edit t t') :
    t'.name = t.name ∧ t'.schema = t.schema := by
  induction h with
  | refl => exact ⟨rfl, rfl⟩
  | tail _ edit ih =>
      obtain ⟨hname, hschema⟩ := edit.name_schema_eq
      exact ⟨hname.trans ih.1, hschema.trans ih.2⟩

/-- Edits one after the other build further. -/
theorem Built.edits {t t' : Table} (h : t.Built) (edits : ReflTransGen Edit t t') : t'.Built := by
  induction edits with
  | refl => exact h
  | tail _ edit ih => exact ih.edit edit

/-- Calls one after the other build further. -/
theorem Built.run {t : Table} (h : t.Built) (calls : List Call) : (t.run calls).Built := by
  induction calls generalizing t with
  | nil => exact h
  | cons call calls ih => exact ih (h.edits (call.edits t))

end Table

/-! ## Calls on databases -/

/-- A call on a database. -/
inductive Database.Call where
  /-- Make a table, call on it, and put it in the place of any table of that name. -/
  | addTable (name schema : String) (calls : List Table.Call)
  /-- Remove a table. -/
  | dropTable (table : String)
  /-- Look a table up and call on it where it stands, if it is there. -/
  | onTable (table : String) (call : Table.Call)

namespace Database

/-- What a call on a database does. -/
def Call.attempt : Call → Attempt Database Unit
  | .addTable name schema calls =>
      .checked (fun _ => Table.inSchema name schema) fun t db => db.addTable (t.run calls)
  | .dropTable table => modify (·.dropTable table)
  | .onTable table call => do
      match (← get).table? table with
      | none => pure ()
      | some t =>
          -- The table is there already, so it keeps what the call has written, refused or not.
          let (answer, t') := call.attempt.on t
          modify (·.editTable table fun _ => t')
          liftM answer

/-- The database after calls one after the other, whatever they answer. -/
def run (db : Database) (calls : List Call) : Database :=
  calls.foldl (fun db call => call.attempt.after db) db

/-- What a call on a table of the database does. -/
theorem onTable_on (db : Database) (table : String) (call : Table.Call) :
    (Call.onTable table call).attempt.on db
      = match db.table? table with
        | none => (.ok (), db)
        | some t =>
            ((call.attempt.on t).1, db.editTable table fun _ => call.attempt.after t) := by
  show Attempt.on (match db.table? table with | none => _ | some t => _) db = _
  cases db.table? table with
  | none => rfl
  | some t =>
      simp only [Attempt.after]
      rcases call.attempt.on t with ⟨_ | _, _⟩ <;> rfl

/-- Every call on a database is clean. -/
theorem Call.clean (call : Call) : call.attempt.Clean := by
  cases call with
  | addTable => exact Attempt.clean_checked _ _
  | dropTable => exact Attempt.clean_modify _
  | onTable table call =>
      intro db e h
      rw [onTable_on] at h
      rw [Attempt.after, onTable_on]
      cases hfound : db.table? table with
      | none => rfl
      | some t =>
          rw [hfound] at h
          obtain rfl : t.name = table := Catalog.name_of_get? hfound
          -- The table that is written back is the one that was found.
          show (db.editTable t.name fun _ => call.attempt.after t) = db
          rw [call.clean t e h, editTable_self hfound]

/-- A table may be edited where it stands, by any number of edits. -/
theorem Built.edits {db : Database} (h : db.Built) {t t' : Table}
    (found : db.table? t.name = some t) (edits : ReflTransGen Table.Edit t t') :
    (db.editTable t.name fun _ => t').Built := by
  induction edits with
  | refl => rwa [editTable_self found]
  | @tail u t' edits edit ih =>
      -- What stands in place before the last edit is the table that the others have left.
      obtain ⟨hname, hschema⟩ := Table.name_schema_of_edits edits
      have hu : (db.editTable t.name fun _ => u).table? u.name = some u := by
        rw [table?_editTable found, if_pos hname.symm, ← hname, ← hschema]
      have hbuilt := ih.editTable hu edit
      rwa [hname, editTable_editTable] at hbuilt

/-- A call leaves a database with a history, if it finds one. -/
theorem Built.attempt {db : Database} (h : db.Built) (call : Call) :
    (call.attempt.after db).Built := by
  cases call with
  | addTable _ _ calls =>
      exact Attempt.after_checked h fun _ made => h.addTable ((Table.Built.inSchema made).run calls)
  | dropTable table => exact h.dropTable table
  | onTable table call =>
      rw [Attempt.after, onTable_on]
      cases hfound : db.table? table with
      | none => exact h
      | some t =>
          obtain rfl : t.name = table := Catalog.name_of_get? hfound
          exact h.edits hfound (call.edits t)

/-- Calls one after the other leave a database with a history, if they find one. -/
theorem Built.run {db : Database} (h : db.Built) (calls : List Call) : (db.run calls).Built := by
  induction calls generalizing db with
  | nil => exact h
  | cons call calls ih => exact ih (h.attempt call)

/-- **Calls keep databases well formed.** Whatever calls are made on a new database, and however
many of them refuse, everything in it stands under its own name and no name is blank, the tally
counts the tables of every schema, and the parts of tables are as their makers check them. A call
that refuses leaves the database as it was, and one on a table leaves the table as it was. -/
theorem run_wellFormed {name : String} {db : Database} (made : Database.make name = .ok db)
    (calls : List Call) :
    (db.run calls).WellFormed
      ∧ (∀ (call : Call) e, (call.attempt.on (db.run calls)).1 = .error e →
          call.attempt.after (db.run calls) = db.run calls)
      ∧ ∀ (t : Table) (call : Table.Call) e, (call.attempt.on t).1 = .error e →
          call.attempt.after t = t :=
  ⟨((Built.make made).run calls).wellFormed, fun call => call.clean _, fun t call => call.clean t⟩

/-- A table moves to another schema and another one goes, with calls that refuse in between: one
for the name of a table, one for the type of a column, and one for a key column. A shard key without
shards is refused at the end. -/
theorem run_wellFormed_shop :
    let shop : Database := ⟨"shop", .empty, .empty⟩
    let calls : List Call := [
      .addTable "orders" "sales"
        [.addColumn "id" "INT", .addColumn "total" "money", .setPrimaryKey (.one "id")],
      .addTable " " "stock" [],
      .addTable "parts" "stock" [.addColumn "id" "INT"],
      .onTable "orders" (.setPrimaryKey (.many ["id", ""])),
      .addTable "orders" "archive" [.addColumn "id" "BIGINT"],
      .dropTable "parts"]
    let last : Table.Call := .setShardKey (.one "id") 0
    (shop.run calls).WellFormed
      ∧ (shop.run calls).schemas.entries = [("archive", 1)]
      ∧ (∃ e, ((Call.onTable "orders" last).attempt.on (shop.run calls)).1 = .error e)
      ∧ (Call.onTable "orders" last).attempt.after (shop.run calls) = shop.run calls := by
  intro shop calls last
  have made : Database.make "shop" = .ok shop := rfl
  obtain ⟨hwellFormed, hclean, -⟩ := run_wellFormed made calls
  have hrefused : ∃ e, ((Call.onTable "orders" last).attempt.on (shop.run calls)).1 = .error e :=
    ⟨_, rfl⟩
  obtain ⟨e, he⟩ := hrefused
  exact ⟨hwellFormed, rfl, ⟨e, he⟩, hclean _ e he⟩

end Database

end Schemata
