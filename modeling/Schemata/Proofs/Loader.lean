import Schemata.Proofs.Replay
import Schemata.Proofs.ScriptStatements
import Schemata.Proofs.Tally

/-! # A strict loader

A loader executes statements one by one and stops at the first that speaks of something that is not
there, or that repeats what has been done. It takes from a statement no more than its text says: a
`CREATE TABLE` is silent about foreign keys and relationships, and an `ALTER TABLE` that adds one
does not say which table it starts from. What a run of statements of one kind does follows from
what one of them does. -/

namespace Schemata

/-! ## What statements say -/

/-- The table that the text of a `CREATE TABLE` describes: one without foreign keys and
relationships. -/
def Table.bare (t : Table) : Table := { t with foreignKeys := .empty, relationships := .empty }

/-- A foreign key that starts from a given table. -/
def ForeignKey.startingFrom (key : ForeignKey) (table : String) : ForeignKey :=
  { key with source := table }

/-- A relationship that starts from a given table. -/
def Relationship.startingFrom (r : Relationship) (table : String) : Relationship :=
  { r with source := table }

/-- What the text of an alteration of a table says: what it adds starts from this table. -/
def Alteration.said (table : String) : Alteration → Alteration
  | .addForeignKey key => .addForeignKey (key.startingFrom table)
  | .addRelationship r => .addRelationship (r.startingFrom table)
  | alteration => alteration

/-- What the text of a statement says. -/
def Statement.said : Statement → Statement
  | .createTable t => .createTable t.bare
  | .alterTable schema table alteration => .alterTable schema table (alteration.said table)
  | s => s

/-- Whether a statement speaks of a table in a given schema. -/
def Statement.Uses (schema : String) : Statement → Prop
  | .createTable t => t.schema = schema
  | .dropTable s _ => s = schema
  | .alterTable s _ _ => s = schema
  | _ => False

/-- What a statement does not say is not in its text. -/
theorem Writer.statement_said (w : Writer) (s : Statement) :
    w.statement s.said = w.statement s := by
  cases s with
  | alterTable schema table alteration => cases alteration <;> rfl
  | _ => rfl

/-- A statement is set apart for what it says. -/
theorem Statement.gap_said (s : Statement) : s.said.gap = s.gap := by
  cases s <;> rfl

/-- What statements do not say is not in the text of a script. -/
theorem Writer.script_map_said (w : Writer) (list : List Statement) :
    w.script (list.map Statement.said) = w.script list := by
  have hmap : (fun s => s.gap ++ w.statement s) ∘ Statement.said
      = fun s => s.gap ++ w.statement s :=
    funext fun s => by rw [Function.comp_apply, s.gap_said, w.statement_said]
  rw [script, script, List.map_map, hmap]

/-- A writer that leaves identifiers as they are writes the plain text of statements. -/
theorem Writer.statement_of_unchanged {w : Writer} (hstyle : w.style = .unchanged) :
    w.statement = plain.statement := by
  funext s
  refine statement_congr fun name _ => ?_
  rw [cased, cased, hstyle, plain, Naming.applyCase_unchanged, Naming.applyCase_unchanged]

/-- A foreign key without the table that it starts from. -/
def ForeignKey.contents (key : ForeignKey) : String × List String × String × List String :=
  (key.name, key.sourceKeys, key.target, key.targetKeys)

/-- A relationship without the table that it starts from. -/
def Relationship.contents (r : Relationship) : String × String × String :=
  (r.name, r.target, r.condition)

/-- What a table consists of, in order, but for the tables that its foreign keys and its
relationships start from. -/
structure Table.Contents where
  /-- The name of the table. -/
  name : String
  /-- The schema that the table is in. -/
  schema : String
  /-- The columns. -/
  columns : List Column
  /-- The columns of the primary key. -/
  primaryKey : List String
  /-- How the rows are spread over shards. -/
  shardKey : Option ShardKey
  /-- The foreign keys. -/
  foreignKeys : List (String × List String × String × List String)
  /-- The relationships. -/
  relationships : List (String × String × String)

/-- What a table consists of. -/
def Table.contents (t : Table) : Table.Contents where
  name := t.name
  schema := t.schema
  columns := t.columns.toList
  primaryKey := t.primaryKey
  shardKey := t.shardKey
  foreignKeys := t.foreignKeys.toList.map ForeignKey.contents
  relationships := t.relationships.toList.map Relationship.contents

/-! ## The loader -/

namespace Table

/-- Whether a table declares the columns that its primary key and its shard key use. -/
def DeclaresKeys (t : Table) : Prop :=
  (∀ column ∈ t.primaryKey, column ∈ t.columnNames)
    ∧ ∀ key ∈ t.shardKey, ∀ column ∈ key.columns, column ∈ t.columnNames

instance (t : Table) : Decidable t.DeclaresKeys := inferInstanceAs (Decidable (_ ∧ _))

/-- Whether a table among others has what an alteration of it refers to: the columns on both sides
of a foreign key, and the table that a relationship leads to. No other alteration is known. -/
def Admits (t : Table) (tables : Catalog Table) : Alteration → Prop
  | .addForeignKey key =>
      (∀ column ∈ key.sourceKeys, column ∈ t.columnNames)
        ∧ ∃ target ∈ tables.get? key.target,
          ∀ column ∈ key.targetKeys, column ∈ target.columnNames
  | .addRelationship r => r.target ∈ tables.names
  | _ => False

instance (t : Table) (tables : Catalog Table) : (a : Alteration) → Decidable (t.Admits tables a)
  | .addForeignKey key =>
      inferInstanceAs (Decidable ((∀ column ∈ key.sourceKeys, column ∈ t.columnNames)
        ∧ ∃ target ∈ tables.get? key.target,
          ∀ column ∈ key.targetKeys, column ∈ target.columnNames))
  | .addRelationship r => inferInstanceAs (Decidable (r.target ∈ tables.names))
  | .addPrimaryKey _ | .dropPrimaryKey | .addShardKey _ | .dropShardKey | .dropConstraint _
  | .addColumn _ | .modifyColumn _ | .dropColumn _ => instDecidableFalse

/-- A table after an alteration that adds something under a name that is still free. -/
def take? (t : Table) : Alteration → Option Table
  | .addForeignKey key => (t.foreignKeys.add? key).map ({ t with foreignKeys := · })
  | .addRelationship r => (t.relationships.add? r).map ({ t with relationships := · })
  | _ => none

end Table

/-- What a loader has done so far. -/
structure Loader where
  /-- The databases that are there. -/
  databases : List String
  /-- The database in use. -/
  current : Option String
  /-- The schemas that are there. -/
  schemas : List String
  /-- The tables that have been dropped, each with its schema before it. -/
  dropped : List (String × String)
  /-- The tables that have been created. -/
  tables : Catalog Table
  /-- Whether a table has been altered. -/
  altering : Bool

namespace Loader

/-- What has been done after one statement more, if the statement is in order. A database or a
schema is created if it is not there yet, and a database is used once. Tables are dropped and
created in schemas that are there, each once and before any is altered; a table is created where it
has been dropped, with the columns of its keys. A table is altered if it has been created, in its
schema, and has what the alteration refers to. -/
def step? (l : Loader) : Statement → Option Loader
  | .createDatabase database =>
      if l.current = none ∧ database ∉ l.databases then
        some { l with databases := l.databases ++ [database] }
      else none
  | .useDatabase database =>
      if l.current = none ∧ database ∈ l.databases then some { l with current := some database }
      else none
  | .createSchema schema =>
      if l.current ≠ none ∧ schema ∉ l.schemas then
        some { l with schemas := l.schemas ++ [schema] }
      else none
  | .dropTable schema table =>
      if l.current ≠ none ∧ l.altering = false ∧ schema ∈ l.schemas
          ∧ table ∉ l.dropped.map Prod.snd then
        some { l with dropped := l.dropped ++ [(schema, table)] }
      else none
  | .createTable t =>
      if l.altering = false ∧ (t.schema, t.name) ∈ l.dropped ∧ t.name ∉ l.tables.names
          ∧ t.DeclaresKeys then
        some { l with tables := l.tables.insert t }
      else none
  | .alterTable schema table alteration => do
      let t ← l.tables.get? table
      if t.schema = schema ∧ t.Admits l.tables alteration then
        (t.take? alteration).map fun t' =>
          { l with tables := l.tables.insert t', altering := true }
      else none

/-- What has been done after statements, if all of them are in order and every table that has been
dropped has been created. -/
def load? (l : Loader) (list : List Statement) : Option Loader := do
  let l ← list.foldlM step? l
  if ∀ place ∈ l.dropped, place.2 ∈ l.tables.names then some l else none

/-- A loader before the script of a database. A script that creates the database finds the default
schema alone; one that does not finds the database and its schemas. -/
def before (db : Database) (defaultSchema : String) (create : Bool) : Loader where
  databases := if create then [] else [db.name]
  current := none
  schemas := if create then [defaultSchema] else db.schemaNames
  dropped := []
  tables := .empty
  altering := false

end Loader

/-! ## The opening -/

namespace Loader

/-- New schemas are created one after the other. -/
theorem foldlM_createSchema {l : Loader} (hcurrent : l.current ≠ none) {schemas : List String}
    (h : (l.schemas ++ schemas).Nodup) :
    (schemas.map .createSchema).foldlM step? l
      = some { l with schemas := l.schemas ++ schemas } := by
  induction schemas generalizing l with
  | nil => simp
  | cons schema schemas ih =>
      have hnew : schema ∉ l.schemas := fun hmem =>
        (List.nodup_append.1 h).2.2 _ hmem _ List.mem_cons_self rfl
      have hstep : l.step? (.createSchema schema)
          = some { l with schemas := l.schemas ++ [schema] } := if_pos ⟨hcurrent, hnew⟩
      rw [List.append_cons] at h
      have hrest := ih (l := { l with schemas := l.schemas ++ [schema] }) hcurrent h
      rw [List.map_cons, List.foldlM_cons, hstep]
      simpa using hrest

/-- The opening of a script uses the database and creates the schemas that are not there. -/
theorem exists_foldlM_openingStatements {db : Database} (h : db.Tallied) (defaultSchema : String)
    (create : Bool) :
    ∃ l, (db.openingStatements defaultSchema create).foldlM step? (before db defaultSchema create)
        = some l
      ∧ l.current = some db.name ∧ l.dropped = [] ∧ l.tables = .empty ∧ l.altering = false
      ∧ ∀ schema ∈ db.schemaNames, schema ∈ l.schemas := by
  cases create with
  | false =>
      refine ⟨{ before db defaultSchema false with current := some db.name }, ?_, rfl, rfl, rfl,
        rfl, fun schema hschema => hschema⟩
      simp [Database.openingStatements, before, step?]
  | true =>
      let others := db.schemaNames.filter (· != defaultSchema)
      let used : Loader :=
        { before db defaultSchema true with databases := [db.name], current := some db.name }
      have hnodup : (used.schemas ++ others).Nodup := by
        have hnot : defaultSchema ∉ others := by simp [others]
        exact List.nodup_cons.2 ⟨hnot, h.proper.nodup.filter _⟩
      have hschemas := foldlM_createSchema (l := used) (by simp [used]) hnodup
      refine ⟨{ used with schemas := used.schemas ++ others }, ?_, rfl, rfl, rfl, rfl,
        fun schema hschema => ?_⟩
      · have hused : [Statement.createDatabase db.name, .useDatabase db.name].foldlM step?
            (before db defaultSchema true) = some used := by
          simp [before, step?, used]
        rw [Database.openingStatements, if_pos rfl, List.foldlM_append, hused]
        exact hschemas
      · by_cases hdefault : schema = defaultSchema
        · simp [used, before, hdefault]
        · simp [used, others, hschema, hdefault]

/-! ## The tables -/

/-- Tables whose schemas are there and that declare the columns of their keys are dropped and
created, one after the other. -/
theorem foldlM_createTable {l : Loader} {tables : List Table} (hcurrent : l.current ≠ none)
    (haltering : l.altering = false)
    (hdropped : l.dropped = l.tables.toList.map fun t => (t.schema, t.name))
    (hnodup : ((l.tables.toList ++ tables).map Table.name).Nodup)
    (hschemas : ∀ t ∈ tables, t.schema ∈ l.schemas) (hkeys : ∀ t ∈ tables, t.DeclaresKeys) :
    (tables.flatMap fun t => [.dropTable t.schema t.name, .createTable t]).foldlM step? l
      = some { l with
          dropped := l.dropped ++ tables.map fun t => (t.schema, t.name)
          tables := l.tables.insertAll tables } := by
  induction tables generalizing l with
  | nil => simp [Catalog.insertAll]
  | cons t tables ih =>
      have hnew : t.name ∉ l.tables.names := not_mem_names_of_nodup hnodup
      let gone : Loader := { l with dropped := l.dropped ++ [(t.schema, t.name)] }
      let done : Loader := { gone with tables := l.tables.insert t }
      have hdrop : l.step? (.dropTable t.schema t.name) = some gone := by
        refine if_pos ⟨hcurrent, haltering, hschemas t List.mem_cons_self, ?_⟩
        rw [hdropped, List.map_map]
        exact hnew
      have hcreate : gone.step? (.createTable t) = some done :=
        if_pos ⟨haltering, by simp [gone], hnew, hkeys t List.mem_cons_self⟩
      have hput : done.tables.toList = l.tables.toList ++ [t] := putNamed_of_not_mem hnew
      have hdone : done.dropped = done.tables.toList.map fun t => (t.schema, t.name) := by
        rw [hput, List.map_append, ← hdropped]
        rfl
      have hrest := ih (l := done) hcurrent haltering hdone
        (by simpa [hput] using hnodup) (fun u hu => hschemas u (List.mem_cons_of_mem _ hu))
        fun u hu => hkeys u (List.mem_cons_of_mem _ hu)
      rw [List.flatMap_cons, List.foldlM_append]
      simp only [List.foldlM_cons, hdrop, Option.bind_eq_bind, Option.bind_some, hcreate,
        List.foldlM_nil, Option.pure_def]
      rw [hrest]
      simp [done, gone, Catalog.insertAll]

end Loader

/-! ## The alterations -/

/-- A thing is put in the place of the member of its name. -/
theorem putNamed_append_cons {α : Type} [Named α] {x y : α} {front : List α}
    (hname : Named.name y = Named.name x) (h : Named.name x ∉ front.map Named.name)
    (back : List α) : putNamed x (front ++ y :: back) = front ++ x :: back := by
  induction front with
  | nil => simp [putNamed, hname]
  | cons z front ih =>
      rw [List.map_cons, List.mem_cons, not_or] at h
      rw [List.cons_append, putNamed, if_neg (Ne.symm h.1), ih h.2]
      rfl

/-- Things of different new names are added one after the other. -/
theorem Catalog.foldlM_add? {α : Type} [Named α] {c : Catalog α} {xs : List α}
    (h : ((c.toList ++ xs).map Named.name).Nodup) : xs.foldlM add? c = some (c.insertAll xs) := by
  induction xs generalizing c with
  | nil => rfl
  | cons x xs ih =>
      have hnew : Named.name x ∉ c.names := not_mem_names_of_nodup h
      have hput : (c.insert x).toList = c.toList ++ [x] := putNamed_of_not_mem hnew
      rw [List.foldlM_cons, add?_of_get? ((c.get?_eq_none_iff _).2 hnew)]
      exact ih (by rw [hput]; simpa using h)

namespace Table

/-- What statements about other tables can see of a table. -/
def header (t : Table) : String × String × List String := (t.name, t.schema, t.columnNames)

/-- An alteration leaves the header of a table alone. -/
theorem header_of_take? {t t' : Table} {alteration : Alteration}
    (h : t.take? alteration = some t') : t'.header = t.header := by
  cases alteration with
  | addForeignKey key =>
      obtain ⟨_, -, rfl⟩ := Option.map_eq_some_iff.1 h
      rfl
  | addRelationship r =>
      obtain ⟨_, -, rfl⟩ := Option.map_eq_some_iff.1 h
      rfl
  | _ => cases h

/-- What is found under a name has the header that is found among equal headers. -/
theorem exists_get?_of_headers {c d : Catalog Table}
    (h : c.toList.map header = d.toList.map header) {key : String} {t : Table}
    (found : c.get? key = some t) : ∃ u, d.get? key = some u ∧ u.header = t.header := by
  have hfind : ∀ e : Catalog Table,
      (e.get? key).map header = (e.toList.map header).find? fun x => x.1 == key := fun e => by
    rw [List.find?_map]
    rfl
  have heq : (d.get? key).map header = some t.header := by
    rw [hfind d, ← h, ← hfind c, found]
    rfl
  exact Option.map_eq_some_iff.1 heq

/-- What an alteration refers to is also there among tables of the same headers. -/
theorem Admits.of_headers {t u : Table} {c d : Catalog Table} {alteration : Alteration}
    (h : t.Admits c alteration) (htable : u.header = t.header)
    (htables : c.toList.map header = d.toList.map header) : u.Admits d alteration := by
  have hcolumns : u.columnNames = t.columnNames := congrArg (·.2.2) htable
  cases alteration with
  | addForeignKey key =>
      obtain ⟨hsource, target, found, htarget⟩ := h
      obtain ⟨target', found', hheader⟩ := exists_get?_of_headers htables found
      have htarget' : target'.columnNames = target.columnNames := congrArg (·.2.2) hheader
      exact ⟨hcolumns ▸ hsource, target', found', htarget' ▸ htarget⟩
  | addRelationship r =>
      have hnames : d.names = c.names := by
        have hfst := congrArg (List.map Prod.fst) htables
        rw [List.map_map, List.map_map] at hfst
        exact hfst.symm
      show r.target ∈ d.names
      rw [hnames]
      exact h
  | _ => exact h

end Table

namespace Loader

open Table

/-- Alterations of one table, which has what they refer to, change this table and no other. -/
theorem exists_foldlM_alterTable {l : Loader} {t t' : Table} {front back : List Table}
    {alterations : List Alteration} (htables : l.tables.toList = front ++ t :: back)
    (htake : alterations.foldlM take? t = some t')
    (hadmits : ∀ a ∈ alterations, t.Admits l.tables a) :
    ∃ l', (alterations.map (.alterTable t.schema t.name)).foldlM step? l = some l'
      ∧ l'.tables.toList = front ++ t' :: back ∧ t'.header = t.header
      ∧ l'.current = l.current ∧ l'.dropped = l.dropped := by
  induction alterations generalizing l t with
  | nil =>
      cases htake
      exact ⟨l, rfl, htables, rfl, rfl, rfl⟩
  | cons alteration alterations ih =>
      rw [List.foldlM_cons] at htake
      obtain ⟨u, hu, htake⟩ := Option.bind_eq_some_iff.1 htake
      have hheader := header_of_take? hu
      have hname : u.name = t.name := congrArg (·.1) hheader
      have hschema : u.schema = t.schema := congrArg (·.2.1) hheader
      have found : l.tables.get? t.name = some t :=
        (l.tables.get?_eq_some_iff _ _).2 ⟨by simp [htables], rfl⟩
      let next : Loader := { l with tables := l.tables.insert u, altering := true }
      have hstep : l.step? (.alterTable t.schema t.name alteration) = some next := by
        simp [step?, found, hadmits alteration List.mem_cons_self, hu, next]
      have hfront : u.name ∉ front.map Table.name :=
        hname ▸ not_mem_names_of_nodup (htables ▸ l.tables.nodup)
      have hnext : next.tables.toList = front ++ u :: back := by
        show putNamed u l.tables.toList = _
        rw [htables]
        exact putNamed_append_cons hname.symm hfront back
      have hheaders : l.tables.toList.map header = next.tables.toList.map header := by
        simp [hnext, htables, hheader]
      obtain ⟨l', hrun, hl', hheader', hcurrent, hdropped⟩ := ih hnext htake fun a ha =>
        (hadmits a (List.mem_cons_of_mem _ ha)).of_headers hheader hheaders
      refine ⟨l', ?_, hl', hheader'.trans hheader, hcurrent, hdropped⟩
      rw [hname, hschema] at hrun
      rw [List.map_cons, List.foldlM_cons, hstep]
      exact hrun

/-- Alterations of tables one after the other, all of which have what they refer to, change every
table by its own alterations. -/
theorem exists_foldlM_flatMap_alterTable {alterations : Table → List Alteration}
    {f g : Table → Table} {l : Loader} {front tables : List Table}
    (htables : l.tables.toList = front ++ tables.map f)
    (hheader : ∀ t ∈ tables, (f t).header = t.header)
    (htake : ∀ t ∈ tables, (alterations t).foldlM take? (f t) = some (g t))
    (hadmits : ∀ t ∈ tables, ∀ a ∈ alterations t, (f t).Admits l.tables a) :
    ∃ l', (tables.flatMap fun t => (alterations t).map (.alterTable t.schema t.name)).foldlM step? l
        = some l'
      ∧ l'.tables.toList = front ++ tables.map g ∧ (∀ t ∈ tables, (g t).header = t.header)
      ∧ l'.current = l.current ∧ l'.dropped = l.dropped := by
  induction tables generalizing l front with
  | nil => exact ⟨l, rfl, htables, by simp, rfl, rfl⟩
  | cons t tables ih =>
      have ht := hheader t List.mem_cons_self
      have hname : (f t).name = t.name := congrArg (·.1) ht
      have hschema : (f t).schema = t.schema := congrArg (·.2.1) ht
      rw [List.map_cons] at htables
      obtain ⟨l₁, hrun₁, hl₁, hg, hcurrent₁, hdropped₁⟩ := exists_foldlM_alterTable htables
        (htake t List.mem_cons_self) (hadmits t List.mem_cons_self)
      have hheaders : l.tables.toList.map header = l₁.tables.toList.map header := by
        simp [htables, hl₁, hg]
      rw [List.append_cons] at hl₁
      obtain ⟨l₂, hrun₂, hl₂, hgs, hcurrent₂, hdropped₂⟩ := ih hl₁
        (fun u hu => hheader u (List.mem_cons_of_mem _ hu))
        (fun u hu => htake u (List.mem_cons_of_mem _ hu))
        fun u hu a ha => (hadmits u (List.mem_cons_of_mem _ hu) a ha).of_headers rfl hheaders
      refine ⟨l₂, ?_, by simp [hl₂], List.forall_mem_cons.2 ⟨hg.trans ht, hgs⟩,
        hcurrent₂.trans hcurrent₁, hdropped₂.trans hdropped₁⟩
      rw [hname, hschema] at hrun₁
      rw [List.flatMap_cons, List.foldlM_append, hrun₁]
      exact hrun₂

end Loader

end Schemata
