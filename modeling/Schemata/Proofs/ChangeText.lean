import Schemata.Proofs.Constraints
import Schemata.Proofs.Order
import Schemata.Proofs.ScriptStatements
import Schemata.Proofs.StatementDecoding

/-! # Telling changes apart by their text

The text of a change says which table it is about and what place it has in the order of the changes
for that table, as long as no name holds a double quote. There is one exception: a foreign key and a
relationship are dropped by the same statement, which has the name of the constraint only. So, since
the changes on one side of a comparison stand in a strict order, two of them have one text exactly
when they drop a foreign key and a relationship of one name from one table. -/

namespace Schemata

open Naming Ddl

/-! ## Alterations -/

namespace Alteration

/-- The place of an alteration among those of a table: the section, the name of the item in it, and
whether something is added. A constraint is dropped in the place of a foreign key. -/
def place : Alteration → Nat × String × Nat
  | .dropPrimaryKey => (1, "", 0)
  | .addPrimaryKey _ => (1, "", 1)
  | .dropShardKey => (2, "", 0)
  | .addShardKey _ => (2, "", 1)
  | .dropConstraint name => (3, name, 0)
  | .addForeignKey key => (3, key.name, 1)
  | .addRelationship r => (4, r.name, 1)
  | .dropColumn name => (5, name, 0)
  | .addColumn c | .modifyColumn c => (5, c.name, 1)

/-- The text of an alteration says its place. -/
theorem place_eq_of_append_eq {a b : Alteration} {rest rest' : List Char}
    (ha : '"' ∉ a.place.2.1.toList) (hb : '"' ∉ b.place.2.1.toList)
    (h : a.opening ++ (a.body ++ rest) = b.opening ++ (b.body ++ rest')) : a.place = b.place := by
  obtain ⟨hkind, h⟩ := opening_append_inj h
  have hname : ∀ {m n : String} {more more' : List Char}, '"' ∉ m.toList → '"' ∉ n.toList →
      m.toList ++ '"' :: more = n.toList ++ '"' :: more' → m = n :=
    fun hm hn h => (name_append_inj hm hn h).1
  cases a with
  | dropPrimaryKey => cases b with
    | dropPrimaryKey => rfl
    | _ => cases hkind
  | addPrimaryKey => cases b with
    | addPrimaryKey => rfl
    | _ => cases hkind
  | dropShardKey => cases b with
    | dropShardKey => rfl
    | _ => cases hkind
  | addShardKey => cases b with
    | addShardKey => rfl
    | _ => cases hkind
  | dropConstraint m => cases b with
    | dropConstraint n =>
        have hsame : m = n := hname ha hb (by simpa [body] using h)
        rw [place, place, hsame]
    | _ => cases hkind
  | addForeignKey key => cases b with
    | addForeignKey key' =>
        have hsame : key.name = key'.name := hname ha hb (by simpa [body] using h)
        rw [place, place, hsame]
    | _ => cases hkind
  | addRelationship r => cases b with
    | addRelationship r' =>
        have hsame : r.name = r'.name := hname ha hb (by simpa [body] using h)
        rw [place, place, hsame]
    | _ => cases hkind
  | dropColumn m => cases b with
    | dropColumn n =>
        have hsame : m = n := hname ha hb (by simpa [body] using h)
        rw [place, place, hsame]
    | _ => cases hkind
  | addColumn c => cases b with
    | addColumn d =>
        have hsame : c.name = d.name := hname ha hb (by simpa [body] using h)
        rw [place, place, hsame]
    | _ => cases hkind
  | modifyColumn c => cases b with
    | modifyColumn d =>
        have hsame : c.name = d.name := hname ha hb (by simpa [body] using h)
        rw [place, place, hsame]
    | _ => cases hkind

end Alteration

/-! ## Statements -/

namespace Statement

/-- The words that a statement by itself starts with, up to the first name. -/
def words : Statement → List Char
  | .createDatabase _ => "CREATE DATABASE ".toList
  | .useDatabase _ => "USE ".toList
  | .createSchema _ => "CREATE SCHEMA ".toList
  | .createTable _ => tableWords
  | .dropTable .. => "DROP TABLE ".toList
  | .alterTable .. => "ALTER TABLE ".toList

/-- The first words of the statements by themselves. -/
def firstWords : List (List Char) :=
  ["CREATE DATABASE ".toList, "USE ".toList, "CREATE SCHEMA ".toList, tableWords,
    "DROP TABLE ".toList, "ALTER TABLE ".toList]

/-- What the plain writer writes for a statement by itself. -/
theorem toList_statement (s : Statement) :
    (Writer.plain.statement s).toList = s.words ++ s.body := by
  have hopening : s.opening = s.gap.toList ++ s.words := by
    unfold opening words
    cases s <;> simp [gap]
  have htext := s.toList_gap_append
  rw [String.toList_append, hopening, List.append_assoc] at htext
  exact List.append_cancel_left htext

/-- The text of a statement says of which kind it is, and what follows its first words. -/
theorem body_eq_of_text_eq {s u : Statement}
    (h : Writer.plain.statement s = Writer.plain.statement u) :
    s.ctorIdx = u.ctorIdx ∧ s.body = u.body := by
  have hfree : ∀ v ∈ firstWords, ∀ w ∈ firstWords, v <+: w → v = w := by decide
  have hmem : ∀ s : Statement, s.words ∈ firstWords := by
    intro s
    unfold words firstWords
    cases s <;> simp
  have htext : s.words ++ s.body = u.words ++ u.body := by
    rw [← toList_statement, ← toList_statement, h]
  obtain ⟨hwords, hbody⟩ := append_inj_of_prefixFree hfree (hmem s) (hmem u) htext
  refine ⟨?_, hbody⟩
  unfold words tableWords at hwords
  cases s <;> cases u <;> first | rfl | simp at hwords

/-- The schema and the table that a statement is about, and its place among the changes for the
table. -/
def place? : Statement → Option ((String × String) × Nat × String × Nat)
  | .createDatabase _ | .useDatabase _ | .createSchema _ => none
  | .createTable t => some ((t.schema, t.name), 0, "", 1)
  | .dropTable schema table => some ((schema, table), 0, "", 0)
  | .alterTable schema table a => some ((schema, table), a.place)

/-- Whether the names that make up the place of a statement are without double quotes. -/
def IsUnquoted (s : Statement) : Prop :=
  ∀ schema table rank name phase, s.place? = some ((schema, table), rank, name, phase) →
    '"' ∉ schema.toList ∧ '"' ∉ table.toList ∧ '"' ∉ name.toList

/-- The text of a statement says its place. -/
theorem place?_eq_of_text_eq {s u : Statement} (hs : s.IsUnquoted) (hu : u.IsUnquoted)
    (h : Writer.plain.statement s = Writer.plain.statement u) : s.place? = u.place? := by
  obtain ⟨hkind, hbody⟩ := body_eq_of_text_eq h
  cases s with
  | createDatabase => cases u with
    | createDatabase => rfl
    | _ => cases hkind
  | useDatabase => cases u with
    | useDatabase => rfl
    | _ => cases hkind
  | createSchema => cases u with
    | createSchema => rfl
    | _ => cases hkind
  | createTable t => cases u with
    | createTable t' =>
        obtain ⟨hschema, htable, -⟩ := hs _ _ _ _ _ rfl
        obtain ⟨hschema', htable', -⟩ := hu _ _ _ _ _ rfl
        simp only [body, List.append_assoc] at hbody
        obtain ⟨hschema, htable, -⟩ := qualified_append_inj hschema hschema' htable htable' hbody
        rw [place?, place?, hschema, htable]
    | _ => cases hkind
  | dropTable schema table => cases u with
    | dropTable schema' table' =>
        obtain ⟨hschema, htable, -⟩ := hs _ _ _ _ _ rfl
        obtain ⟨hschema', htable', -⟩ := hu _ _ _ _ _ rfl
        simp only [body] at hbody
        obtain ⟨rfl, rfl, -⟩ := qualified_append_inj hschema hschema' htable htable' hbody
        rfl
    | _ => cases hkind
  | alterTable schema table a => cases u with
    | alterTable schema' table' b =>
        obtain ⟨hschema, htable, ha⟩ := hs _ _ _ _ _ rfl
        obtain ⟨hschema', htable', hb⟩ := hu _ _ _ _ _ rfl
        simp only [body] at hbody
        obtain ⟨rfl, rfl, hrest⟩ := qualified_append_inj hschema hschema' htable htable' hbody
        rw [place?, place?, Alteration.place_eq_of_append_eq ha hb (List.cons.inj hrest).2]
    | _ => cases hkind

end Statement

/-! ## Changes -/

namespace ChangeAction

/-- An action as its statement has it: a relationship is dropped like a foreign key. -/
def stated : ChangeAction → ChangeAction
  | .relationshipDropped name => .foreignKeyDropped name
  | x => x

/-- An action is stated as it is, but for a relationship that is dropped. -/
theorem stated_cases (x : ChangeAction) :
    (∃ name, x = .relationshipDropped name) ∨ x.stated = x := by
  cases x with
  | relationshipDropped name => exact .inl ⟨name, rfl⟩
  | _ => exact .inr rfl

/-- Of two actions in their strict order that are stated in one place, the first drops a foreign key
and the second a relationship of the same name. -/
theorem Before.of_stated {x y : ChangeAction} (h : x.Before y)
    (hplace : x.stated.place = y.stated.place) :
    ∃ name, x = .foreignKeyDropped name ∧ y = .relationshipDropped name := by
  rcases x.stated_cases with ⟨m, rfl⟩ | hx
  · rcases y.stated_cases with ⟨n, rfl⟩ | hy
    · -- Two relationships of one name are in one place, where none comes before the other.
      have hsame : m = n := (Prod.mk.inj (Prod.mk.inj hplace).2).1
      exact absurd (by rw [hsame]) h.place_ne
    · -- Relationships come after foreign keys.
      rw [hy] at hplace
      have hrank : 3 = y.item.rank := (Prod.mk.inj hplace).1
      have hle : 4 ≤ y.item.rank := h.rank_le
      omega
  · rw [hx] at hplace
    rcases y.stated_cases with ⟨n, rfl⟩ | hy
    · refine ⟨n, ?_, rfl⟩
      cases x with
      | foreignKeyDropped m =>
          have hsame : m = n := (Prod.mk.inj (Prod.mk.inj hplace).2).1
          rw [hsame]
      | _ => simp [place, stated, item, Item.rank, phase] at hplace
    · rw [hy] at hplace
      exact absurd hplace h.place_ne

/-- An action is stated about an item of the same name. -/
theorem key_stated (x : ChangeAction) : x.stated.item.key = x.item.key := by cases x <;> rfl

end ChangeAction

namespace Change

/-- Whether a change that creates a table speaks of the place that the table has. -/
def IsPlaced (c : Change) : Prop :=
  ∀ t, c.action = .tableCreated t → c.target.schema = t.schema ∧ c.target.table = t.name

/-- Whether the names that say what a change is about are without double quotes. -/
structure IsUnquoted (c : Change) : Prop where
  /-- The schema is. -/
  schema : '"' ∉ c.target.schema.toList
  /-- The table is. -/
  table : '"' ∉ c.target.table.toList
  /-- The item is. -/
  item : '"' ∉ c.action.item.key.toList

/-- Whether two changes drop a foreign key and a relationship of one name from one table. -/
def DropsAlike (c d : Change) : Prop :=
  c.target = d.target
    ∧ ∃ name, c.action = .foreignKeyDropped name ∧ d.action = .relationshipDropped name

/-- The place of the statement of a change is that of the action as it is stated. -/
theorem place?_statement {c : Change} (h : c.IsPlaced) :
    c.statement.place?
      = some ((c.target.schema, c.target.table), c.action.stated.place) := by
  obtain ⟨target, action⟩ := c
  cases action with
  | tableCreated t =>
      obtain ⟨hschema, htable⟩ := h t rfl
      rw [hschema, htable]
      rfl
  | _ => rfl

/-- The statement of a change is without double quotes in its place if the change is. -/
theorem IsUnquoted.statement {c : Change} (h : c.IsUnquoted) (hplaced : c.IsPlaced) :
    c.statement.IsUnquoted := by
  intro schema table rank name phase hplace
  rw [place?_statement hplaced] at hplace
  cases hplace
  exact ⟨h.schema, h.table, c.action.key_stated.symm ▸ h.item⟩

/-- Changes that drop a foreign key and a relationship of one name from one table have one
statement. -/
theorem DropsAlike.statement_eq {c d : Change} (h : c.DropsAlike d) :
    c.statement = d.statement := by
  obtain ⟨htarget, name, hc, hd⟩ := h
  rw [Change.statement, Change.statement, hc, hd, htarget]

/-- Of two changes to one database in their strict order, the texts are equal only if they drop a
foreign key and a relationship of one name from one table. -/
theorem Before.dropsAlike {c d : Change} (h : c.Before d)
    (hdatabase : c.target.database = d.target.database) (hc : c.IsPlaced) (hd : d.IsPlaced)
    (hc' : c.IsUnquoted) (hd' : d.IsUnquoted)
    (htext : Writer.plain.statement c.statement = Writer.plain.statement d.statement) :
    c.DropsAlike d := by
  have hplace := Statement.place?_eq_of_text_eq (hc'.statement hc) (hd'.statement hd) htext
  rw [place?_statement hc, place?_statement hd, Option.some.injEq, Prod.mk.injEq,
    Prod.mk.injEq] at hplace
  obtain ⟨⟨hschema, htable⟩, hstated⟩ := hplace
  refine ⟨?_, (h.action htable).of_stated hstated⟩
  obtain ⟨⟨database, schema, table⟩, action⟩ := c
  cases hdatabase
  cases hschema
  cases htable
  rfl

end Change

/-! ## Comparisons -/

namespace Table

/-- The name of a foreign key is an identifier of its table. -/
theorem mem_identifiers_of_foreignKeys {t : Table} {name : String}
    (h : name ∈ t.foreignKeys.names) : name ∈ t.identifiers := by
  obtain ⟨key, hkey, rfl⟩ := List.mem_map.1 h
  exact mem_identifiers_of_foreignKey hkey (by simp [ForeignKey.identifiers])

/-- The name of a relationship is an identifier of its table. -/
theorem mem_identifiers_of_relationships {t : Table} {name : String}
    (h : name ∈ t.relationships.names) : name ∈ t.identifiers := by
  obtain ⟨r, hr, rfl⟩ := List.mem_map.1 h
  exact mem_identifiers_of_relationship hr (by simp [Relationship.identifiers])

/-- The name of a column is an identifier of its table. -/
theorem mem_identifiers_of_columns {t : Table} {name : String} (h : name ∈ t.columns.names) :
    name ∈ t.identifiers := by
  obtain ⟨c, hc, rfl⟩ := List.mem_map.1 h
  exact name_mem_identifiers hc

/-- An item in which two tables differ has no name, or one of their identifiers. -/
theorem key_of_differsIn {a b : Table} {item : Item} (h : a.DiffersIn b item) :
    item.key = "" ∨ item.key ∈ a.identifiers ∨ item.key ∈ b.identifiers := by
  -- Where both tables have nothing under a name, they do not differ there.
  cases item with
  | foreignKey key =>
      have hsome : ¬ (a.foreignKeys.get? key = none ∧ b.foreignKeys.get? key = none) := by
        rintro ⟨ha, hb⟩
        simp [DiffersIn, ha, hb] at h
      exact .inr ((Catalog.mem_names_or hsome).imp mem_identifiers_of_foreignKeys
        mem_identifiers_of_foreignKeys)
  | relationship key =>
      have hsome : ¬ (a.relationships.get? key = none ∧ b.relationships.get? key = none) := by
        rintro ⟨ha, hb⟩
        simp [DiffersIn, ha, hb] at h
      exact .inr ((Catalog.mem_names_or hsome).imp mem_identifiers_of_relationships
        mem_identifiers_of_relationships)
  | column key =>
      have hsome : ¬ (a.columns.get? key = none ∧ b.columns.get? key = none) := by
        rintro ⟨ha, hb⟩
        simp [DiffersIn, ha, hb] at h
      exact .inr ((Catalog.mem_names_or hsome).imp mem_identifiers_of_columns
        mem_identifiers_of_columns)
  | _ => exact .inl rfl

end Table

namespace Database

/-- The changes to a database speak of it, and of the places of the tables that they create. -/
theorem isPlaced_of_mem_changesTo {db₁ db₂ : Database} {c : Change} (hc : c ∈ db₁.changesTo db₂) :
    c.IsPlaced ∧ c.target.database = db₁.name := by
  rcases mem_changesTo_cases hc with
    ⟨t, rfl, -⟩ | ⟨t, rfl, -⟩ | ⟨t₁, t₂, action, hmem, rfl, -⟩
  · exact ⟨fun u hu => (by cases hu), rfl⟩
  · refine ⟨fun u hu => ?_, rfl⟩
    cases hu
    exact ⟨rfl, rfl⟩
  · -- No action for two tables creates one.
    refine ⟨fun u hu => ?_, rfl⟩
    obtain rfl : action = .tableCreated u := hu
    exact ((ChangeAction.touch_ofTables t₁ t₂ .creation).1 ⟨_, hmem, rfl⟩).elim

/-- The changes to a database speak of names without double quotes, if the identifiers of both
databases are without. -/
theorem isUnquoted_of_mem_changesTo {db₁ db₂ : Database}
    (h₁ : ∀ name ∈ db₁.identifiers, '"' ∉ name.toList)
    (h₂ : ∀ name ∈ db₂.identifiers, '"' ∉ name.toList) {c : Change}
    (hc : c ∈ db₁.changesTo db₂) : c.IsUnquoted := by
  have htable : ∀ {db : Database} {t : Table}, (∀ name ∈ db.identifiers, '"' ∉ name.toList) →
      db.table? t.name = some t → ∀ name ∈ t.identifiers, '"' ∉ name.toList :=
    fun h found name hname => h name (mem_identifiers (Catalog.mem_of_get? found) hname)
  rcases mem_changesTo_cases hc with
    ⟨t, rfl, found, -⟩ | ⟨t, rfl, -, found⟩ | ⟨t₁, t₂, action, hmem, rfl, found₁, found₂⟩
  · have hnames := htable h₁ found
    exact ⟨hnames _ (by simp [place, Table.identifiers]),
      hnames _ (by simp [place, Table.identifiers]), by simp [ChangeAction.item, Item.key]⟩
  · have hnames := htable h₂ found
    exact ⟨hnames _ (by simp [place, Table.identifiers]),
      hnames _ (by simp [place, Table.identifiers]), by simp [ChangeAction.item, Item.key]⟩
  · have hnames := htable h₁ found₁
    have hname : t₂.name = t₁.name := Catalog.name_of_get? found₂
    have hdiff := (ChangeAction.touch_ofTables t₁ t₂ action.item).1 ⟨action, hmem, rfl⟩
    have hitem : '"' ∉ action.item.key.toList := by
      rcases Table.key_of_differsIn hdiff with hempty | hkey | hkey
      · simp [hempty]
      · exact hnames _ hkey
      · exact htable h₂ (hname ▸ found₂) _ hkey
    exact ⟨hnames _ (by simp [place, Table.identifiers]),
      hnames _ (by simp [place, Table.identifiers]), hitem⟩

/-- Of two different changes to a database, one comes strictly before the other. -/
theorem before_or_before_of_mem_changesTo {db₁ db₂ : Database} {c d : Change}
    (hc : c ∈ db₁.changesTo db₂) (hd : d ∈ db₁.changesTo db₂) (hne : c ≠ d) :
    c.Before d ∨ d.Before c := by
  have hpairwise := pairwise_before_changesTo db₁ db₂
  exact List.Pairwise.forall_of_forall_of_flip (R := fun c d => c ≠ d → c.Before d ∨ d.Before c)
    (fun c _ hne => absurd rfl hne) (hpairwise.imp fun h _ => .inl h)
    (hpairwise.imp fun h _ => .inr h) hc hd hne

/-- The changes to a database are told apart by their text, but for foreign keys and relationships
that are dropped. -/
theorem text_eq_iff_of_mem_changesTo {db₁ db₂ : Database}
    (h₁ : ∀ name ∈ db₁.identifiers, '"' ∉ name.toList)
    (h₂ : ∀ name ∈ db₂.identifiers, '"' ∉ name.toList) {c d : Change}
    (hc : c ∈ db₁.changesTo db₂) (hd : d ∈ db₁.changesTo db₂) (hne : c ≠ d) :
    Writer.plain.statement c.statement = Writer.plain.statement d.statement
      ↔ c.DropsAlike d ∨ d.DropsAlike c := by
  obtain ⟨hplaced, hdatabase⟩ := isPlaced_of_mem_changesTo hc
  obtain ⟨hplaced', hdatabase'⟩ := isPlaced_of_mem_changesTo hd
  have hsame : c.target.database = d.target.database := hdatabase.trans hdatabase'.symm
  have hunquoted := isUnquoted_of_mem_changesTo h₁ h₂ hc
  have hunquoted' := isUnquoted_of_mem_changesTo h₁ h₂ hd
  constructor
  · intro htext
    rcases before_or_before_of_mem_changesTo hc hd hne with hbefore | hbefore
    · exact .inl (hbefore.dropsAlike hsame hplaced hplaced' hunquoted hunquoted' htext)
    · exact .inr
        (hbefore.dropsAlike hsame.symm hplaced' hplaced hunquoted' hunquoted htext.symm)
  · rintro (h | h)
    · rw [h.statement_eq]
    · rw [h.statement_eq]

/-- **Changes are told apart by their text**, as long as names are without double quotes and are
written as they are. Two different changes on one side of a comparison have one text exactly when
one drops a foreign key and the other a relationship of the same name from the same table; and no
change is listed twice. -/
theorem compare_texts {w : Writer} (hstyle : w.style = .unchanged) {db₁ db₂ : Database}
    (h₁ : ∀ name ∈ db₁.identifiers, '"' ∉ name.toList)
    (h₂ : ∀ name ∈ db₂.identifiers, '"' ∉ name.toList) :
    ∀ side ∈ [(db₁.compare db₂).first, (db₁.compare db₂).second],
      side.Nodup ∧ ∀ c ∈ side, ∀ d ∈ side, c ≠ d →
        (w.statement c.statement = w.statement d.statement
          ↔ c.DropsAlike d ∨ d.DropsAlike c) := by
  have hnodup : ∀ db₁ db₂ : Database, (db₁.changesTo db₂).Nodup := fun db₁ db₂ =>
    (pairwise_before_changesTo db₁ db₂).imp fun h heq => h.subject_ne (congrArg _ heq)
  rw [compare_eq, Writer.statement_of_unchanged hstyle]
  intro side hside
  rw [List.mem_cons, List.mem_singleton] at hside
  rcases hside with rfl | rfl
  · exact ⟨hnodup db₁ db₂, fun c hc d hd => text_eq_iff_of_mem_changesTo h₁ h₂ hc hd⟩
  · exact ⟨hnodup db₂ db₁, fun c hc d hd => text_eq_iff_of_mem_changesTo h₂ h₁ hc hd⟩

end Database

/-! ## An order without its parent -/

namespace Orders

open Database

/-- A shop whose orders may have another order before them: a foreign key and a relationship of one
name say so. -/
def linked : Database :=
  (⟨"shop", .empty, .empty⟩ : Database).run [
    .addTable "orders" "sales"
      [.addColumn "id" "INT", .addColumn "parent" "INT", .setPrimaryKey (.one "id"),
        .referTo (.one "parent") "orders" (.one "id") (some "link"),
        .relateTo "orders" "orders.parent = orders.id" (some "link")]]

/-- The shop without the two, and without the column. -/
def single : Database :=
  (⟨"shop", .empty, .empty⟩ : Database).run [
    .addTable "orders" "sales" [.addColumn "id" "INT", .setPrimaryKey (.one "id")]]

/-- The shops have a history. -/
theorem built : linked.Built ∧ single.Built := by
  have made : Database.make "shop" = .ok ⟨"shop", .empty, .empty⟩ := rfl
  exact ⟨(Built.make made).run _, (Built.make made).run _⟩

/-- The identifiers of the shops are without double quotes. -/
theorem unquoted : (∀ name ∈ linked.identifiers, '"' ∉ name.toList)
    ∧ ∀ name ∈ single.identifiers, '"' ∉ name.toList := by
  constructor <;> decide +kernel

/-- The foreign key is dropped. -/
def dropKey : Change := ⟨⟨"shop", "sales", "orders"⟩, .foreignKeyDropped "link"⟩

/-- The relationship is dropped. -/
def dropRelationship : Change := ⟨⟨"shop", "sales", "orders"⟩, .relationshipDropped "link"⟩

/-- The column is dropped. -/
def dropParent : Change := ⟨⟨"shop", "sales", "orders"⟩, .columnDropped ⟨"parent", .int⟩⟩

/-- All three are changes on the first side. -/
theorem forall_mem_first :
    ∀ c ∈ [dropKey, dropRelationship, dropParent], c ∈ (linked.compare single).first := by
  obtain ⟨t₁, found₁, hplace, hkey, hrelationship, hcolumn⟩ : ∃ t₁,
      linked.table? "orders" = some t₁ ∧ linked.place t₁ = ⟨"shop", "sales", "orders"⟩
        ∧ t₁.foreignKeys.get? "link" = some ⟨"link", "orders", ["parent"], "orders", ["id"]⟩
        ∧ t₁.relationships.get? "link"
          = some ⟨"link", "orders", "orders", "orders.parent = orders.id"⟩
        ∧ t₁.columns.get? "parent" = some ⟨"parent", .int⟩ := ⟨_, rfl, rfl, rfl, rfl, rfl⟩
  obtain ⟨t₂, found₂, hkey₂, hrelationship₂, hcolumn₂⟩ : ∃ t₂,
      single.table? "orders" = some t₂ ∧ t₂.foreignKeys.get? "link" = none
        ∧ t₂.relationships.get? "link" = none ∧ t₂.columns.get? "parent" = none :=
    ⟨_, rfl, rfl, rfl, rfl⟩
  have hname : t₁.name = "orders" := Catalog.name_of_get? found₁
  have hmem : ∀ action ∈ ChangeAction.ofTables t₁ t₂,
      ⟨⟨"shop", "sales", "orders"⟩, action⟩ ∈ (linked.compare single).first := by
    intro action haction
    rw [compare_eq, ← hplace]
    exact mem_changesTo_of_mem_ofTables (hname.symm ▸ found₁) (hname.symm ▸ found₂) haction
  simp only [List.forall_mem_cons, List.not_mem_nil, false_implies, implies_true, and_true]
  have hkeys := Catalog.first_mem_pair hkey hkey₂
  have hrelationships := Catalog.first_mem_pair hrelationship hrelationship₂
  have hcolumns := Catalog.first_mem_pair hcolumn hcolumn₂
  refine ⟨hmem _ ((ChangeAction.mem_ofTables_iff _ _ _).2 ?_),
    hmem _ ((ChangeAction.mem_ofTables_iff _ _ _).2 ?_),
    hmem _ ((ChangeAction.mem_ofTables_iff _ _ _).2 ?_)⟩
  · exact List.mem_flatMap.2 ⟨_, hkeys, List.mem_singleton_self _⟩
  · exact List.mem_flatMap.2 ⟨_, hrelationships, List.mem_singleton_self _⟩
  · exact List.mem_flatMap.2 ⟨_, hcolumns, List.mem_singleton_self _⟩

/-- The foreign key and the relationship of the orders are dropped by one text, and the column by
another. -/
theorem compare_texts_orders :
    (∀ name ∈ linked.identifiers, '"' ∉ name.toList)
      ∧ (∀ name ∈ single.identifiers, '"' ∉ name.toList)
      ∧ (∀ c ∈ [dropKey, dropRelationship, dropParent], c ∈ (linked.compare single).first)
      ∧ Writer.plain.statement dropKey.statement
        = Writer.plain.statement dropRelationship.statement
      ∧ Writer.plain.statement dropKey.statement
        ≠ Writer.plain.statement dropParent.statement := by
  obtain ⟨-, hside⟩ := compare_texts (rfl : Writer.plain.style = .unchanged) unquoted.1 unquoted.2
    _ List.mem_cons_self
  have hkey := forall_mem_first dropKey (by simp)
  have halike := hside _ hkey _ (forall_mem_first dropRelationship (by simp)) (by decide)
  have hapart := hside _ hkey _ (forall_mem_first dropParent (by simp)) (by decide)
  refine ⟨unquoted.1, unquoted.2, forall_mem_first,
    halike.2 (.inl ⟨rfl, "link", rfl, rfl⟩), fun htext => ?_⟩
  rcases hapart.1 htext with ⟨-, name, -, hparent⟩ | ⟨-, name, hparent, -⟩
  · cases hparent
  · cases hparent

/-- Two different changes on one side have one text, although the shops have a history and names
without double quotes. -/
theorem link_dropped_twice :
    linked.Built ∧ single.Built
      ∧ (∀ name ∈ linked.identifiers ++ single.identifiers, '"' ∉ name.toList)
      ∧ dropKey ∈ (linked.compare single).first ∧ dropRelationship ∈ (linked.compare single).first
      ∧ dropKey ≠ dropRelationship
      ∧ Writer.plain.statement dropKey.statement
        = "ALTER TABLE \"sales\".\"orders\" DROP CONSTRAINT \"link\";\n"
      ∧ Writer.plain.statement dropRelationship.statement
        = "ALTER TABLE \"sales\".\"orders\" DROP CONSTRAINT \"link\";\n" :=
  ⟨built.1, built.2, List.forall_mem_append.2 unquoted, forall_mem_first _ (by simp),
    forall_mem_first _ (by simp), by decide, by decide +kernel, by decide +kernel⟩

end Orders

end Schemata
