import Schemata.Proofs.Loader
import Schemata.Proofs.PartDecoding

/-! # Telling statements apart

What kind of statement a text is shows in its first words, and what it says in the parts that
follow, each of which says where it ends. So the text of a statement says what the statement says,
and where it ends, and a script is the text of one list of statements only. -/

namespace Schemata

open Naming Ddl

/-! ## Legible statements -/

/-- Whether the names that a foreign key is written with are legible. -/
def ForeignKey.IsLegible (key : ForeignKey) : Prop :=
  ∀ name ∈ key.identifiers, Naming.IsLegible name

/-- Whether the names that a relationship is written with are legible, and its condition is one
line. -/
structure Relationship.IsLegible (r : Relationship) : Prop where
  /-- The names are legible. -/
  names : ∀ name ∈ r.identifiers, Naming.IsLegible name
  /-- The condition is one line. -/
  condition : '\n' ∉ r.condition.toList

/-- Whether the text of an alteration is legible. -/
def Alteration.IsLegible : Alteration → Prop
  | .addPrimaryKey columns => ∀ name ∈ columns, Naming.IsLegible name
  | .addShardKey key => ∀ name ∈ key.columns, Naming.IsLegible name
  | .dropPrimaryKey | .dropShardKey => True
  | .addForeignKey key => key.IsLegible
  | .addRelationship r => r.IsLegible
  | .dropConstraint name | .dropColumn name => Naming.IsLegible name
  | .addColumn c | .modifyColumn c => c.IsLegible

/-- Whether the text of a statement is legible. -/
def Statement.IsLegible : Statement → Prop
  | .createDatabase name | .useDatabase name | .createSchema name => Naming.IsLegible name
  | .createTable t => t.IsLegible
  | .dropTable schema table => Naming.IsLegible schema ∧ Naming.IsLegible table
  | .alterTable schema table a =>
      Naming.IsLegible schema ∧ Naming.IsLegible table ∧ a.IsLegible

/-! ## Alterations -/

namespace Alteration

/-- The words that an alteration starts with, up to the first name or number. -/
def opening : Alteration → List Char
  | .addPrimaryKey _ => "ADD CONSTRAINT PRIMARY KEY (".toList
  | .dropPrimaryKey => "DROP CONSTRAINT PRIMARY KEY".toList
  | .addShardKey _ => "SET FACT PARTITION BY HASH (".toList
  | .dropShardKey => "SET DIMENSIONS".toList
  | .addForeignKey _ => "ADD CONSTRAINT \"".toList
  | .addRelationship _ => "ADD RELATIONSHIP \"".toList
  | .dropConstraint _ => "DROP CONSTRAINT \"".toList
  | .addColumn _ => "ADD COLUMN \"".toList
  | .modifyColumn _ => "MODIFY COLUMN \"".toList
  | .dropColumn _ => "DROP COLUMN \"".toList

/-- What follows the first words of an alteration. -/
def body : Alteration → List Char
  | .addPrimaryKey columns => quotedList columns ++ [')']
  | .dropPrimaryKey | .dropShardKey => []
  | .addShardKey key =>
      (toString key.shards).toList ++ ')' :: " KEY (".toList ++ quotedList key.columns ++ [')']
  | .addForeignKey key =>
      key.name.toList ++ '"' :: " FOREIGN KEY (".toList ++ quotedList key.sourceKeys
        ++ ')' :: " REFERENCES ".toList ++ quoted key.target ++ " (".toList
        ++ quotedList key.targetKeys ++ [')']
  | .addRelationship r =>
      r.name.toList ++ '"' :: " WITH ".toList ++ quoted r.target ++ " AS ".toList
        ++ r.condition.toList
  | .dropConstraint name | .dropColumn name => name.toList ++ ['"']
  | .addColumn c =>
      c.name.toList ++ '"' :: ' ' :: c.type.text.toList ++ ' ' :: "DEFAULT ".toList
        ++ (Writer.fillValue c.type).toList
  | .modifyColumn c => c.name.toList ++ '"' :: ' ' :: c.type.text.toList

/-- What the plain writer writes for an alteration. -/
theorem toList_alteration (a : Alteration) :
    (Writer.plain.alteration a).toList = a.opening ++ a.body := by
  unfold Writer.alteration opening body
  cases a <;> simp [quoted]

/-- The first words of the alterations. -/
def openings : List (List Char) :=
  ["ADD CONSTRAINT PRIMARY KEY (".toList, "DROP CONSTRAINT PRIMARY KEY".toList,
    "SET FACT PARTITION BY HASH (".toList, "SET DIMENSIONS".toList, "ADD CONSTRAINT \"".toList,
    "ADD RELATIONSHIP \"".toList, "DROP CONSTRAINT \"".toList, "ADD COLUMN \"".toList,
    "MODIFY COLUMN \"".toList, "DROP COLUMN \"".toList]

/-- The first words of an alteration say of which kind it is. -/
theorem opening_append_inj {a b : Alteration} {rest rest' : List Char}
    (h : a.opening ++ rest = b.opening ++ rest') : a.ctorIdx = b.ctorIdx ∧ rest = rest' := by
  have hfree : ∀ v ∈ openings, ∀ w ∈ openings, v <+: w → v = w := by decide
  have hmem : ∀ a : Alteration, a.opening ∈ openings := by
    intro a
    unfold opening openings
    cases a <;> simp
  obtain ⟨hopening, hrest⟩ := append_inj_of_prefixFree hfree (hmem a) (hmem b) h
  refine ⟨?_, hrest⟩
  unfold opening at hopening
  cases a <;> cases b <;> first | rfl | simp at hopening

end Alteration

namespace Ddl

variable {rest rest' : List Char}

/-- What follows the end of a statement is equal in equal texts. -/
theorem rest_eq_of_end_eq (h : ';' :: '\n' :: rest = ';' :: '\n' :: rest') : rest = rest' :=
  (List.cons.inj (List.cons.inj h).2).2

/-- What is written about a legible foreign key says which one it is, but for the table that it
starts from. -/
theorem foreignKey_append_inj {key key' : ForeignKey} (h : key.IsLegible) (h' : key'.IsLegible)
    (heq : (Alteration.addForeignKey key).body ++ rest
      = (Alteration.addForeignKey key').body ++ rest') (table : String) :
    key.startingFrom table = key'.startingFrom table ∧ rest = rest' := by
  simp only [Alteration.body, List.append_assoc, List.cons_append, List.nil_append] at heq
  obtain ⟨hname, heq⟩ := name_append_inj (h _ (by simp [ForeignKey.identifiers])).1
    (h' _ (by simp [ForeignKey.identifiers])).1 heq
  obtain ⟨hsources, heq⟩ := quotedList_append_inj
    (fun n hn => h n (by simp [ForeignKey.identifiers, hn]))
    (fun n hn => h' n (by simp [ForeignKey.identifiers, hn])) (List.append_cancel_left heq)
  obtain ⟨htarget, heq⟩ := quoted_append_inj (h _ (by simp [ForeignKey.identifiers])).1
    (h' _ (by simp [ForeignKey.identifiers])).1 (List.append_cancel_left heq)
  obtain ⟨htargets, hrest⟩ := quotedList_append_inj
    (fun n hn => h n (by simp [ForeignKey.identifiers, hn]))
    (fun n hn => h' n (by simp [ForeignKey.identifiers, hn])) (List.append_cancel_left heq)
  refine ⟨?_, hrest⟩
  rw [ForeignKey.startingFrom, ForeignKey.startingFrom, hname, hsources, htarget, htargets]

/-- What is written about a legible relationship says which one it is, but for the table that it
starts from. The condition is the rest of the line. -/
theorem relationship_append_inj {r r' : Relationship} (h : r.IsLegible) (h' : r'.IsLegible)
    (heq : (Alteration.addRelationship r).body ++ ';' :: '\n' :: rest
      = (Alteration.addRelationship r').body ++ ';' :: '\n' :: rest') (table : String) :
    r.startingFrom table = r'.startingFrom table ∧ rest = rest' := by
  simp only [Alteration.body, List.append_assoc, List.cons_append] at heq
  obtain ⟨hname, heq⟩ := name_append_inj (h.names _ (by simp [Relationship.identifiers])).1
    (h'.names _ (by simp [Relationship.identifiers])).1 heq
  obtain ⟨htarget, heq⟩ := quoted_append_inj (h.names _ (by simp [Relationship.identifiers])).1
    (h'.names _ (by simp [Relationship.identifiers])).1 (List.append_cancel_left heq)
  have hline : ∀ {r : Relationship}, r.IsLegible → '\n' ∉ r.condition.toList ++ [';'] :=
    fun h => by simp [h.condition]
  -- There may be semicolons in the condition, so it is the line feed that ends it.
  have hlines : (r.condition.toList ++ [';']) ++ '\n' :: rest
      = (r'.condition.toList ++ [';']) ++ '\n' :: rest' := by
    rw [List.append_assoc, List.append_assoc]
    exact List.append_cancel_left heq
  obtain ⟨hcondition, hrest⟩ := append_cons_inj (hline h) (hline h') hlines
  refine ⟨?_, hrest⟩
  rw [Relationship.startingFrom, Relationship.startingFrom, hname, htarget,
    String.toList_injective (List.append_cancel_right hcondition)]

/-- What is written about a column that is added says which column it is. -/
theorem addColumn_append_inj {c d : Column} (hc : c.IsLegible) (hd : d.IsLegible)
    (h : (Alteration.addColumn c).body ++ rest = (Alteration.addColumn d).body ++ rest') :
    c = d ∧ rest = rest' := by
  simp only [Alteration.body, List.append_assoc, List.cons_append] at h
  obtain ⟨hname, h⟩ := name_append_inj hc.name.1 hd.name.1 h
  obtain ⟨htype, hend⟩ := type_append_inj (by decide) hc.type hd.type (List.cons.inj h).2
  cases c
  cases d
  cases hname
  cases htype
  exact ⟨rfl, List.append_cancel_left (List.append_cancel_left hend)⟩

/-- What is written about a column that is modified, which ends with a semicolon, says which column
it is. -/
theorem modifyColumn_append_inj {c d : Column} (hc : c.IsLegible) (hd : d.IsLegible)
    (h : (Alteration.modifyColumn c).body ++ ';' :: rest
      = (Alteration.modifyColumn d).body ++ ';' :: rest') : c = d ∧ rest = rest' := by
  simp only [Alteration.body, List.append_assoc, List.cons_append] at h
  obtain ⟨hname, h⟩ := name_append_inj hc.name.1 hd.name.1 h
  obtain ⟨htype, hrest⟩ := type_append_inj (by decide) hc.type hd.type (List.cons.inj h).2
  cases c
  cases d
  cases hname
  cases htype
  exact ⟨rfl, hrest⟩

/-- The text of a legible alteration, which ends with a semicolon and a line feed, says which
alteration it is, but for the table that a foreign key or a relationship starts from. -/
theorem alteration_append_inj {a b : Alteration} (ha : a.IsLegible) (hb : b.IsLegible)
    (h : a.opening ++ (a.body ++ ';' :: '\n' :: rest)
      = b.opening ++ (b.body ++ ';' :: '\n' :: rest')) (table : String) :
    a.said table = b.said table ∧ rest = rest' := by
  obtain ⟨hkind, h⟩ := Alteration.opening_append_inj h
  have hname : ∀ {m n : String}, IsLegible m → IsLegible n →
      (m.toList ++ ['"']) ++ ';' :: '\n' :: rest = (n.toList ++ ['"']) ++ ';' :: '\n' :: rest' →
      m = n ∧ rest = rest' := by
    intro m n hm hn h
    rw [List.append_assoc, List.append_assoc] at h
    obtain ⟨hname, h⟩ := name_append_inj hm.1 hn.1 h
    exact ⟨hname, rest_eq_of_end_eq h⟩
  cases a with
  | addPrimaryKey columns =>
      cases b with
      | addPrimaryKey columns' =>
          simp only [Alteration.body, List.append_assoc] at h
          obtain ⟨hcolumns, h⟩ := quotedList_append_inj ha hb h
          exact ⟨by rw [hcolumns], rest_eq_of_end_eq h⟩
      | _ => cases hkind
  | dropPrimaryKey =>
      cases b with
      | dropPrimaryKey => exact ⟨rfl, rest_eq_of_end_eq h⟩
      | _ => cases hkind
  | addShardKey key =>
      cases b with
      | addShardKey key' =>
          simp only [Alteration.body, List.append_assoc, List.cons_append] at h
          obtain ⟨hkey, h⟩ := shardKey_append_inj _ ha hb h
          exact ⟨by rw [hkey], rest_eq_of_end_eq h⟩
      | _ => cases hkind
  | dropShardKey =>
      cases b with
      | dropShardKey => exact ⟨rfl, rest_eq_of_end_eq h⟩
      | _ => cases hkind
  | addForeignKey key =>
      cases b with
      | addForeignKey key' =>
          obtain ⟨hkey, h⟩ := foreignKey_append_inj ha hb h table
          exact ⟨congrArg Alteration.addForeignKey hkey, rest_eq_of_end_eq h⟩
      | _ => cases hkind
  | addRelationship r =>
      cases b with
      | addRelationship r' =>
          obtain ⟨hr, hrest⟩ := relationship_append_inj ha hb h table
          exact ⟨congrArg Alteration.addRelationship hr, hrest⟩
      | _ => cases hkind
  | dropConstraint name =>
      cases b with
      | dropConstraint name' =>
          obtain ⟨hsame, hrest⟩ := hname ha hb h
          exact ⟨by rw [hsame], hrest⟩
      | _ => cases hkind
  | addColumn c =>
      cases b with
      | addColumn d =>
          obtain ⟨hcolumn, h⟩ := addColumn_append_inj ha hb h
          exact ⟨by rw [hcolumn], rest_eq_of_end_eq h⟩
      | _ => cases hkind
  | modifyColumn c =>
      cases b with
      | modifyColumn d =>
          obtain ⟨hcolumn, h⟩ := modifyColumn_append_inj ha hb h
          exact ⟨by rw [hcolumn], (List.cons.inj h).2⟩
      | _ => cases hkind
  | dropColumn name =>
      cases b with
      | dropColumn name' =>
          obtain ⟨hsame, hrest⟩ := hname ha hb h
          exact ⟨by rw [hsame], hrest⟩
      | _ => cases hkind

end Ddl

/-! ## Statements -/

namespace Statement

/-- The words that a statement starts with in a script, up to the first name, with the blank line
before them if there is one. -/
def opening : Statement → List Char
  | .createDatabase _ => "CREATE DATABASE ".toList
  | .useDatabase _ => "USE ".toList
  | .createSchema _ => "CREATE SCHEMA ".toList
  | .createTable _ => '\n' :: tableWords
  | .dropTable .. => "\nDROP TABLE ".toList
  | .alterTable .. => "ALTER TABLE ".toList

/-- What follows the first words of a statement. -/
def body : Statement → List Char
  | .createDatabase name | .useDatabase name | .createSchema name => quoted name ++ [';', '\n']
  | .createTable t =>
      quoted t.schema ++ '.' :: (quoted t.name ++ [' ', '(', '\n'] ++ itemLines (items t)
        ++ ')' :: tableTail t.shardKey ++ ['\n'])
  | .dropTable schema table => quoted schema ++ '.' :: (quoted table ++ [';', '\n'])
  | .alterTable schema table a =>
      quoted schema ++ '.' :: (quoted table ++ ' ' :: (a.opening ++ (a.body ++ [';', '\n'])))

/-- What the plain writer writes for a statement of a script. -/
theorem toList_gap_append (s : Statement) :
    (s.gap ++ Writer.plain.statement s).toList = s.opening ++ s.body := by
  have hend : ";\n".toList = [';', '\n'] := by decide
  have hdot : ".".toList = ['.'] := by decide
  cases s with
  | createTable t =>
      have hgap : "\n".toList = ['\n'] := by decide
      show ("\n" ++ Writer.plain.statement (.createTable t)).toList = '\n' :: tableWords ++ _
      rw [String.toList_append, toList_createTable, hgap]
      simp [body, tableHead, nameWords]
  | alterTable schema table a =>
      have hwords : alterWords schema table
          = "ALTER TABLE ".toList ++ (quoted schema ++ ".".toList ++ quoted table)
            ++ " ".toList := rfl
      have hblank : " ".toList = [' '] := by decide
      show ("" ++ Writer.plain.statement (.alterTable schema table a)).toList
        = "ALTER TABLE ".toList ++ _
      rw [String.toList_append, toList_alterTable, Alteration.toList_alteration, hwords, hdot,
        hblank]
      simp [body]
  | dropTable schema table =>
      show ("\n" ++ ("DROP TABLE " ++ Writer.plain.qualified schema table ++ ";\n")).toList = _
      unfold opening
      simp [body, toList_qualified, hend]
  | createDatabase name =>
      show ("" ++ ("CREATE DATABASE " ++ Writer.plain.ident name ++ ";\n")).toList = _
      unfold opening
      simp [body, hend]
  | useDatabase name =>
      show ("" ++ ("USE " ++ Writer.plain.ident name ++ ";\n")).toList = _
      unfold opening
      simp [body, hend]
  | createSchema name =>
      show ("" ++ ("CREATE SCHEMA " ++ Writer.plain.ident name ++ ";\n")).toList = _
      unfold opening
      simp [body, hend]

/-- The first words of the statements of a script. -/
def openings : List (List Char) :=
  ["CREATE DATABASE ".toList, "USE ".toList, "CREATE SCHEMA ".toList, '\n' :: tableWords,
    "\nDROP TABLE ".toList, "ALTER TABLE ".toList]

/-- The first words of a statement say of which kind it is. -/
theorem opening_append_inj {s u : Statement} {rest rest' : List Char}
    (h : s.opening ++ rest = u.opening ++ rest') : s.ctorIdx = u.ctorIdx ∧ rest = rest' := by
  have hfree : ∀ v ∈ openings, ∀ w ∈ openings, v <+: w → v = w := by decide
  have hmem : ∀ s : Statement, s.opening ∈ openings := by
    intro s
    unfold opening openings
    cases s <;> simp
  obtain ⟨hopening, hrest⟩ := append_inj_of_prefixFree hfree (hmem s) (hmem u) h
  refine ⟨?_, hrest⟩
  unfold opening tableWords at hopening
  cases s <;> cases u <;> first | rfl | simp at hopening

end Statement

namespace Ddl

variable {rest rest' : List Char}

/-- The text that creates a legible table says what it consists of, but for its foreign keys and its
relationships. -/
theorem createTable_append_inj {t u : Table} (ht : t.IsLegible) (hu : u.IsLegible)
    (h : (Statement.createTable t).body ++ rest = (Statement.createTable u).body ++ rest') :
    t.bare = u.bare ∧ rest = rest' := by
  have hlines : ∀ {t : Table}, t.IsLegible → ∀ item ∈ items t, '\n' ∉ item := by
    intro t ht item hitem
    rcases List.mem_append.1 hitem with hitem | hitem
    · obtain ⟨c, hc, rfl⟩ := List.mem_map.1 hitem
      exact not_mem_columnItem (ht.columns c hc)
    · split at hitem
      · cases hitem
      · rw [List.mem_singleton.1 hitem]
        exact not_mem_keyItem ht.primaryKey
  simp only [Statement.body, List.append_assoc, List.cons_append, List.nil_append] at h
  obtain ⟨hschema, hname, h⟩ := qualified_append_inj ht.schema.1 hu.schema.1 ht.name.1 hu.name.1 h
  simp only [List.cons.injEq, true_and] at h
  obtain ⟨hitems, h⟩ := itemLines_append_inj (hlines ht) (hlines hu) h
  obtain ⟨hcolumns, hkey⟩ := items_inj ht hu hitems
  obtain ⟨hshard, hrest⟩ := tableTail_append_inj ht.shardKey hu.shardKey h
  refine ⟨?_, (List.cons.inj hrest).2⟩
  rw [Table.bare, Table.bare, hschema, hname, hkey, hshard, Catalog.ext hcolumns]

/-- The text of a legible statement in a script says what the statement says, and where it ends. -/
theorem statement_append_inj {s u : Statement} (hs : s.IsLegible) (hu : u.IsLegible)
    (h : (s.gap ++ Writer.plain.statement s).toList ++ rest
      = (u.gap ++ Writer.plain.statement u).toList ++ rest') : s.said = u.said ∧ rest = rest' := by
  rw [Statement.toList_gap_append, Statement.toList_gap_append, List.append_assoc,
    List.append_assoc] at h
  obtain ⟨hkind, h⟩ := Statement.opening_append_inj h
  have hnamed : ∀ {m n : String}, IsLegible m → IsLegible n →
      quoted m ++ [';', '\n'] ++ rest = quoted n ++ [';', '\n'] ++ rest' →
      m = n ∧ rest = rest' := by
    intro m n hm hn h
    rw [List.append_assoc, List.append_assoc] at h
    obtain ⟨hname, h⟩ := quoted_append_inj hm.1 hn.1 h
    exact ⟨hname, rest_eq_of_end_eq h⟩
  cases s with
  | createDatabase name =>
      cases u with
      | createDatabase name' =>
          obtain ⟨hname, hrest⟩ := hnamed hs hu h
          exact ⟨by rw [hname], hrest⟩
      | _ => cases hkind
  | useDatabase name =>
      cases u with
      | useDatabase name' =>
          obtain ⟨hname, hrest⟩ := hnamed hs hu h
          exact ⟨by rw [hname], hrest⟩
      | _ => cases hkind
  | createSchema name =>
      cases u with
      | createSchema name' =>
          obtain ⟨hname, hrest⟩ := hnamed hs hu h
          exact ⟨by rw [hname], hrest⟩
      | _ => cases hkind
  | createTable t =>
      cases u with
      | createTable t' =>
          obtain ⟨hbare, hrest⟩ := createTable_append_inj hs hu h
          exact ⟨congrArg Statement.createTable hbare, hrest⟩
      | _ => cases hkind
  | dropTable schema table =>
      cases u with
      | dropTable schema' table' =>
          simp only [Statement.body, List.append_assoc, List.cons_append] at h
          obtain ⟨hschema, htable, h⟩ := qualified_append_inj hs.1.1 hu.1.1 hs.2.1 hu.2.1 h
          exact ⟨by rw [hschema, htable], rest_eq_of_end_eq h⟩
      | _ => cases hkind
  | alterTable schema table a =>
      cases u with
      | alterTable schema' table' b =>
          simp only [Statement.body, List.append_assoc, List.cons_append, List.nil_append] at h
          obtain ⟨hschema, htable, h⟩ := qualified_append_inj hs.1.1 hu.1.1 hs.2.1.1 hu.2.1.1 h
          obtain ⟨ha, hrest⟩ :=
            alteration_append_inj hs.2.2 hu.2.2 (List.cons.inj h).2 table
          exact ⟨by rw [Statement.said, Statement.said, ha, hschema, htable], hrest⟩
      | _ => cases hkind

end Ddl

/-! ## Scripts -/

/-- Of legible statements, equal scripts say the same: a script is the text of one list of
statements, as far as statements are told apart by what they say. -/
theorem Writer.map_said_eq_of_script_eq {list list' : List Statement}
    (h : ∀ s ∈ list, s.IsLegible) (h' : ∀ s ∈ list', s.IsLegible)
    (heq : plain.script list = plain.script list') :
    list.map Statement.said = list'.map Statement.said := by
  have htext := congrArg String.toList heq
  rw [toList_script, toList_script] at htext
  have hne : ∀ s : Statement, (s.gap ++ plain.statement s).toList ≠ [] := by
    intro s
    rw [s.toList_gap_append]
    unfold Statement.opening tableWords
    cases s <;> simp
  clear heq
  induction list generalizing list' with
  | nil =>
      cases list' with
      | nil => rfl
      | cons u list' => exact absurd (List.append_eq_nil_iff.1 htext.symm).1 (hne u)
  | cons s list ih =>
      cases list' with
      | nil => exact absurd (List.append_eq_nil_iff.1 htext).1 (hne s)
      | cons u list' =>
          obtain ⟨hs, hlist⟩ := List.forall_mem_cons.1 h
          obtain ⟨hu, hlist'⟩ := List.forall_mem_cons.1 h'
          obtain ⟨hsaid, hrest⟩ := statement_append_inj hs hu htext
          rw [List.map_cons, List.map_cons, hsaid, ih hlist hlist' hrest]

end Schemata
