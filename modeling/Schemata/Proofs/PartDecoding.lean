import Schemata.Proofs.ScriptReading

/-! # Telling parts of statements apart

The parts of a statement say where they end: names end with a quote that is not in them, lists with
a parenthesis, and the items of a table with a line feed. So of two equal texts that start with such
parts, the parts are equal, and what follows them is equal too. -/

namespace Schemata

/-! ## Legible names, columns and tables -/

/-- Whether a name can be told from what stands around it. -/
def Naming.IsLegible (name : String) : Prop := '"' ∉ name.toList ∧ '\n' ∉ name.toList

instance (name : String) : Decidable (Naming.IsLegible name) :=
  inferInstanceAs (Decidable (_ ∧ _))

open Naming

/-- Whether the name of a column is legible and its type standard. -/
structure Column.IsLegible (c : Column) : Prop where
  /-- The name is legible. -/
  name : Naming.IsLegible c.name
  /-- The type is standard. -/
  type : c.type.IsStandard

/-- Whether the text that creates a table is legible. -/
structure Table.IsLegible (t : Table) : Prop where
  /-- The schema is legible. -/
  schema : Naming.IsLegible t.schema
  /-- The name is legible. -/
  name : Naming.IsLegible t.name
  /-- The columns are legible. -/
  columns : ∀ c ∈ t.columns.toList, c.IsLegible
  /-- The columns of the primary key are legible. -/
  primaryKey : ∀ name ∈ t.primaryKey, Naming.IsLegible name
  /-- The columns of the shard key are legible. -/
  shardKey : ∀ key, t.shardKey = some key → ∀ name ∈ key.columns, Naming.IsLegible name

/-- What is made of the members of two lists is equal if something that tells it is. -/
theorem map_eq_map_of_map_eq {α β γ : Type} {f : α → β} {g : α → γ} {xs ys : List α}
    (h : xs.map f = ys.map f) (hfg : ∀ x ∈ xs, ∀ y ∈ ys, f x = f y → g x = g y) :
    xs.map g = ys.map g := by
  induction xs generalizing ys with
  | nil => rw [List.map_eq_nil_iff.1 h.symm]
  | cons x xs ih =>
      cases ys with
      | nil => cases h
      | cons y ys =>
          obtain ⟨hhead, htail⟩ := List.cons.inj h
          have hrest := ih htail fun x hx y hy =>
            hfg x (List.mem_cons_of_mem _ hx) y (List.mem_cons_of_mem _ hy)
          rw [List.map_cons, List.map_cons, hrest,
            hfg x List.mem_cons_self y List.mem_cons_self hhead]

namespace Ddl

variable {rest rest' : List Char}

/-! ## Parts that say where they end -/

/-- A text ends with the first of the characters that it does not hold. -/
theorem append_cons_inj {c : Char} {xs ys : List Char} (hx : c ∉ xs) (hy : c ∉ ys)
    (h : xs ++ c :: rest = ys ++ c :: rest') : xs = ys ∧ rest = rest' := by
  have hcut : ∀ {zs : List Char}, c ∉ zs → ∀ more,
      Text.cutAt? (· == c) (zs ++ c :: more) = some (zs, more) := fun hz more =>
    Text.cutAt?_append (fun d hd => beq_false_of_ne (ne_of_mem_of_not_mem hd hz))
      (beq_self_eq_true c) more
  have heq := (hcut hx rest).symm.trans (h ▸ hcut hy rest')
  exact Prod.mk.inj (Option.some.inj heq)

/-- Of some words none of which starts another one, a text starts with one at most. -/
theorem append_inj_of_prefixFree {words : List (List Char)}
    (hfree : ∀ v ∈ words, ∀ w ∈ words, v <+: w → v = w) {v w : List Char} (hv : v ∈ words)
    (hw : w ∈ words) (h : v ++ rest = w ++ rest') : v = w ∧ rest = rest' := by
  have hword : v = w := by
    rcases List.prefix_or_prefix_of_prefix (List.prefix_append v rest)
      (h ▸ List.prefix_append w rest') with hvw | hwv
    · exact hfree v hv w hw hvw
    · exact (hfree w hw v hv hwv).symm
  subst hword
  exact ⟨rfl, List.append_cancel_left h⟩

/-- Texts that say where they end, and that start with no parenthesis, may stand one after the other
up to a parenthesis. -/
theorem flatMap_append_inj {α : Type} {P : α → Prop} {write : α → List Char}
    (hopen : ∀ x more, write x ++ more ≠ ')' :: rest ∧ write x ++ more ≠ ')' :: rest')
    (hinj : ∀ {x y rest rest'}, P x → P y → write x ++ rest = write y ++ rest' →
      x = y ∧ rest = rest')
    {xs ys : List α} (hx : ∀ x ∈ xs, P x) (hy : ∀ y ∈ ys, P y)
    (h : xs.flatMap write ++ ')' :: rest = ys.flatMap write ++ ')' :: rest') :
    xs = ys ∧ rest = rest' := by
  induction xs generalizing ys with
  | nil =>
      cases ys with
      | nil => exact ⟨rfl, (List.cons.inj h).2⟩
      | cons y ys =>
          rw [List.flatMap_cons, List.append_assoc] at h
          exact absurd h.symm (hopen y _).1
  | cons x xs ih =>
      cases ys with
      | nil =>
          rw [List.flatMap_cons, List.append_assoc] at h
          exact absurd h (hopen x _).2
      | cons y ys =>
          obtain ⟨hx, hxs⟩ := List.forall_mem_cons.1 hx
          obtain ⟨hy, hys⟩ := List.forall_mem_cons.1 hy
          rw [List.flatMap_cons, List.flatMap_cons, List.append_assoc, List.append_assoc] at h
          obtain ⟨hhead, htail⟩ := hinj hx hy h
          obtain ⟨hmore, hrest⟩ := ih hxs hys htail
          exact ⟨by rw [hhead, hmore], hrest⟩

/-- A name without quotes ends with the quote behind it. -/
theorem name_append_inj {a b : String} (ha : '"' ∉ a.toList) (hb : '"' ∉ b.toList)
    (h : a.toList ++ '"' :: rest = b.toList ++ '"' :: rest') : a = b ∧ rest = rest' := by
  obtain ⟨hname, hrest⟩ := append_cons_inj ha hb h
  exact ⟨String.toList_injective hname, hrest⟩

/-- A quoted name without quotes says where it ends. -/
theorem quoted_append_inj {a b : String} (ha : '"' ∉ a.toList) (hb : '"' ∉ b.toList)
    (h : quoted a ++ rest = quoted b ++ rest') : a = b ∧ rest = rest' := by
  simp only [quoted, List.cons_append, List.append_assoc, List.nil_append] at h
  exact name_append_inj ha hb (List.cons.inj h).2

/-- The names of a list but the first, with what stands in front of each. -/
def laterNames (names : List String) : List Char :=
  names.flatMap fun name => [',', ' '] ++ quoted name

/-- A list of quoted names, one after the other. -/
theorem quotedList_cons (name : String) (names : List String) :
    quotedList (name :: names) = quoted name ++ laterNames names := by
  induction names generalizing name with
  | nil => simp [laterNames]
  | cons second names ih =>
      rw [quotedList_cons_cons, ih, laterNames, laterNames, List.flatMap_cons, List.append_assoc,
        List.append_assoc]

/-- A list of quoted legible names ends with a parenthesis. -/
theorem quotedList_append_inj {as bs : List String} (ha : ∀ name ∈ as, IsLegible name)
    (hb : ∀ name ∈ bs, IsLegible name)
    (h : quotedList as ++ ')' :: rest = quotedList bs ++ ')' :: rest') :
    as = bs ∧ rest = rest' := by
  cases as with
  | nil =>
      cases bs with
      | nil => exact ⟨rfl, by simpa using h⟩
      | cons b bs => simp [quotedList_cons, quoted] at h
  | cons a as =>
      cases bs with
      | nil => simp [quotedList_cons, quoted] at h
      | cons b bs =>
          obtain ⟨ha, has⟩ := List.forall_mem_cons.1 ha
          obtain ⟨hb, hbs⟩ := List.forall_mem_cons.1 hb
          simp only [quotedList_cons, List.append_assoc] at h
          obtain ⟨hname, h⟩ := quoted_append_inj ha.1 hb.1 h
          obtain ⟨hnames, hrest⟩ := flatMap_append_inj (P := IsLegible)
            (fun name more => by simp) (fun ha hb h => by
              simp only [List.append_assoc, List.append_cancel_left_eq] at h
              exact quoted_append_inj ha.1 hb.1 h) has hbs h
          exact ⟨by rw [hname, hnames], hrest⟩

/-- A number ends with the parenthesis behind it. -/
theorem number_append_inj {m n : Nat}
    (h : (toString m).toList ++ ')' :: rest = (toString n).toList ++ ')' :: rest') :
    m = n ∧ rest = rest' := by
  have hdecimal : ')' ∉ decimals := by decide
  obtain ⟨hnumber, hrest⟩ := append_cons_inj
    (fun hmem => hdecimal (mem_decimals_of_mem_toString hmem))
    (fun hmem => hdecimal (mem_decimals_of_mem_toString hmem)) h
  have hdigits : Nat.toDigits 10 m = Nat.toDigits 10 n := by
    rw [← Nat.toList_repr, ← Nat.toList_repr]
    exact hnumber
  have hvalue := congrArg (Nat.ofDigitChars 10 · 0) hdigits
  exact ⟨by simpa using hvalue, hrest⟩

/-- A standard type ends with a character that no type is made of. -/
theorem type_append_inj {c : Char} (hc : c ∉ typeChars) {t u : ColumnType} (ht : t.IsStandard)
    (hu : u.IsStandard) (h : t.text.toList ++ c :: rest = u.text.toList ++ c :: rest') :
    t = u ∧ rest = rest' := by
  obtain ⟨htext, hrest⟩ := append_cons_inj (fun hmem => hc (ht.mem_typeChars c hmem))
    (fun hmem => hc (hu.mem_typeChars c hmem)) h
  exact ⟨ColumnType.text_inj (String.toList_injective htext), hrest⟩

/-! ## The lines of a table -/

/-- The items of a table, which are lines, end with the line that starts with a parenthesis. -/
theorem itemLines_append_inj {xs ys : List (List Char)} (hx : ∀ x ∈ xs, '\n' ∉ x)
    (hy : ∀ y ∈ ys, '\n' ∉ y)
    (h : itemLines xs ++ ')' :: rest = itemLines ys ++ ')' :: rest') :
    xs = ys ∧ rest = rest' := by
  cases xs with
  | nil =>
      cases ys with
      | nil => exact ⟨rfl, (List.cons.inj h).2⟩
      | cons y ys => simp [itemLines] at h
  | cons x xs =>
      cases ys with
      | nil => simp [itemLines] at h
      | cons y ys =>
          obtain ⟨hx, hxs⟩ := List.forall_mem_cons.1 hx
          obtain ⟨hy, hys⟩ := List.forall_mem_cons.1 hy
          simp only [itemLines, List.append_assoc, List.cons_append, List.nil_append,
            List.cons.injEq, true_and] at h
          obtain ⟨hitem, h⟩ := append_cons_inj hx hy h
          obtain ⟨hitems, hrest⟩ := flatMap_append_inj (P := ('\n' ∉ ·))
            (fun item more => by simp) (fun hx hy h => by
              simp only [List.append_assoc, List.cons_append, List.nil_append, List.cons.injEq,
                true_and] at h
              exact append_cons_inj hx hy h) hxs hys h
          exact ⟨by rw [hitem, hitems], hrest⟩

/-- A quoted legible name is in one line. -/
theorem not_mem_quoted {name : String} (h : IsLegible name) : '\n' ∉ quoted name := by
  simp [quoted, h.2]

/-- The item of a legible column is in one line. -/
theorem not_mem_columnItem {c : Column} (h : c.IsLegible) : '\n' ∉ columnItem c := by
  have htype : '\n' ∉ c.type.text.toList := fun hmem =>
    absurd (h.type.mem_typeChars _ hmem) (by decide)
  simp [columnItem, not_mem_quoted h.name, htype]

/-- The item of a primary key of legible columns is in one line. -/
theorem not_mem_keyItem {key : List String} (h : ∀ name ∈ key, IsLegible name) :
    '\n' ∉ keyItem key := by
  have hwords : '\n' ∉ keyWords := by decide
  have hlist : '\n' ∉ quotedList key :=
    quotedList_of_parts (P := fun cs => '\n' ∉ cs) (by decide)
      (fun hx hy hmem => (List.mem_append.1 hmem).elim hx hy) (by decide)
      fun name hname => not_mem_quoted (h name hname)
  simp [keyItem, hwords, hlist]

/-- The item of a legible column says which column it is. -/
theorem columnItem_inj {c d : Column} (hc : c.IsLegible) (hd : d.IsLegible)
    (h : columnItem c = columnItem d) : c = d := by
  obtain ⟨hname, htype⟩ := quoted_append_inj hc.name.1 hd.name.1 h
  have htext := ColumnType.text_inj (String.toList_injective (List.cons.inj htype).2)
  cases c
  cases d
  cases hname
  cases htext
  rfl

/-- The item of a primary key of legible columns says which columns they are. -/
theorem keyItem_inj {key key' : List String} (h : ∀ name ∈ key, IsLegible name)
    (h' : ∀ name ∈ key', IsLegible name) (heq : keyItem key = keyItem key') : key = key' := by
  have hlist := (List.cons.inj (List.append_cancel_left heq)).2
  exact (quotedList_append_inj h h' hlist).1

/-- The items of a table that start with a quote are those of its columns, and the others are that
of its primary key. -/
theorem filter_items (t : Table) :
    (items t).filter (·.head? == some '"') = t.columns.toList.map columnItem
      ∧ (items t).filter (·.head? != some '"')
        = if t.primaryKey.isEmpty then [] else [keyItem t.primaryKey] := by
  have hcolumns : (t.columns.toList.map columnItem).filter (·.head? == some '"')
      = t.columns.toList.map columnItem :=
    List.filter_eq_self.2 (List.forall_mem_map.2 fun _ _ => rfl)
  have hothers : (t.columns.toList.map columnItem).filter (·.head? != some '"') = [] :=
    List.filter_eq_nil_iff.2 (List.forall_mem_map.2 fun _ _ => by simp [columnItem, quoted])
  have hkey : (keyItem t.primaryKey).head? = some 'C' := rfl
  rw [items, List.filter_append, List.filter_append, hcolumns, hothers]
  cases t.primaryKey.isEmpty <;> simp [hkey]

/-- The items of a legible table say which columns and which primary key it has. -/
theorem items_inj {t u : Table} (ht : t.IsLegible) (hu : u.IsLegible) (h : items t = items u) :
    t.columns.toList = u.columns.toList ∧ t.primaryKey = u.primaryKey := by
  obtain ⟨hcolumns, hkey⟩ := filter_items t
  obtain ⟨hcolumns', hkey'⟩ := filter_items u
  rw [h, hcolumns'] at hcolumns
  rw [h, hkey'] at hkey
  constructor
  · have hmap := map_eq_map_of_map_eq (g := id) hcolumns.symm fun c hc d hd =>
      columnItem_inj (ht.columns c hc) (hu.columns d hd)
    rwa [List.map_id, List.map_id] at hmap
  · split at hkey
    · rename_i hempty'
      split at hkey
      · rename_i hempty
        rw [List.isEmpty_iff.1 hempty, List.isEmpty_iff.1 hempty']
      · cases hkey
    · split at hkey
      · cases hkey
      · exact keyItem_inj ht.primaryKey hu.primaryKey (List.cons.inj hkey).1.symm

/-- A shard key of legible columns says where it ends, whatever words stand inside. -/
theorem shardKey_append_inj {key key' : ShardKey} (words : List Char)
    (hkey : ∀ name ∈ key.columns, IsLegible name) (hkey' : ∀ name ∈ key'.columns, IsLegible name)
    (h : (toString key.shards).toList ++ ')' :: (words ++ (quotedList key.columns ++ ')' :: rest))
      = (toString key'.shards).toList
        ++ ')' :: (words ++ (quotedList key'.columns ++ ')' :: rest'))) :
    key = key' ∧ rest = rest' := by
  obtain ⟨hshards, h⟩ := number_append_inj h
  obtain ⟨hcolumns, hrest⟩ := quotedList_append_inj hkey hkey' (List.append_cancel_left h)
  cases key
  cases key'
  cases hshards
  cases hcolumns
  exact ⟨rfl, hrest⟩

/-- The line that ends the creation of a table says which shard key it has. -/
theorem tableTail_append_inj {key key' : Option ShardKey}
    (h : ∀ k, key = some k → ∀ name ∈ k.columns, IsLegible name)
    (h' : ∀ k, key' = some k → ∀ name ∈ k.columns, IsLegible name)
    (heq : tableTail key ++ rest = tableTail key' ++ rest') : key = key' ∧ rest = rest' := by
  have hwords : hashWords = ' ' :: "PARTITION BY HASH(".toList := by decide
  cases key with
  | none =>
      cases key' with
      | none => exact ⟨rfl, (List.cons.inj heq).2⟩
      | some k' => simp [tableTail, hwords] at heq
  | some k =>
      cases key' with
      | none => simp [tableTail, hwords] at heq
      | some k' =>
          simp only [tableTail, List.append_assoc, List.append_cancel_left_eq, List.cons_append,
            List.nil_append] at heq
          obtain ⟨hkey, hend⟩ := shardKey_append_inj [' ', 'K', 'E', 'Y', '('] (h k rfl)
            (h' k' rfl) heq
          exact ⟨by rw [hkey], (List.cons.inj hend).2⟩

/-- The name of a table with its schema before it says where it ends. -/
theorem qualified_append_inj {schema schema' table table' : String} (hs : '"' ∉ schema.toList)
    (hs' : '"' ∉ schema'.toList) (ht : '"' ∉ table.toList) (ht' : '"' ∉ table'.toList)
    (h : quoted schema ++ '.' :: (quoted table ++ rest)
      = quoted schema' ++ '.' :: (quoted table' ++ rest')) :
    schema = schema' ∧ table = table' ∧ rest = rest' := by
  obtain ⟨hschema, h⟩ := quoted_append_inj hs hs' h
  obtain ⟨htable, h⟩ := quoted_append_inj ht ht' (List.cons.inj h).2
  exact ⟨hschema, htable, h⟩

end Ddl

end Schemata
