import Mathlib.Data.List.Sort
import Mathlib.Data.List.Zip
import Schemata.Proofs.Agreement
import Schemata.Proofs.Calls

/-! # What an empty comparison says of foreign keys

A foreign key joins columns in pairs, but a comparison sees the columns of its two sides apart: each
side in order, and not which column goes with which. Where a comparison is empty, the foreign keys
of the two databases therefore have the same columns on either side. They join the same pairs where
one side leaves no choice, as in a key of one column; else the pairs may have changed unseen. -/

namespace Schemata

/-! ## Foreign keys that are the same -/

/-- Names have one sorted list exactly when they are the same names in some order. -/
theorem sortedNames_eq_iff (xs ys : List String) :
    sortedNames xs = sortedNames ys ↔ xs.Perm ys := by
  have hperm : ∀ names : List String, (sortedNames names).Perm names := fun names =>
    List.mergeSort_perm names _
  have hsorted : ∀ names : List String, (sortedNames names).Pairwise (· ≤ ·) := fun names =>
    List.pairwise_mergeSort' (· ≤ ·) names
  constructor
  · intro h
    exact (hperm xs).symm.trans (h ▸ hperm ys)
  · intro h
    exact ((hperm xs).trans (h.trans (hperm ys).symm)).eq_of_pairwise' (hsorted xs) (hsorted ys)

namespace ForeignKey

/-- Two foreign keys are the same exactly when they have one name, lead from one table to one table
and have the same columns on either side, in some order. -/
theorem same_iff (a b : ForeignKey) :
    a.same b = true ↔ a.name = b.name ∧ a.source = b.source ∧ a.target = b.target
      ∧ a.sourceKeys.Perm b.sourceKeys ∧ a.targetKeys.Perm b.targetKeys := by
  simp only [same, Bool.and_eq_true, beq_iff_eq, sortedNames_eq_iff, and_assoc]

/-- Whether one side of a foreign key has a single column, maybe more than once. -/
def OneSided (a : ForeignKey) : Prop :=
  (∃ column, ∀ c ∈ a.sourceKeys, c = column) ∨ ∃ column, ∀ c ∈ a.targetKeys, c = column

end ForeignKey

/-- Where the first list has one value throughout, it goes with every value of the second. -/
theorem zip_eq_map_of_forall {α β : Type} {xs : List α} {ys : List β} {x : α}
    (h : ∀ y ∈ xs, y = x) (hlen : xs.length = ys.length) : xs.zip ys = ys.map (Prod.mk x) := by
  have hxs : xs = ys.map fun _ => x := by
    rw [List.map_const', ← hlen]
    exact List.eq_replicate_of_mem h
  rw [hxs]
  exact List.map_prod_right_eq_zip.symm

namespace ForeignKey

/-- Where one side of a foreign key leaves no choice, foreign keys that are the same as it join the
same pairs. -/
theorem OneSided.perm_links {a b : ForeignKey} (h : a.OneSided)
    (heven : a.sourceKeys.length = a.targetKeys.length) (hsame : a.same b = true) :
    a.links.Perm b.links := by
  obtain ⟨-, -, -, hsource, htarget⟩ := (same_iff a b).1 hsame
  have heven' : b.sourceKeys.length = b.targetKeys.length := by
    rw [← hsource.length_eq, ← htarget.length_eq, heven]
  rcases h with ⟨column, hall⟩ | ⟨column, hall⟩
  · have hall' : ∀ c ∈ b.sourceKeys, c = column := fun c hc => hall c (hsource.mem_iff.2 hc)
    rw [links, links, zip_eq_map_of_forall hall heven, zip_eq_map_of_forall hall' heven']
    exact htarget.map _
  · have hall' : ∀ c ∈ b.targetKeys, c = column := fun c hc => hall c (htarget.mem_iff.2 hc)
    -- Seen from the other side, the first list is the one with the single column.
    rw [links, links, ← List.zip_swap a.targetKeys, ← List.zip_swap b.targetKeys,
      zip_eq_map_of_forall hall heven.symm, zip_eq_map_of_forall hall' heven'.symm]
    exact (hsource.map _).map _

/-- Two pairs of a foreign key that differ on both sides, if neither side has a single column. -/
theorem exists_links_of_not_oneSided {a : ForeignKey} (h : ¬ a.OneSided)
    (heven : a.sourceKeys.length = a.targetKeys.length) :
    ∃ p ∈ a.links, ∃ q ∈ a.links, p.1 ≠ q.1 ∧ p.2 ≠ q.2 := by
  have hfst : a.links.map Prod.fst = a.sourceKeys := List.map_fst_zip heven.le
  have hsnd : a.links.map Prod.snd = a.targetKeys := List.map_snd_zip heven.ge
  simp only [OneSided, ← hfst, ← hsnd, List.forall_mem_map, not_or, not_exists, not_forall] at h
  obtain ⟨hsource, htarget⟩ := h
  obtain ⟨p, hp, -⟩ := hsource ""
  obtain ⟨q, hq, hpq⟩ := hsource p.1
  by_cases hpq₂ : q.2 = p.2
  · -- A third pair differs from both on the second side, and from one of them on the first.
    obtain ⟨r, hr, hrp₂⟩ := htarget p.2
    by_cases hrp : r.1 = p.1
    · exact ⟨q, hq, r, hr, hrp ▸ hpq, hpq₂ ▸ Ne.symm hrp₂⟩
    · exact ⟨r, hr, p, hp, hrp, hrp₂⟩
  · exact ⟨q, hq, p, hp, hpq, hpq₂⟩

/-- If neither side has a single column, a foreign key that is the same may join other pairs: the
columns of two pairs change places on one side. -/
theorem exists_same_of_not_oneSided {a : ForeignKey} (h : ¬ a.OneSided)
    (heven : a.sourceKeys.length = a.targetKeys.length) :
    ∃ b, a.same b = true ∧ ¬ a.links.Perm b.links := by
  obtain ⟨p, hp, q, hq, hfst, hsnd⟩ := exists_links_of_not_oneSided h heven
  have hne : q ≠ p := fun e => hfst (by rw [e])
  obtain ⟨rest, hlinks⟩ : ∃ rest, a.links.Perm (p :: q :: rest) :=
    ⟨_, (List.perm_cons_erase hp).trans
      ((List.perm_cons_erase ((List.mem_erase_of_ne hne).2 hq)).cons p)⟩
  have hsource : a.sourceKeys.Perm (p.1 :: q.1 :: rest.map Prod.fst) := by
    simpa [links, List.map_fst_zip heven.le] using hlinks.map Prod.fst
  have htarget : a.targetKeys.Perm (p.2 :: q.2 :: rest.map Prod.snd) := by
    simpa [links, List.map_snd_zip heven.ge] using hlinks.map Prod.snd
  let b : ForeignKey := { a with
    sourceKeys := p.1 :: q.1 :: rest.map Prod.fst
    targetKeys := q.2 :: p.2 :: rest.map Prod.snd }
  have hsame : a.same b = true :=
    (same_iff a b).2 ⟨rfl, rfl, rfl, hsource, htarget.trans (.swap _ _ _)⟩
  refine ⟨b, hsame, fun hperm => ?_⟩
  have hb : b.links = [(p.1, q.2), (q.1, p.2)] ++ rest := by
    simp [b, links, List.zip_map']
  -- What the two keys share may be left out.
  rw [hb] at hperm
  have hpairs : [p, q].Perm [(p.1, q.2), (q.1, p.2)] :=
    (List.perm_append_right_iff rest).1 (hlinks.symm.trans hperm)
  have hmem : p ∈ [(p.1, q.2), (q.1, p.2)] := hpairs.mem_iff.1 List.mem_cons_self
  simp only [List.mem_cons, List.not_mem_nil, or_false] at hmem
  rcases hmem with e | e
  · exact hsnd (Prod.ext_iff.1 e).2
  · exact hfst (Prod.ext_iff.1 e).1

/-- A foreign key of a single column on either side leaves no choice. -/
theorem oneSided_of_make {source target : String} {sourceKeys targetKeys : KeyColumns}
    {name? : Option String} {a : ForeignKey}
    (made : make source sourceKeys target targetKeys name? = .ok a)
    (hone : sourceKeys.isOne = true ∨ targetKeys.isOne = true) : a.OneSided := by
  obtain ⟨-, -, -, -, -, -, -, rfl⟩ := (make_eq_ok_iff ..).1 made
  rcases hone with hone | hone
  · obtain ⟨column, rfl⟩ := KeyColumns.isOne_iff.1 hone
    exact .inl ⟨column, fun c hc => List.mem_singleton.1 hc⟩
  · obtain ⟨column, rfl⟩ := KeyColumns.isOne_iff.1 hone
    exact .inr ⟨column, fun c hc => List.mem_singleton.1 hc⟩

/-! ## Foreign keys that can be made -/

/-- Whether a foreign key passes its own checks. -/
def Checked (a : ForeignKey) : Prop :=
  make a.source (.many a.sourceKeys) a.target (.many a.targetKeys) (some a.name) = .ok a

/-- A foreign key that is made passes its own checks. -/
theorem checked_of_make {source target : String} {sourceKeys targetKeys : KeyColumns}
    {name? : Option String} {a : ForeignKey}
    (made : make source sourceKeys target targetKeys name? = .ok a) : a.Checked := by
  have hname := (of_make_eq_ok made).1
  obtain ⟨hsource, htarget, hsources, htargets, hne, heven, -, rfl⟩ := (make_eq_ok_iff ..).1 made
  refine (make_eq_ok_iff ..).2 ⟨hsource, htarget, hsources, htargets, hne, heven, ?_, rfl⟩
  rintro _ ⟨⟩
  exact hname

/-- The order of the columns on either side does not matter to the checks. -/
theorem Checked.of_same {a b : ForeignKey} (h : a.Checked) (hsame : a.same b = true) :
    b.Checked := by
  obtain ⟨hname, hsource, htarget, hsources, htargets⟩ := (same_iff a b).1 hsame
  obtain ⟨hsource', htarget', hsources', htargets', hne, heven, hname', -⟩ :=
    (make_eq_ok_iff ..).1 h
  refine (make_eq_ok_iff ..).2 ⟨hsource ▸ hsource', htarget ▸ htarget',
    fun c hc => hsources' c (hsources.mem_iff.2 hc),
    fun c hc => htargets' c (htargets.mem_iff.2 hc), fun hnil => hne ?_, ?_, hname ▸ hname', rfl⟩
  · have hnil' : b.sourceKeys = [] := hnil
    rw [hnil'] at hsources
    exact hsources.eq_nil
  · exact hsources.length_eq.symm.trans (heven.trans htargets.length_eq)

end ForeignKey

/-- The foreign keys of a table that edits build pass their own checks. -/
theorem Table.Built.foreignKey_checked {t : Table} (h : t.Built) :
    ∀ a ∈ t.foreignKeys.toList, a.Checked := by
  induction h with
  | inSchema made =>
      obtain ⟨-, -, rfl⟩ := (inSchema_eq_ok_iff _ _ _).1 made
      simp
  | edit _ edit ih =>
      cases edit with
      | addForeignKey made =>
          exact Catalog.forall_mem_insert ih (ForeignKey.checked_of_make made)
      | dropForeignKey key => exact Catalog.forall_mem_erase ih key
      | setPrimaryKey set =>
          obtain ⟨-, rfl⟩ := (setPrimaryKey_eq_ok_iff _ _ _).1 set
          exact ih
      | _ => exact ih

namespace Database

/-! ## What goes unseen -/

/-- What an edit makes of a table that is found may be said beforehand. -/
theorem editTable_eq_of_table? {db : Database} {table : String} {t : Table}
    (found : db.table? table = some t) (edit : Table → Table) :
    db.editTable table edit = db.editTable table fun _ => edit t := by
  simp only [editTable, found]

/-- A comparison does not see that a foreign key has been replaced by one that is the same. -/
theorem isEmpty_compare_of_same {db : Database} {t : Table} (found : db.table? t.name = some t)
    {a b : ForeignKey} (mem : a ∈ t.foreignKeys.toList) (hsame : a.same b = true) :
    (db.compare (db.editTable t.name (·.addForeignKey b))).isEmpty = true := by
  have hname : a.name = b.name := ((ForeignKey.same_iff a b).1 hsame).1
  have ha : t.foreignKeys.get? b.name = some a := hname ▸ Catalog.get?_of_mem mem
  have hagrees : t.Agrees { t with foreignKeys := t.foreignKeys.insert b } :=
    { Table.Agrees.refl t with
      foreignKeys := by
        intro key
        rw [Catalog.get?_insert]
        split
        · rename_i hkey
          rw [← hkey, ForeignKey.named_eq, ha]
          exact .some hsame
        · exact (Table.Agrees.refl t).foreignKeys key }
  rw [isEmpty_compare_iff]
  refine agrees_of_rel fun table => ?_
  rw [table?_editTable found]
  split
  · rename_i htable
    rw [← htable, found]
    exact .some hagrees
  · cases db.table? table with
    | none => exact .none
    | some other => exact .some (.refl other)

/-- If neither side of a foreign key has a single column, a comparison with some database does not
see that other pairs are joined under its name. -/
theorem exists_unseen {db : Database} (hbuilt : db.Built) {table : String} {t : Table}
    (found : db.table? table = some t) {a : ForeignKey} (mem : a ∈ t.foreignKeys.toList)
    (hsides : ¬ a.OneSided) :
    ∃ db' t' b, db'.Built ∧ (db.compare db').isEmpty = true ∧ db'.table? table = some t'
      ∧ t'.foreignKeys.get? a.name = some b ∧ ¬ a.links.Perm b.links := by
  obtain rfl : t.name = table := Catalog.name_of_get? found
  have htable := hbuilt.table found
  obtain ⟨b, hsame, hlinks⟩ :=
    ForeignKey.exists_same_of_not_oneSided hsides (htable.wellFormed.even a mem).1
  have hedit : t.Edit (t.addForeignKey b) :=
    .addForeignKey ((htable.foreignKey_checked a mem).of_same hsame)
  have hname : a.name = b.name := ((ForeignKey.same_iff a b).1 hsame).1
  -- In the other database, a foreign key that joins other pairs stands in the place of the first.
  refine ⟨db.editTable t.name fun _ => t.addForeignKey b, t.addForeignKey b, b,
    hbuilt.editTable found hedit, ?_, ?_, ?_, hlinks⟩
  · have hempty := isEmpty_compare_of_same found mem hsame
    rwa [editTable_eq_of_table? found] at hempty
  · rw [table?_editTable_of_edit found hedit, if_pos rfl]
  · rw [hname]
    exact (Catalog.get?_insert _ b b.name).trans (if_pos rfl)

/-! ## What is kept -/

/-- **An empty comparison keeps the two sides of every foreign key.** Where a comparison is empty,
a foreign key of a table of the first database has its counterpart in the second: under its name in
the table of that name, from the same table to the same table, and with the same columns on either
side. It joins the same pairs of columns where one side has a single column; and for any other
foreign key there is a database with which the comparison is empty though it joins other pairs. -/
theorem foreignKey_kept {db₁ db₂ : Database} (hbuilt : db₁.Built)
    (hempty : (db₁.compare db₂).isEmpty = true) {table : String} {t₁ : Table}
    (found : db₁.table? table = some t₁) {a : ForeignKey} (mem : a ∈ t₁.foreignKeys.toList) :
    (∃ t₂ b, db₂.table? table = some t₂ ∧ t₂.foreignKeys.get? a.name = some b
      ∧ b.source = a.source ∧ b.target = a.target
      ∧ a.sourceKeys.Perm b.sourceKeys ∧ a.targetKeys.Perm b.targetKeys
      ∧ (a.OneSided → a.links.Perm b.links))
    ∧ (¬ a.OneSided → ∃ db₃ t₃ c, db₃.Built ∧ (db₁.compare db₃).isEmpty = true
      ∧ db₃.table? table = some t₃ ∧ t₃.foreignKeys.get? a.name = some c
      ∧ ¬ a.links.Perm c.links) := by
  refine ⟨?_, exists_unseen hbuilt found mem⟩
  have hagrees := (isEmpty_compare_iff db₁ db₂).1 hempty
  obtain ⟨t₂, found₂, htables⟩ := hagrees.symm.exists_table? found
  have ha : t₁.foreignKeys.get? a.name = some a := Catalog.get?_of_mem mem
  have hkeys := htables.symm.foreignKeys a.name
  rw [ha] at hkeys
  obtain ⟨b, hb, hsame⟩ : ∃ b, t₂.foreignKeys.get? a.name = some b ∧ a.same b = true := by
    cases hb : t₂.foreignKeys.get? a.name with
    | none => simp [hb] at hkeys
    | some b => exact ⟨b, rfl, by simpa [hb] using hkeys⟩
  have heven := ((hbuilt.table found).wellFormed.even a mem).1
  obtain ⟨-, hsource, htarget, hsources, htargets⟩ := (ForeignKey.same_iff a b).1 hsame
  exact ⟨t₂, b, found₂, hb, hsource.symm, htarget.symm, hsources, htargets,
    fun h => h.perm_links heven hsame⟩

end Database

/-! ## Tickets for another seat -/

namespace Hall

open Database

/-- A hall with numbered rooms, in which a ticket is for a seat of a room. -/
def hall : Database :=
  (⟨"hall", .empty, .empty⟩ : Database).run [
    .addTable "rooms" "hall" [.addColumn "room" "INT", .setPrimaryKey (.one "room")],
    .addTable "seats" "hall"
      [.addColumn "room" "INT", .addColumn "place" "INT", .setPrimaryKey (.many ["room", "place"])],
    .addTable "tickets" "hall"
      [.addColumn "room" "INT", .addColumn "seat" "INT",
        .referTo (.one "room") "rooms" (.one "room") (some "room"),
        .referTo (.many ["room", "seat"]) "seats" (.many ["room", "place"]) (some "seat")]]

/-- The hall after a mistake: the room of a ticket is looked up as a place, and its seat as a
room. -/
def mixed : Database :=
  hall.run [.onTable "tickets"
    (.referTo (.many ["room", "seat"]) "seats" (.many ["place", "room"]) (some "seat"))]

/-- The foreign key of tickets to rooms. -/
def room : ForeignKey := ⟨"room", "tickets", ["room"], "rooms", ["room"]⟩

/-- The foreign key of tickets to seats. -/
def seat : ForeignKey := ⟨"seat", "tickets", ["room", "seat"], "seats", ["room", "place"]⟩

/-- The foreign key of tickets to seats after the mistake. -/
def mixedSeat : ForeignKey := { seat with targetKeys := ["place", "room"] }

/-- Both halls have a history. -/
theorem built : hall.Built ∧ mixed.Built := by
  have made : Database.make "hall" = .ok ⟨"hall", .empty, .empty⟩ := rfl
  exact ⟨(Built.make made).run _, ((Built.make made).run _).run _⟩

/-- The tickets of the first hall have the two foreign keys. -/
theorem exists_tickets :
    ∃ t, hall.table? "tickets" = some t ∧ t.foreignKeys.toList = [room, seat] := ⟨_, rfl, rfl⟩

/-- The comparison of the two halls is empty. -/
theorem isEmpty_compare : (hall.compare mixed).isEmpty = true := by
  obtain ⟨t, found, hkeys⟩ := exists_tickets
  have hname : t.name = "tickets" := Catalog.name_of_get? found
  have hmem : seat ∈ t.foreignKeys.toList := by simp [hkeys]
  have hsame : seat.same mixedSeat = true :=
    (ForeignKey.same_iff _ _).2 ⟨rfl, rfl, rfl, .refl _, .swap _ _ _⟩
  have hempty := isEmpty_compare_of_same (hname.symm ▸ found) hmem hsame
  rw [hname] at hempty
  exact hempty

/-- Both halls are valid and their comparison is empty, but the foreign key of tickets to seats
joins other pairs of columns. -/
theorem mixed_not_seen :
    hall.Built ∧ mixed.Built ∧ hall.validate.isValid = true ∧ mixed.validate.isValid = true
      ∧ (hall.compare mixed).isEmpty = true
      ∧ ∃ t₁ t₂ a b, hall.table? "tickets" = some t₁ ∧ mixed.table? "tickets" = some t₂
        ∧ a ∈ t₁.foreignKeys.toList ∧ t₂.foreignKeys.get? a.name = some b
        ∧ ¬ a.links.Perm b.links :=
  ⟨built.1, built.2, by decide +kernel, by decide +kernel, isEmpty_compare,
    _, _, seat, mixedSeat, rfl, rfl, by decide +kernel, by decide +kernel, by decide +kernel⟩

/-- The foreign key to seats keeps its tables and its columns, and that to rooms, which has one
column, also keeps what it joins. The one to seats, which has two, may join others unseen. -/
theorem foreignKey_kept_hall :
    hall.Built ∧ (hall.compare mixed).isEmpty = true ∧ room.OneSided
      ∧ ∃ t₁, hall.table? "tickets" = some t₁ ∧ t₁.foreignKeys.toList = [room, seat]
        ∧ ∃ t₂, mixed.table? "tickets" = some t₂
          ∧ (∃ b, t₂.foreignKeys.get? "room" = some b ∧ room.links.Perm b.links)
          ∧ (∃ b, t₂.foreignKeys.get? "seat" = some b ∧ b.source = "tickets" ∧ b.target = "seats"
            ∧ seat.sourceKeys.Perm b.sourceKeys ∧ seat.targetKeys.Perm b.targetKeys)
          ∧ ¬ seat.OneSided
          ∧ ∃ db₃ t₃ c, db₃.Built ∧ (hall.compare db₃).isEmpty = true
            ∧ db₃.table? "tickets" = some t₃ ∧ t₃.foreignKeys.get? "seat" = some c
            ∧ ¬ seat.links.Perm c.links := by
  obtain ⟨t₁, found, hkeys⟩ := exists_tickets
  have made : ForeignKey.make "tickets" (.one "room") "rooms" (.one "room") (some "room")
      = .ok room := by
    decide
  have hone : room.OneSided := ForeignKey.oneSided_of_make made (.inl rfl)
  have htwo : ¬ seat.OneSided := by
    rintro (⟨column, h⟩ | ⟨column, h⟩)
    · exact absurd ((h "room" (by decide)).trans (h "seat" (by decide)).symm) (by decide)
    · exact absurd ((h "room" (by decide)).trans (h "place" (by decide)).symm) (by decide)
  obtain ⟨⟨t₂, b, found₂, hb, -, -, -, -, hlinks⟩, -⟩ :=
    foreignKey_kept built.1 isEmpty_compare found (a := room) (by simp [hkeys])
  obtain ⟨⟨t₂', b', found₂', hb', hsource, htarget, hsources, htargets, -⟩, hunseen⟩ :=
    foreignKey_kept built.1 isEmpty_compare found (a := seat) (by simp [hkeys])
  cases found₂.symm.trans found₂'
  exact ⟨built.1, isEmpty_compare, hone, t₁, found, hkeys, t₂, found₂, ⟨b, hb, hlinks hone⟩,
    ⟨b', hb', hsource, htarget, hsources, htargets⟩, htwo, hunseen htwo⟩

end Hall

end Schemata
