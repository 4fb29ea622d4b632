import Mathlib.Data.Finset.Card
import Schemata.Proofs.Calls
import Schemata.Proofs.Coherence

/-! # How much of a primary key a foreign key covers

Validation checks that a foreign key refers to as many columns as the primary key of its table has,
and that each of them is in it. No list is checked for columns that it names twice. So a foreign key
that names every column once refers to the whole primary key, in some order; but one that refers to
a column twice may leave another one out. It covers the primary key exactly when it names as many
different columns as the primary key does. -/

namespace Schemata

namespace ForeignKey

variable {key : ForeignKey} {t target : Table}

/-- A foreign key that fits refers to columns of the primary key. -/
theorem Fits.subset_primaryKey (h : key.Fits t target) :
    key.targetKeys ⊆ target.primaryKey := by
  intro column hcolumn
  obtain ⟨source, -, hrefer⟩ := h.exists_link hcolumn
  exact hrefer.inKey

/-- A foreign key that fits and names every column once refers to the whole primary key, in some
order. -/
theorem Fits.perm_primaryKey (h : key.Fits t target) (hnodup : key.targetKeys.Nodup) :
    key.targetKeys.Perm target.primaryKey :=
  (List.subperm_of_subset hnodup h.subset_primaryKey).perm_of_length_le (Nat.le_of_eq h.whole.symm)

/-- A foreign key that fits covers the primary key exactly when it names as many different
columns. -/
theorem Fits.toFinset_eq_iff_card (h : key.Fits t target) :
    key.targetKeys.toFinset = target.primaryKey.toFinset
      ↔ key.targetKeys.toFinset.card = target.primaryKey.toFinset.card := by
  constructor
  · exact congrArg Finset.card
  · intro hcard
    have hsub : key.targetKeys.toFinset ⊆ target.primaryKey.toFinset := fun column hcolumn =>
      List.mem_toFinset.2 (h.subset_primaryKey (List.mem_toFinset.1 hcolumn))
    exact Finset.eq_of_subset_of_card_le hsub (Nat.le_of_eq hcard.symm)

/-- A foreign key that fits covers a primary key that names every column once exactly when it does
so itself. -/
theorem Fits.toFinset_eq_iff_nodup (h : key.Fits t target) (hprimary : target.primaryKey.Nodup) :
    key.targetKeys.toFinset = target.primaryKey.toFinset ↔ key.targetKeys.Nodup := by
  constructor
  · -- There are as many columns as different ones in the primary key, so none is repeated.
    intro heq
    have hlength : key.targetKeys.dedup.length = key.targetKeys.length := by
      rw [← List.card_toFinset, heq, List.toFinset_card_of_nodup hprimary, h.whole]
    rw [← List.dedup_eq_self]
    exact (List.dedup_sublist _).eq_of_length hlength
  · exact fun hnodup => List.toFinset_eq_of_perm _ _ (h.perm_primaryKey hnodup)

/-- A foreign key that fits covers the primary key exactly when every column of it is joined to a
column of the table. -/
theorem Fits.toFinset_eq_iff_links (h : key.Fits t target) :
    key.targetKeys.toFinset = target.primaryKey.toFinset
      ↔ ∀ column ∈ target.primaryKey, ∃ source ∈ t.columnNames, (source, column) ∈ key.links := by
  constructor
  · intro heq column hcolumn
    have hnamed : column ∈ key.targetKeys := by
      rwa [← List.mem_toFinset, heq, List.mem_toFinset]
    obtain ⟨source, hlink, hrefer⟩ := h.exists_link hnamed
    obtain ⟨a, -, ha, -⟩ := hrefer.columns
    exact ⟨source, Catalog.mem_names_of_get? ha, hlink⟩
  · intro hlinks
    ext column
    rw [List.mem_toFinset, List.mem_toFinset]
    refine ⟨fun hcolumn => h.subset_primaryKey hcolumn, fun hcolumn => ?_⟩
    obtain ⟨source, -, hlink⟩ := hlinks column hcolumn
    exact (List.of_mem_zip hlink).2

end ForeignKey

namespace Database

/-- **Foreign keys of a valid database refer to primary keys**: to as many columns as the primary
key of the other table has, each of them in it. They are all of its columns exactly when as many
different ones are named, which is so if the foreign key names none twice, and only then if the
primary key names none twice; and exactly when every column of the primary key is joined to a column
of the table. -/
theorem foreignKey_covers {db : Database} (hvalid : db.validate.isValid = true) {t : Table}
    (ht : t ∈ db.tables.toList) {key : ForeignKey} (hkey : key ∈ t.foreignKeys.toList) :
    ∃ target, db.table? key.target = some target
      ∧ key.targetKeys.length = target.primaryKey.length
      ∧ (∀ column ∈ key.targetKeys, column ∈ target.primaryKey)
      ∧ (key.targetKeys.toFinset = target.primaryKey.toFinset
        ↔ key.targetKeys.toFinset.card = target.primaryKey.toFinset.card)
      ∧ (key.targetKeys.Nodup → key.targetKeys.Perm target.primaryKey)
      ∧ (target.primaryKey.Nodup →
        (key.targetKeys.toFinset = target.primaryKey.toFinset ↔ key.targetKeys.Nodup))
      ∧ (key.targetKeys.toFinset = target.primaryKey.toFinset
        ↔ ∀ column ∈ target.primaryKey,
          ∃ source ∈ t.columnNames, (source, column) ∈ key.links) := by
  have hcoherent := ((isValid_validate_iff_coherent db).1 hvalid t ht).2
  obtain ⟨target, found, hfits⟩ := hcoherent.foreignKeys key hkey
  exact ⟨target, found, hfits.whole, fun _ hcolumn => hfits.subset_primaryKey hcolumn,
    hfits.toFinset_eq_iff_card, hfits.perm_primaryKey, hfits.toFinset_eq_iff_nodup,
    hfits.toFinset_eq_iff_links⟩

end Database

/-! ## Shops of a region -/

namespace Chain

open Database

/-- A chain whose shops have numbers in their region. A sale is made in a shop, and by mistake it
also refers to a shop by its number twice. -/
def chain : Database :=
  (⟨"chain", .empty, .empty⟩ : Database).run [
    .addTable "shops" "chain"
      [.addColumn "id" "INT", .addColumn "region" "INT", .setPrimaryKey (.many ["region", "id"])],
    .addTable "sales" "chain"
      [.addColumn "shop" "INT", .addColumn "region" "INT",
        .referTo (.many ["shop", "region"]) "shops" (.many ["id", "region"]) (some "shop"),
        .referTo (.many ["shop", "region"]) "shops" (.many ["id", "id"]) (some "number")]]

/-- The foreign key of sales to shops. -/
def shop : ForeignKey := ⟨"shop", "sales", ["shop", "region"], "shops", ["id", "region"]⟩

/-- The foreign key of sales to the numbers of shops. -/
def number : ForeignKey := ⟨"number", "sales", ["shop", "region"], "shops", ["id", "id"]⟩

/-- The chain has a history. -/
theorem built : chain.Built :=
  (Built.make (rfl : Database.make "chain" = .ok ⟨"chain", .empty, .empty⟩)).run _

/-- The chain is valid. -/
theorem valid : chain.validate.isValid = true := by decide +kernel

/-- The sales have the two foreign keys. -/
theorem exists_sales :
    ∃ t ∈ chain.tables.toList, t.foreignKeys.toList = [shop, number] := by
  obtain ⟨t, found, hkeys⟩ : ∃ t, chain.table? "sales" = some t
      ∧ t.foreignKeys.toList = [shop, number] := ⟨_, rfl, rfl⟩
  exact ⟨t, Catalog.mem_of_get? found, hkeys⟩

/-- The foreign key of sales to shops refers to the primary key there in another order. -/
theorem foreignKey_covers_shop :
    chain.validate.isValid = true ∧ shop.targetKeys.Nodup
      ∧ ∃ t ∈ chain.tables.toList, shop ∈ t.foreignKeys.toList
        ∧ ∃ target, chain.table? "shops" = some target
          ∧ shop.targetKeys.Perm target.primaryKey
          ∧ shop.targetKeys.toFinset = target.primaryKey.toFinset
          ∧ ∀ column ∈ target.primaryKey,
            ∃ source ∈ t.columnNames, (source, column) ∈ shop.links := by
  obtain ⟨t, ht, hkeys⟩ := exists_sales
  have hkey : shop ∈ t.foreignKeys.toList := by simp [hkeys]
  have hnodup : shop.targetKeys.Nodup := by decide
  obtain ⟨target, found, -, -, -, hperm, -, hlinks⟩ := foreignKey_covers valid ht hkey
  have heq := List.toFinset_eq_of_perm _ _ (hperm hnodup)
  exact ⟨valid, hnodup, t, ht, hkey, target, found, hperm hnodup, heq, hlinks.1 heq⟩

/-- The chain is valid, but no column of sales is joined to the region by their foreign key to the
numbers of shops. -/
theorem number_not_covers :
    chain.Built ∧ chain.validate.isValid = true
      ∧ ∃ t ∈ chain.tables.toList, number ∈ t.foreignKeys.toList
        ∧ ∃ target, chain.table? number.target = some target
          ∧ number.targetKeys.toFinset ≠ target.primaryKey.toFinset
          ∧ "region" ∈ target.primaryKey ∧ ∀ source, (source, "region") ∉ number.links := by
  obtain ⟨t, ht, hkeys⟩ := exists_sales
  obtain ⟨target, found, hprimary⟩ : ∃ target, chain.table? number.target = some target
      ∧ target.primaryKey = ["region", "id"] := ⟨_, rfl, rfl⟩
  refine ⟨built, valid, t, ht, by simp [hkeys], target, found, ?_, ?_, ?_⟩
  · rw [hprimary]
    decide
  · simp [hprimary]
  · simp [ForeignKey.links, number]

end Chain

end Schemata
