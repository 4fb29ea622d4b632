import Schemata.Proofs.Rearrangement

/-! # Pairing by name is the sorted union

The pairings of two catalogs are fixed by what the catalogs hold under each name: every name of
either is visited once, in the order of the code points, and its pairing says which of the two
catalogs have it and with what. There is one list only that does this, whatever order the members
came in, and exchanging the catalogs exchanges the sides and nothing else. -/

namespace Schemata

/-! ## The order of names -/

/-- The code points of a name, from front to back. -/
def Text.codePoints (name : String) : List Nat := name.toList.map Char.toNat

/-- Names are ordered by their code points. -/
theorem Text.codePoints_lt {a b : String} (h : a < b) : codePoints a < codePoints b := by
  have hchars : a.toList < b.toList := h
  exact List.map_lt (fun _ _ hlt => hlt) hchars

variable {α : Type} [Named α]

namespace Catalog

/-! ## The union -/

/-- The sorted union of two catalogs: a list of pairings, with what each of the catalogs holds under
a name. It is stated by look-ups, so the order of the members does not come into it. -/
structure IsSortedUnion (c d : Catalog α) (pairs : List (Pairing α)) : Prop where
  /-- The names increase strictly, by their code points. -/
  increasing : pairs.Pairwise fun p q => Text.codePoints p.key < Text.codePoints q.key
  /-- Every name of either catalog is visited once, and no other name is. -/
  visited : ∀ key,
    (pairs.map Pairing.key).count key = if key ∈ c.names ∨ key ∈ d.names then 1 else 0
  /-- What both catalogs hold under a name stands together, the thing of the first in front. -/
  both : ∀ a b, .both a b ∈ pairs ↔ ∃ key, c.get? key = some a ∧ d.get? key = some b
  /-- What only the first catalog holds under its name stands alone, on the first side. -/
  first : ∀ a, .first a ∈ pairs ↔ ∃ key, c.get? key = some a ∧ d.get? key = none
  /-- What only the second catalog holds under its name stands alone, on the second side. -/
  second : ∀ b, .second b ∈ pairs ↔ ∃ key, c.get? key = none ∧ d.get? key = some b

/-- Two lists that are both the sorted union are equal: they have the same pairings, and none of
these can stand at two places. -/
theorem IsSortedUnion.eq {c d : Catalog α} {pairs others : List (Pairing α)}
    (h : c.IsSortedUnion d pairs) (h' : c.IsSortedUnion d others) : pairs = others := by
  have hmem : ∀ p, p ∈ pairs ↔ p ∈ others := by
    intro p
    cases p with
    | first a => rw [h.first, h'.first]
    | second b => rw [h.second, h'.second]
    | both a b => rw [h.both, h'.both]
  have hnodup : ∀ {ps}, c.IsSortedUnion d ps → ps.Nodup := by
    intro ps hps
    refine hps.increasing.imp ?_
    rintro p _ hlt rfl
    exact List.lt_irrefl _ hlt
  have hperm : pairs.Perm others :=
    (List.perm_ext_iff_of_nodup (hnodup h) (hnodup h')).2 hmem
  refine hperm.eq_of_pairwise ?_ h.increasing h'.increasing
  intro p q _ _ hpq hqp
  exact absurd hqp (List.lt_asymm hpq)

/-- The pairings of two catalogs are their sorted union. -/
theorem isSortedUnion_pair (c d : Catalog α) : c.IsSortedUnion d (c.pair d) where
  increasing := (pairwise_pair c d).imp Text.codePoints_lt
  visited key := by
    rw [(nodup_map_key_pair c d).count]
    simp only [mem_map_key_pair_iff]
  both a b := mem_pair_iff_exists c d (.both a b)
  first a := mem_pair_iff_exists c d (.first a)
  second b := mem_pair_iff_exists c d (.second b)

/-- **Pairing by name is the sorted union.** For two catalogs of things of any kind, the pairings
are the one list that visits every name of either catalog once, in strictly increasing order of code
points, and shows under it what the catalogs hold there. Exchanging the catalogs gives the same list
with the sides exchanged, and the order in which the members of either came in does not matter. -/
theorem pair_sortedUnion (c d : Catalog α) :
    (∀ pairs, c.IsSortedUnion d pairs ↔ pairs = c.pair d)
      ∧ d.pair c = (c.pair d).map Pairing.swap
      ∧ ∀ c' d' : Catalog α, c'.toList.Perm c.toList → d'.toList.Perm d.toList →
        c'.pair d' = c.pair d := by
  refine ⟨fun pairs => ⟨fun h => ?_, ?_⟩, (map_swap_pair c d).symm, ?_⟩
  · exact h.eq (isSortedUnion_pair c d)
  · rintro rfl
    exact isSortedUnion_pair c d
  · intro c' d' hc hd
    exact pair_eq_of_perm hc hd

/-- Columns that came in unsorted: a capital letter is before the small ones, and an accent behind
them. -/
theorem pair_sortedUnion_columns :
    let c : Catalog Column := .ofList [⟨"size", .int⟩, ⟨"Day", .date⟩]
    let d : Catalog Column := .ofList [⟨"été", .bool⟩, ⟨"size", .bigint⟩, ⟨"price", .double⟩]
    let c' : Catalog Column := .ofList [⟨"Day", .date⟩, ⟨"size", .int⟩]
    let d' : Catalog Column := .ofList [⟨"price", .double⟩, ⟨"size", .bigint⟩, ⟨"été", .bool⟩]
    let pairs : List (Pairing Column) := [.first ⟨"Day", .date⟩, .second ⟨"price", .double⟩,
      .both ⟨"size", .int⟩ ⟨"size", .bigint⟩, .second ⟨"été", .bool⟩]
    c'.toList.Perm c.toList ∧ d'.toList.Perm d.toList ∧ c.IsSortedUnion d pairs
      ∧ c.pair d = pairs ∧ c'.pair d' = pairs ∧ d.pair c = pairs.map Pairing.swap := by
  intro c d c' d' pairs
  have hc : c'.toList.Perm c.toList := by decide
  have hd : d'.toList.Perm d.toList := by decide
  have hmerge : c'.pair d' = pairs := by
    rw [pair_eq_merge (by decide +kernel) (by decide +kernel)]
    show Pairing.merge [⟨"Day", .date⟩, ⟨"size", .int⟩]
      [⟨"price", .double⟩, ⟨"size", .bigint⟩, ⟨"été", .bool⟩] = pairs
    simp only [Pairing.merge, Column.named_eq, String.reduceLT, String.lt_irrefl, ↓reduceIte,
      List.map_cons, List.map_nil, pairs]
  obtain ⟨hunion, hswap, hperm⟩ := pair_sortedUnion c d
  have hpair : c.pair d = pairs := (hperm c' d' hc hd).symm.trans hmerge
  exact ⟨hc, hd, (hunion pairs).2 hpair.symm, hpair, hmerge, hpair ▸ hswap⟩

end Catalog

end Schemata
