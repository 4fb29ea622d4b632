import Schemata.Pairing

/-! # Pairing by name, by look-up

The merge of two sorted lists visits every name of either list once, in strictly increasing order,
and shows under each name what the lists hold there. For catalogs this says that a pairing occurs
exactly when its two sides are the look-ups of its name. -/

namespace Schemata

variable {α : Type}

namespace Pairing

/-- What the first collection holds. -/
def left? : Pairing α → Option α
  | .first a | .both a _ => some a
  | .second _ => none

/-- What the second collection holds. -/
def right? : Pairing α → Option α
  | .second b | .both _ b => some b
  | .first _ => none

variable [Named α]

/-- The name that a pairing stands under: that of the first thing, if there is one. -/
def key : Pairing α → String
  | .first a | .both a _ => Named.name a
  | .second b => Named.name b

/-- A list whose names increase strictly. -/
abbrev SortedByName (as : List α) : Prop := as.Pairwise fun a b => Named.name a < Named.name b

/-- The names after the head of a sorted list differ from its name. -/
theorem SortedByName.ne_head {a : α} {as : List α} (h : SortedByName (a :: as)) :
    ∀ x ∈ as, Named.name x ≠ Named.name a := by
  intro x hx e
  have hlt : Named.name a < Named.name x := List.rel_of_pairwise_cons h hx
  exact String.lt_irrefl _ (e ▸ hlt)

/-- A name before the head of a sorted list is no name of the list. -/
theorem SortedByName.ne_of_lt_head {key : String} {a : α} {as : List α}
    (h : SortedByName (a :: as)) (hlt : key < Named.name a) :
    ∀ x ∈ a :: as, Named.name x ≠ key := by
  rintro x (_ | ⟨_, hx⟩) rfl
  · exact String.lt_irrefl _ hlt
  · exact String.lt_asymm hlt (List.rel_of_pairwise_cons h hx)

/-! ## The merge -/

/-- The merge treats its lists alike: exchanging them exchanges the sides of every pairing. -/
theorem map_swap_merge (as bs : List α) : (merge as bs).map swap = merge bs as := by
  fun_induction merge as bs with
  | case1 bs => simp [Function.comp_def, swap]
  | case2 as => simp [Function.comp_def, swap]
  | case3 a as b bs hab ih =>
      have hba : ¬ Named.name b < Named.name a := String.lt_asymm hab
      rw [List.map_cons, ih, merge, if_neg hba, if_pos hab]
      rfl
  | case4 a as b bs hab hba ih =>
      rw [List.map_cons, ih, merge, if_pos hba]
      rfl
  | case5 a as b bs hab hba ih =>
      rw [List.map_cons, ih, merge, if_neg hba, if_neg hab]
      rfl

/-- A pairing of two lists: what it shows on a side is there, and a side that it leaves empty has
nothing of that name. -/
def Pairs (as bs : List α) : Pairing α → Prop
  | .first a => a ∈ as ∧ ∀ b ∈ bs, Named.name b ≠ Named.name a
  | .second b => b ∈ bs ∧ ∀ a ∈ as, Named.name a ≠ Named.name b
  | .both a b => a ∈ as ∧ b ∈ bs ∧ Named.name a = Named.name b

/-- The merge of two sorted lists holds exactly their pairings. -/
theorem mem_merge_iff {as bs : List α} (ha : SortedByName as) (hb : SortedByName bs)
    (p : Pairing α) : p ∈ merge as bs ↔ Pairs as bs p := by
  fun_induction merge as bs with
  | case1 bs => cases p <;> simp [Pairs]
  | case2 as => cases p <;> simp [Pairs]
  | case3 a as b bs hab ih =>
      -- The first name of `as` comes before every name of `b :: bs`.
      have hne := hb.ne_of_lt_head hab
      have ha' := SortedByName.ne_head ha
      rw [List.mem_cons, ih ha.of_cons hb]
      cases p <;> grind [Pairs]
  | case4 a as b bs hab hba ih =>
      -- The first name of `bs` comes before every name of `a :: as`.
      have hne := ha.ne_of_lt_head hba
      have hb' := SortedByName.ne_head hb
      rw [List.mem_cons, ih ha hb.of_cons]
      cases p <;> grind [Pairs]
  | case5 a as b bs hab hba ih =>
      have heq : Named.name a = Named.name b :=
        String.le_antisymm (String.not_lt.1 hba) (String.not_lt.1 hab)
      -- The heads share their name, and neither tail has it again.
      have ha' := SortedByName.ne_head ha
      have hb' := SortedByName.ne_head hb
      rw [List.mem_cons, ih ha.of_cons hb.of_cons]
      cases p <;> grind [Pairs]

/-- The names of a merge are names of its lists, so what lies before all of those lies before all
of these. -/
theorem lt_key_of_mem_merge {as bs : List α} {least : String}
    (ha : ∀ a ∈ as, least < Named.name a) (hb : ∀ b ∈ bs, least < Named.name b) :
    ∀ p ∈ merge as bs, least < p.key := by
  fun_induction merge as bs with
  | case1 bs => simpa [key] using hb
  | case2 as => simpa [key] using ha
  | case3 a as b bs hab ih =>
      have ih := ih (fun x hx => ha x (List.mem_cons_of_mem _ hx)) hb
      exact List.forall_mem_cons.2 ⟨ha a List.mem_cons_self, ih⟩
  | case4 a as b bs hab hba ih =>
      have ih := ih ha fun x hx => hb x (List.mem_cons_of_mem _ hx)
      exact List.forall_mem_cons.2 ⟨hb b List.mem_cons_self, ih⟩
  | case5 a as b bs hab hba ih =>
      have ih := ih (fun x hx => ha x (List.mem_cons_of_mem _ hx))
        fun x hx => hb x (List.mem_cons_of_mem _ hx)
      exact List.forall_mem_cons.2 ⟨ha a List.mem_cons_self, ih⟩

/-- The merge of two sorted lists is sorted: its names increase strictly. -/
theorem pairwise_merge {as bs : List α} (ha : SortedByName as) (hb : SortedByName bs) :
    (merge as bs).Pairwise fun p q => p.key < q.key := by
  fun_induction merge as bs with
  | case1 bs => exact List.pairwise_map.2 hb
  | case2 as => exact List.pairwise_map.2 ha
  | case3 a as b bs hab ih =>
      -- The head that goes first comes before all that is still to be merged.
      have hbs : ∀ x ∈ b :: bs, Named.name a < Named.name x := by
        rintro x (_ | ⟨_, hx⟩)
        · exact hab
        · exact String.lt_trans hab (List.rel_of_pairwise_cons hb hx)
      have hlt := lt_key_of_mem_merge (fun x hx => List.rel_of_pairwise_cons ha hx) hbs
      exact List.pairwise_cons.2 ⟨hlt, ih ha.of_cons hb⟩
  | case4 a as b bs hab hba ih =>
      have has : ∀ x ∈ a :: as, Named.name b < Named.name x := by
        rintro x (_ | ⟨_, hx⟩)
        · exact hba
        · exact String.lt_trans hba (List.rel_of_pairwise_cons ha hx)
      have hlt := lt_key_of_mem_merge has fun x hx => List.rel_of_pairwise_cons hb hx
      exact List.pairwise_cons.2 ⟨hlt, ih ha hb.of_cons⟩
  | case5 a as b bs hab hba ih =>
      have heq : Named.name a = Named.name b :=
        String.le_antisymm (String.not_lt.1 hba) (String.not_lt.1 hab)
      have hbs : ∀ x ∈ bs, Named.name a < Named.name x := fun x hx =>
        heq ▸ List.rel_of_pairwise_cons hb hx
      have hlt := lt_key_of_mem_merge (fun x hx => List.rel_of_pairwise_cons ha hx) hbs
      exact List.pairwise_cons.2 ⟨hlt, ih ha.of_cons hb.of_cons⟩

end Pairing

namespace Catalog

variable [Named α]

/-- Sorting keeps the members. -/
theorem mem_sorted {c : Catalog α} {x : α} : x ∈ c.sorted ↔ x ∈ c.toList := List.mem_mergeSort

/-- The names of a sorted catalog increase strictly, as no two members share one. -/
theorem sortedByName_sorted (c : Catalog α) : Pairing.SortedByName c.sorted := by
  -- The order is that of the sort, and it is strict as no name is there twice.
  have hle : c.sorted.Pairwise fun a b => Named.name a ≤ Named.name b := by
    have h : c.sorted.Pairwise fun a b => decide (Named.name a ≤ Named.name b) = true := by
      apply List.pairwise_mergeSort
      · intro a b d hab hbd
        simp only [decide_eq_true_eq] at hab hbd ⊢
        exact String.le_trans hab hbd
      · intro a b
        simpa using String.le_total (Named.name a) (Named.name b)
    simpa only [decide_eq_true_eq] using h
  have hne : c.sorted.Pairwise fun a b => Named.name a ≠ Named.name b := by
    have hnodup : (c.sorted.map Named.name).Nodup :=
      ((List.mergeSort_perm c.toList _).map Named.name).nodup_iff.2 c.nodup
    exact List.pairwise_map.1 hnodup
  refine (hle.and hne).imp ?_
  rintro a b ⟨hab, hn⟩
  exact String.not_le.1 fun hba => hn (String.le_antisymm hab hba)

/-- Catalogs whose members stand in the order of their names are merged as they are. -/
theorem pair_eq_merge {c d : Catalog α} (hc : Pairing.SortedByName c.toList)
    (hd : Pairing.SortedByName d.toList) : c.pair d = Pairing.merge c.toList d.toList := by
  have hsorted : ∀ {c : Catalog α}, Pairing.SortedByName c.toList → c.sorted = c.toList := by
    intro c h
    refine List.mergeSort_of_pairwise (h.imp ?_)
    intro a b hab
    simpa using String.not_lt.1 (String.lt_asymm hab)
  rw [pair, hsorted hc, hsorted hd]

/-- Exchanging two catalogs exchanges the sides of their pairings. -/
theorem map_swap_pair (c d : Catalog α) : (c.pair d).map Pairing.swap = d.pair c :=
  Pairing.map_swap_merge _ _

/-- The pairings of two catalogs stand in the strict order of their names. -/
theorem pairwise_pair (c d : Catalog α) : (c.pair d).Pairwise fun p q => p.key < q.key :=
  Pairing.pairwise_merge c.sortedByName_sorted d.sortedByName_sorted

/-- No two pairings stand under one name. -/
theorem nodup_map_key_pair (c d : Catalog α) : ((c.pair d).map Pairing.key).Nodup := by
  refine List.pairwise_map.2 ((pairwise_pair c d).imp ?_)
  intro p q h e
  exact String.lt_irrefl _ (e ▸ h)

/-- Two catalogs are paired by look-up: a pairing occurs exactly when its sides are what the
catalogs hold under its name. -/
theorem mem_pair_iff (c d : Catalog α) (p : Pairing α) :
    p ∈ c.pair d ↔ c.get? p.key = p.left? ∧ d.get? p.key = p.right? := by
  rw [pair, Pairing.mem_merge_iff c.sortedByName_sorted d.sortedByName_sorted]
  cases p with
  | first a =>
      simp [Pairing.Pairs, Pairing.key, Pairing.left?, Pairing.right?, mem_sorted,
        get?_eq_some_iff, get?_eq_none_iff, names]
  | second b =>
      simp [Pairing.Pairs, Pairing.key, Pairing.left?, Pairing.right?, mem_sorted,
        get?_eq_some_iff, get?_eq_none_iff, names, and_comm]
  | both a b =>
      simp [Pairing.Pairs, Pairing.key, Pairing.left?, Pairing.right?, mem_sorted,
        get?_eq_some_iff, eq_comm (a := Named.name a)]

/-- What is paired is what the catalogs hold under one name, whichever it is. -/
theorem mem_pair_iff_exists (c d : Catalog α) (p : Pairing α) :
    p ∈ c.pair d ↔ ∃ key, c.get? key = p.left? ∧ d.get? key = p.right? := by
  rw [mem_pair_iff]
  constructor
  · exact fun h => ⟨p.key, h⟩
  · rintro ⟨key, hleft, hright⟩
    -- On one side at least something was found, and what is found has the name looked up.
    have hkey : p.key = key := by
      cases p with
      | first a => exact name_of_get? hleft
      | second b => exact name_of_get? hright
      | both a b => exact name_of_get? hleft
    rw [hkey]
    exact ⟨hleft, hright⟩

/-- A thing that only the first of two catalogs has is paired with nothing. -/
theorem first_mem_pair {c d : Catalog α} {key : String} {x : α} (hx : c.get? key = some x)
    (hnone : d.get? key = none) : .first x ∈ c.pair d :=
  (mem_pair_iff_exists c d _).2 ⟨key, hx, hnone⟩

/-- Paired things share their name. -/
theorem name_eq_of_both_mem {c d : Catalog α} {a b : α} (h : .both a b ∈ c.pair d) :
    Named.name b = Named.name a :=
  ((get?_eq_some_iff ..).1 ((mem_pair_iff c d _).1 h).2).2

/-- A name under which not both of two catalogs are without a thing is a name of one of them. -/
theorem mem_names_or {c d : Catalog α} {key : String}
    (h : ¬ (c.get? key = none ∧ d.get? key = none)) : key ∈ c.names ∨ key ∈ d.names := by
  rwa [get?_eq_none_iff, get?_eq_none_iff, ← not_or, Classical.not_not] at h

/-- Every name of either catalog is paired. -/
theorem exists_mem_pair {c d : Catalog α} {key : String} (h : key ∈ c.names ∨ key ∈ d.names) :
    ∃ p ∈ c.pair d, p.key = key := by
  simp only [mem_pair_iff]
  rw [← contains_iff, ← contains_iff, contains, contains] at h
  cases hc : c.get? key with
  | none =>
      cases hd : d.get? key with
      | none => simp [hc, hd] at h
      | some b =>
          obtain ⟨-, rfl⟩ := (get?_eq_some_iff d key b).1 hd
          exact ⟨.second b, ⟨hc, hd⟩, rfl⟩
  | some a =>
      obtain ⟨-, rfl⟩ := (get?_eq_some_iff c key a).1 hc
      cases hd : d.get? (Named.name a) with
      | none => exact ⟨.first a, ⟨hc, hd⟩, rfl⟩
      | some b => exact ⟨.both a b, ⟨hc, hd⟩, rfl⟩

/-- The names that are paired are those of either catalog. -/
theorem mem_map_key_pair_iff (c d : Catalog α) (key : String) :
    key ∈ (c.pair d).map Pairing.key ↔ key ∈ c.names ∨ key ∈ d.names := by
  constructor
  · intro hmem
    obtain ⟨p, hp, rfl⟩ := List.mem_map.1 hmem
    obtain ⟨hleft, hright⟩ := (mem_pair_iff c d p).1 hp
    cases p with
    | first a => exact .inl (mem_names_of_get? hleft)
    | second b => exact .inr (mem_names_of_get? hright)
    | both a b => exact .inl (mem_names_of_get? hleft)
  · intro hname
    obtain ⟨p, hp, rfl⟩ := exists_mem_pair hname
    exact List.mem_map_of_mem hp

/-- A name that is not paired is in neither catalog. -/
theorem get?_eq_none_of_unpaired {c d : Catalog α} {key : String}
    (h : key ∉ (c.pair d).map Pairing.key) : c.get? key = none ∧ d.get? key = none := by
  rwa [mem_map_key_pair_iff, not_or, ← get?_eq_none_iff, ← get?_eq_none_iff] at h

end Catalog

end Schemata
