/-! # Catalogs

A catalog keeps things under their own names: no two members share a name, and members stand in the
order in which their names came in. Inserting a thing whose name is taken replaces the member in
place; erasing keeps the order of the rest. -/

namespace Schemata

/-- Things that carry a name. -/
class Named (α : Type) where
  /-- The name of a thing. -/
  name : α → String

export Named (name)

variable {α : Type} [Named α]

/-! ## Lists of named things -/

/-- Where no name stands twice, none stands again before its thing. -/
theorem not_mem_names_of_nodup {front back : List α} {x : α}
    (h : ((front ++ x :: back).map name).Nodup) : name x ∉ front.map name := by
  rw [List.map_append, List.map_cons, List.nodup_append] at h
  exact fun hmem => h.2.2 _ hmem _ List.mem_cons_self rfl

/-- A list with `x` in the place of the member of that name, or at the end when there is none. -/
def putNamed (x : α) : List α → List α
  | [] => [x]
  | y :: rest => if name y = name x then x :: rest else y :: putNamed x rest

/-- The names after a put: unchanged when the name was there, else with the name at the end. -/
theorem names_putNamed (x : α) (members : List α) :
    (putNamed x members).map name
      = if name x ∈ members.map name then members.map name else members.map name ++ [name x] := by
  induction members with
  | nil => simp [putNamed]
  | cons y rest ih =>
      by_cases h : name y = name x
      · simp [putNamed, h]
      · have h' : name x ≠ name y := fun e => h e.symm
        simp only [putNamed, h, if_false, List.map_cons, ih, List.mem_cons, h', false_or]
        split <;> simp

/-- A put keeps names unique. -/
theorem nodup_putNamed (x : α) {members : List α} (h : (members.map name).Nodup) :
    ((putNamed x members).map name).Nodup := by
  rw [names_putNamed]
  split
  · exact h
  · rename_i hx
    rw [List.nodup_append]
    refine ⟨h, by simp, ?_⟩
    intro a ha b hb
    simp only [List.mem_singleton] at hb
    rintro rfl
    exact hx (hb ▸ ha)

/-- The members after a put: the new one, and the old ones of other names. -/
theorem mem_putNamed (x : α) {members : List α} (h : (members.map name).Nodup) (y : α) :
    y ∈ putNamed x members ↔ y = x ∨ (y ∈ members ∧ name y ≠ name x) := by
  induction members with
  | nil => simp [putNamed]
  | cons z rest ih =>
      rw [List.map_cons, List.nodup_cons] at h
      by_cases hz : name z = name x
      · have hrest : ∀ w ∈ rest, name w ≠ name x := fun w hw e =>
          h.1 (List.mem_map.2 ⟨w, hw, e.trans hz.symm⟩)
        simp only [putNamed, hz, if_true, List.mem_cons]
        constructor
        · rintro (rfl | hy)
          · exact .inl rfl
          · exact .inr ⟨.inr hy, hrest y hy⟩
        · rintro (rfl | ⟨rfl | hy, hne⟩)
          · exact .inl rfl
          · exact absurd hz hne
          · exact .inr hy
      · simp only [putNamed, hz, if_false, List.mem_cons, ih h.2]
        constructor
        · rintro (rfl | rfl | ⟨hy, hne⟩)
          · exact .inr ⟨.inl rfl, hz⟩
          · exact .inl rfl
          · exact .inr ⟨.inr hy, hne⟩
        · rintro (rfl | ⟨rfl | hy, hne⟩)
          · exact .inr (.inl rfl)
          · exact .inl rfl
          · exact .inr (.inr ⟨hy, hne⟩)

/-- A thing of a new name comes at the end. -/
theorem putNamed_of_not_mem {x : α} {members : List α} (h : name x ∉ members.map name) :
    putNamed x members = members ++ [x] := by
  induction members with
  | nil => rfl
  | cons y rest ih =>
      rw [List.map_cons, List.mem_cons, not_or] at h
      rw [putNamed, if_neg (Ne.symm h.1), ih h.2]
      rfl

/-! ## Catalogs -/

/-- Things kept under their own names, in the order in which the names came in. -/
structure Catalog (α : Type) [Named α] where
  /-- The members, in order. -/
  toList : List α
  /-- No two members share a name. -/
  nodup : (toList.map name).Nodup
  deriving DecidableEq

namespace Catalog

/-- Two catalogs with the same members in the same order are equal. -/
@[ext] theorem ext {c d : Catalog α} (h : c.toList = d.toList) : c = d := by
  cases c; cases d; cases h; rfl

/-- The catalog without members. -/
def empty : Catalog α := ⟨[], List.nodup_nil⟩

instance : Inhabited (Catalog α) := ⟨empty⟩

/-- The empty catalog has no members. -/
@[simp] theorem toList_empty : (empty : Catalog α).toList = [] := rfl

/-- The names of the members, in order. -/
def names (c : Catalog α) : List String := c.toList.map name

/-- The number of members. -/
def size (c : Catalog α) : Nat := c.toList.length

/-- The member of a given name. -/
def get? (c : Catalog α) (key : String) : Option α := c.toList.find? fun x => name x == key

/-- Whether there is a member of a given name. -/
def contains (c : Catalog α) (key : String) : Bool := (c.get? key).isSome

/-- A look-up answers with a member of the name asked for. -/
theorem get?_eq_some_iff (c : Catalog α) (key : String) (x : α) :
    c.get? key = some x ↔ x ∈ c.toList ∧ name x = key := by
  obtain ⟨members, h⟩ := c
  simp only [get?]
  induction members with
  | nil => simp
  | cons y rest ih =>
      rw [List.map_cons, List.nodup_cons] at h
      by_cases hy : name y = key
      · have hrest : ∀ w ∈ rest, name w ≠ key := fun w hw e =>
          h.1 (List.mem_map.2 ⟨w, hw, e.trans hy.symm⟩)
        simp only [List.find?_cons, hy, beq_self_eq_true, Option.some.injEq, List.mem_cons]
        constructor
        · rintro rfl; exact ⟨.inl rfl, hy⟩
        · rintro ⟨rfl | hx, hn⟩
          · rfl
          · exact absurd hn (hrest x hx)
      · have hb : (name y == key) = false := by simpa using hy
        simp only [List.find?_cons, hb, List.mem_cons, ih h.2]
        constructor
        · rintro ⟨hx, hn⟩; exact ⟨.inr hx, hn⟩
        · rintro ⟨rfl | hx, hn⟩
          · exact absurd hn hy
          · exact ⟨hx, hn⟩

/-- What is found is a member. -/
theorem mem_of_get? {c : Catalog α} {key : String} {x : α} (h : c.get? key = some x) :
    x ∈ c.toList :=
  ((get?_eq_some_iff c key x).1 h).1

/-- What is found has the name asked for. -/
theorem name_of_get? {c : Catalog α} {key : String} {x : α} (h : c.get? key = some x) :
    name x = key :=
  ((get?_eq_some_iff c key x).1 h).2

/-- A member is found under its name. -/
theorem get?_of_mem {c : Catalog α} {x : α} (h : x ∈ c.toList) : c.get? (name x) = some x :=
  (get?_eq_some_iff c (name x) x).2 ⟨h, rfl⟩

/-- A look-up fails exactly when no member has the name. -/
theorem get?_eq_none_iff (c : Catalog α) (key : String) : c.get? key = none ↔ key ∉ c.names := by
  simp [get?, names]

/-- A name is found exactly when it is the name of a member. -/
theorem contains_iff (c : Catalog α) (key : String) : c.contains key = true ↔ key ∈ c.names := by
  rw [contains, Option.isSome_iff_ne_none, ne_eq, get?_eq_none_iff, Decidable.not_not]

/-- What is found has a name that is there. -/
theorem mem_names_of_get? {c : Catalog α} {key : String} {x : α} (h : c.get? key = some x) :
    key ∈ c.names := by
  rw [← contains_iff, contains, h]
  rfl

/-- The catalog with `x` in the place of the member of that name, or at the end. -/
def insert (c : Catalog α) (x : α) : Catalog α := ⟨putNamed x c.toList, nodup_putNamed x c.nodup⟩

/-- The members after an insertion. -/
@[simp] theorem toList_insert (c : Catalog α) (x : α) :
    (c.insert x).toList = putNamed x c.toList := rfl

/-- The names after an insertion. -/
theorem names_insert (c : Catalog α) (x : α) :
    (c.insert x).names = if name x ∈ c.names then c.names else c.names ++ [name x] :=
  names_putNamed x c.toList

/-- A look-up after an insertion. -/
theorem get?_insert (c : Catalog α) (x : α) (key : String) :
    (c.insert x).get? key = if name x = key then some x else c.get? key := by
  ext y
  rw [get?_eq_some_iff, toList_insert, mem_putNamed x c.nodup]
  by_cases h : name x = key
  · subst h
    simp only [if_true, Option.some.injEq]
    constructor
    · rintro ⟨rfl | ⟨_, hne⟩, hn⟩
      · rfl
      · exact absurd hn hne
    · rintro rfl; exact ⟨.inl rfl, rfl⟩
  · simp only [h, if_false, get?_eq_some_iff]
    constructor
    · rintro ⟨rfl | ⟨hy, _⟩, hn⟩
      · exact absurd hn h
      · exact ⟨hy, hn⟩
    · rintro ⟨hy, hn⟩; exact ⟨.inr ⟨hy, fun e => h (e.symm.trans hn)⟩, hn⟩

/-- Inserting a member that is there changes nothing. -/
theorem insert_of_get? {c : Catalog α} {x : α} (h : c.get? (name x) = some x) : c.insert x = c := by
  obtain ⟨members, hnodup⟩ := c
  refine ext (?_ : putNamed x members = members)
  simp only [get?] at h
  clear hnodup
  induction members with
  | nil => cases h
  | cons y rest ih =>
      by_cases hy : name y = name x
      · simp only [List.find?_cons, hy, beq_self_eq_true, Option.some.injEq] at h
        simp [putNamed, h]
      · have hb : (name y == name x) = false := by simpa using hy
        simp only [List.find?_cons, hb] at h
        rw [putNamed, if_neg hy, ih h]

/-- Of two things of one name that are inserted after each other, the second counts. -/
theorem insert_insert (c : Catalog α) {x y : α} (h : name y = name x) :
    (c.insert x).insert y = c.insert y := by
  refine ext (?_ : putNamed y (putNamed x c.toList) = putNamed y c.toList)
  induction c.toList with
  | nil => simp [putNamed, h]
  | cons z rest ih =>
      by_cases hz : name z = name x
      · simp [putNamed, hz, h]
      · simp [putNamed, hz, h, ih]

/-- The catalog with every member of a list inserted in turn. -/
def insertAll (c : Catalog α) (xs : List α) : Catalog α := xs.foldl insert c

/-- Things of different new names stand behind the others in the order of their insertion. -/
theorem toList_insertAll (c : Catalog α) {xs : List α} (h : ((c.toList ++ xs).map name).Nodup) :
    (c.insertAll xs).toList = c.toList ++ xs := by
  induction xs generalizing c with
  | nil => simp [insertAll]
  | cons x xs ih =>
      have hnew : name x ∉ c.toList.map name := not_mem_names_of_nodup h
      have hput : (c.insert x).toList = c.toList ++ [x] := putNamed_of_not_mem hnew
      have hrest := ih (c.insert x) (by rw [hput]; simpa using h)
      rw [insertAll, List.foldl_cons]
      rw [insertAll] at hrest
      rw [hrest, hput, List.append_assoc, List.singleton_append]

/-- What is made of the members of a catalog under their names has no name twice. -/
theorem nodup_map {β : Type} [Named β] (c : Catalog α) {f : α → β}
    (h : ∀ x, name (f x) = name x) : ((c.toList.map f).map name).Nodup := by
  have hnames : (c.toList.map f).map name = c.toList.map name := by
    rw [List.map_map]
    exact List.map_congr_left fun x _ => h x
  rw [hnames]
  exact c.nodup

/-- What is made of the members of a catalog under their names stands in their order when it is
inserted. -/
theorem toList_insertAll_map {β : Type} [Named β] (c : Catalog α) {f : α → β}
    (h : ∀ x, name (f x) = name x) : (empty.insertAll (c.toList.map f)).toList = c.toList.map f :=
  toList_insertAll empty (c.nodup_map h)

/-- The catalog of the members of a list; of members that share a name the last one counts, in the
place of the first. -/
def ofList (xs : List α) : Catalog α := empty.insertAll xs

/-- The catalog without the member of a given name. -/
def erase (c : Catalog α) (key : String) : Catalog α :=
  ⟨c.toList.filter fun x => name x != key,
    c.nodup.sublist (List.filter_sublist.map name)⟩

/-- The members after an erasure. -/
@[simp] theorem toList_erase (c : Catalog α) (key : String) :
    (c.erase key).toList = c.toList.filter fun x => name x != key := rfl

/-- The names after an erasure. -/
theorem names_erase (c : Catalog α) (key : String) :
    (c.erase key).names = c.names.filter (· != key) := by
  simp only [names, toList_erase, List.filter_map]
  rfl

/-- A look-up after an erasure. -/
theorem get?_erase (c : Catalog α) (key other : String) :
    (c.erase key).get? other = if key = other then none else c.get? other := by
  ext y
  rw [get?_eq_some_iff, toList_erase, List.mem_filter]
  by_cases h : key = other
  · subst h
    simp
  · simp only [h, if_false, get?_eq_some_iff, bne_iff_ne, ne_eq]
    constructor
    · rintro ⟨⟨hy, _⟩, hn⟩; exact ⟨hy, hn⟩
    · rintro ⟨hy, hn⟩; exact ⟨⟨hy, fun e => h (e.symm.trans hn)⟩, hn⟩

/-- Whether two catalogs hold equal members under the same names, in whatever order. -/
def sameBy (same : α → α → Bool) (c d : Catalog α) : Bool :=
  c.size == d.size && c.toList.all fun x => (d.get? (name x)).any (same x)

end Catalog

end Schemata
