import Schemata.Catalog

/-! # Pairing by name

Two collections of named things are paired by name: every name of either occurs once, in the order
of code points, with the thing or the two things that carry it. -/

namespace Schemata

/-- What two collections hold under one name. -/
inductive Pairing (α : Type) where
  /-- Only the first collection has the name. -/
  | first (a : α)
  /-- Only the second collection has the name. -/
  | second (b : α)
  /-- Both collections have the name. -/
  | both (a b : α)
  deriving DecidableEq, Repr

namespace Pairing

variable {α : Type}

/-- The same pairing with the collections exchanged. -/
def swap : Pairing α → Pairing α
  | .first a => .second a
  | .second b => .first b
  | .both a b => .both b a

/-- Exchanging the collections twice changes nothing. -/
@[simp] theorem swap_swap (p : Pairing α) : p.swap.swap = p := by cases p <;> rfl

variable [Named α]

/-- Pair two lists that are sorted by name. -/
def merge : List α → List α → List (Pairing α)
  | [], bs => bs.map .second
  | as, [] => as.map .first
  | a :: as, b :: bs =>
      if Named.name a < Named.name b then .first a :: merge as (b :: bs)
      else if Named.name b < Named.name a then .second b :: merge (a :: as) bs
      else .both a b :: merge as bs
termination_by as bs => as.length + bs.length

/-- Pairing with nothing leaves the second list. -/
@[simp] theorem merge_nil_left (bs : List α) : merge [] bs = bs.map .second := by
  rw [merge]

/-- Pairing with nothing leaves the first list. -/
@[simp] theorem merge_nil_right (as : List α) : merge as [] = as.map .first := by
  cases as <;> simp [merge]

end Pairing

namespace Catalog

variable {α : Type} [Named α]

/-- The members in the order of their names. -/
def sorted (c : Catalog α) : List α :=
  c.toList.mergeSort fun a b => decide (Named.name a ≤ Named.name b)

/-- The members of two catalogs, paired by name. -/
def pair (c d : Catalog α) : List (Pairing α) := Pairing.merge c.sorted d.sorted

end Catalog

end Schemata
