/-! # Schema tallies

A tally counts the tables of each schema. Schemas stand in the order in which their first table
came, and a schema whose last table goes leaves the tally. -/

namespace Schemata

/-- The schemas in use, each with the number of its tables. -/
structure SchemaTally where
  /-- The schemas with their counts, in order. -/
  entries : List (String × Nat)
  deriving DecidableEq, Repr, Inhabited

namespace SchemaTally

/-- The tally without schemas. -/
def empty : SchemaTally := ⟨[]⟩

/-- The schemas in use, in order. -/
def names (t : SchemaTally) : List String := t.entries.map (·.1)

/-- The number of tables counted for a schema. -/
def count (t : SchemaTally) (schema : String) : Nat := (t.entries.lookup schema).getD 0

/-- One more table in the entries of a tally. -/
def addTo (schema : String) : List (String × Nat) → List (String × Nat)
  | [] => [(schema, 1)]
  | (s, n) :: rest => if s = schema then (s, n + 1) :: rest else (s, n) :: addTo schema rest

/-- One table less in the entries of a tally. -/
def takeFrom (schema : String) : List (String × Nat) → List (String × Nat)
  | [] => []
  | (s, n) :: rest =>
      if s = schema then if n ≤ 1 then rest else (s, n - 1) :: rest
      else (s, n) :: takeFrom schema rest

/-- Count one more table of a schema. -/
def add (t : SchemaTally) (schema : String) : SchemaTally := ⟨addTo schema t.entries⟩

/-- Count one table less of a schema. -/
def release (t : SchemaTally) (schema : String) : SchemaTally := ⟨takeFrom schema t.entries⟩

/-- Adding a table counts it, and no other. -/
theorem count_add (t : SchemaTally) (schema other : String) :
    (t.add schema).count other = t.count other + if other = schema then 1 else 0 := by
  obtain ⟨entries⟩ := t
  simp only [count, add]
  induction entries with
  | nil =>
      by_cases h : other = schema
      · simp [addTo, h]
      · have hb : (other == schema) = false := by simpa using h
        simp [addTo, h, List.lookup_cons, hb]
  | cons entry rest ih =>
      obtain ⟨s, n⟩ := entry
      by_cases hs : s = schema
      · subst hs
        by_cases h : other = s
        · simp [addTo, h]
        · have hb : (other == s) = false := by simpa using h
          simp [addTo, h, List.lookup_cons, hb]
      · by_cases h : other = s
        · subst h
          simp [addTo, hs]
        · have hb : (other == s) = false := by simpa using h
          simp [addTo, hs, List.lookup_cons, hb, ih]

/-- Whether two tallies count the same, in whatever order. -/
def same (a b : SchemaTally) : Bool :=
  a.entries.length == b.entries.length
    && a.entries.all fun entry => b.entries.lookup entry.1 == some entry.2

end SchemaTally

end Schemata
