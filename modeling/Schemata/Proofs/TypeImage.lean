import Schemata.Proofs.TypeArguments

/-! # Types that are translated already

What a type is translated to is again a type, and it can be translated once more. This changes
nothing, with one exception: a small integer is taken for an integer of any other dialect, and those
are translated to large ones. -/

namespace Schemata.Ddl

/-! ## Types that types are translated to -/

/-- A text of a length that fits is translated to itself. -/
theorem translate_ofLength {n : Nat} (h : n ≤ maxNumber) :
    translate (ColumnType.ofLength n).text.toList = .ofLength n := by
  have htext : (ColumnType.ofLength n).text.toList
      = withArguments ColumnType.varcharWord (Argument.text ⟨n, 0, 0⟩) := by
    rw [text_ofLength]
    simp [lengthText, withArguments, Argument.text, ColumnType.varcharWord]
  have hword : ColumnType.varcharWord.map Char.toLower = "varchar".toList := by decide
  rw [htext, translate_length (by decide) hword, if_pos h]

/-- A type that types are translated to is translated to itself, unless it is a small integer, which
becomes a large one. -/
theorem IsTarget.translate_text {type : ColumnType} (h : IsTarget type) :
    translate type.text.toList = if type = .int then .bigint else type := by
  rcases h with hplain | ⟨n, hn, rfl⟩
  · have htargets : ∀ type ∈ targets,
        translate type.text.toList = if type = .int then .bigint else type := by
      decide +kernel
    exact htargets type hplain
  · rw [translate_ofLength hn, if_neg ColumnType.noConfusion]

/-! ## Their texts -/

/-- The texts other than those of text types that types are translated to. -/
def targetTexts : List String :=
  ["BIGINT", "INT", "BOOL", "UNKNOWN", "DOUBLE", "DATETIME", "TIME", "DATE"]

/-- Whether types are translated to a type with a given text. -/
def IsTargetText (s : String) : Prop := s ∈ targetTexts ∨ ∃ n ≤ maxNumber, s = lengthText n

/-- These are the texts of the types that types are translated to. -/
theorem isTargetText_iff (s : String) :
    IsTargetText s ↔ ∃ type, IsTarget type ∧ type.text = s := by
  have htexts : targetTexts = targets.map ColumnType.text := rfl
  constructor
  · rintro (hplain | ⟨n, hn, rfl⟩)
    · obtain ⟨type, htype, rfl⟩ := List.mem_map.1 (htexts ▸ hplain)
      exact ⟨type, .inl htype, rfl⟩
    · exact ⟨.ofLength n, .inr ⟨n, hn, rfl⟩, text_ofLength n⟩
  · rintro ⟨type, htype | ⟨n, hn, rfl⟩, rfl⟩
    · exact .inl (htexts ▸ List.mem_map_of_mem htype)
    · exact .inr ⟨n, hn, text_ofLength n⟩

/-- Every text is translated to one of these. -/
theorem isTargetText_translateText (s : String) : IsTargetText (translateText s) :=
  (isTargetText_iff _).2 ⟨translate s.toList, isTarget_translate _, rfl⟩

/-- Each of them is translated to itself, with the one exception. -/
theorem IsTargetText.translateText_eq {s : String} (h : IsTargetText s) :
    translateText s = if s = "INT" then "BIGINT" else s := by
  obtain ⟨type, htype, rfl⟩ := (isTargetText_iff s).1 h
  rw [translateText, htype.translate_text]
  by_cases hint : type = .int
  · subst hint
    rfl
  · have hne : type.text ≠ "INT" := by
      intro htext
      have hsame : type.text = ColumnType.text .int := htext
      exact hint (ColumnType.text_inj hsame)
    rw [if_neg hint, if_neg hne]

/-- **The types that types are translated to.** They are eight plain ones and the texts of a length
that fits 32 bits, each written in one way. All of them are types of the target engine. What is
translated to itself are exactly these without the small integer, and a second translation does
nothing but to make the small integer a large one. -/
theorem translateText_image :
    (∀ text, (∃ s, translateText s = text) ↔ IsTargetText text)
    ∧ ∀ s, (ColumnType.ofText? (translateText s)).isSome = true
        ∧ (translateText s = s ↔ IsTargetText s ∧ s ≠ "INT")
        ∧ translateText (translateText s)
          = if translateText s = "INT" then "BIGINT" else translateText s := by
  constructor
  · intro text
    constructor
    · rintro ⟨s, rfl⟩
      exact isTargetText_translateText s
    · intro htarget
      by_cases hint : text = "INT"
      · -- It is what the types of counters are translated to.
        subst hint
        exact ⟨"serial", by decide +kernel⟩
      · exact ⟨text, by rw [htarget.translateText_eq, if_neg hint]⟩
  · intro s
    refine ⟨?_, ?_, (isTargetText_translateText s).translateText_eq⟩
    · rw [translateText, ColumnType.ofText?_text]
      rfl
    · constructor
      · intro hfixed
        -- A text that is translated to itself is what something is translated to.
        have htarget : IsTargetText s := hfixed ▸ isTargetText_translateText s
        refine ⟨htarget, ?_⟩
        rintro rfl
        rw [htarget.translateText_eq, if_pos rfl] at hfixed
        exact absurd hfixed (by decide)
      · rintro ⟨htarget, hint⟩
        rw [htarget.translateText_eq, if_neg hint]

end Schemata.Ddl
