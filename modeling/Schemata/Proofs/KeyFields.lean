import Schemata.Ddl.Reader
import Schemata.Proofs.Quiet

/-! # Fields that count as keys

A field counts as the declaration of a key when the word `key`, in any letter case, has a blank
behind it. The word need not stand alone: what a blank ends may just as well be a longer word that
ends in it. So a field counts as a key exactly when what stands before one of its blanks ends in
`key`. Blanks, quotes and brackets have no case and end the search of a letter with case, so that a
text is taken to lower case between them. -/

namespace Schemata

/-! ## Lower case between separators -/

namespace Text

/-- Whether a character separates what stands on its two sides: it has no case, is not passed over
when a letter with case is searched for, and is its own lower case form. -/
def Separates (c : Char) : Prop :=
  inRanges caseIgnorableRanges c.toNat = false ∧ inRanges casedRanges c.toNat = false
    ∧ c ≠ 'Σ' ∧ lowerChar c = [c]

instance (c : Char) : Decidable (Separates c) := inferInstanceAs (Decidable (_ ∧ _ ∧ _ ∧ _))

/-- A blank separates. -/
theorem separates_blank : Separates ' ' := by decide +kernel

/-- Quotes and brackets separate. -/
theorem separates_of_mem {c : Char} (h : c ∈ ['"', '[', ']']) : Separates c := by
  have hall : ∀ c ∈ ['"', '[', ']'], Separates c := by decide +kernel
  exact hall c h

namespace Separates

variable {c : Char}

/-- Nothing behind a separator is reached. -/
theorem reachesCased_append (h : Separates c) (xs ys : List Char) :
    reachesCased (xs ++ c :: ys) = reachesCased xs := by
  induction xs with
  | nil =>
      rw [List.nil_append, reachesCased, List.dropWhile_cons_of_neg (by rw [h.1]; decide)]
      exact h.2.1
  | cons x xs ih =>
      by_cases hx : inRanges caseIgnorableRanges x.toNat
      · simpa [reachesCased, hx] using ih
      · simp [reachesCased, hx]

/-- Lower case does not depend on what stands before a separator. -/
theorem lowerAfter_append (h : Separates c) (before before' cs : List Char) :
    lowerAfter (before ++ c :: before') cs = lowerAfter before cs := by
  induction cs generalizing before with
  | nil => rfl
  | cons d cs ih =>
      rw [lowerAfter, lowerAfter, lowerSigma, lowerSigma, h.reachesCased_append,
        ← List.cons_append, ih]

/-- Lower case is taken on the two sides of a separator. -/
theorem lower_append (h : Separates c) (xs ys : List Char) :
    lower (xs ++ c :: ys) = lower xs ++ c :: lower ys := by
  have hparts : ∀ before, lowerAfter before (xs ++ c :: ys)
      = lowerAfter before xs ++ c :: lower ys := by
    induction xs with
    | nil =>
        intro before
        have hafter := h.lowerAfter_append [] before ys
        rw [List.nil_append] at hafter
        rw [List.nil_append, lowerAfter, lowerAfter, if_neg h.2.2.1, h.2.2.2, hafter, lower]
        rfl
    | cons x xs ih =>
        intro before
        have hsigma : lowerSigma before (xs ++ c :: ys) = lowerSigma before xs := by
          rw [lowerSigma, lowerSigma, h.reachesCased_append]
        rw [List.cons_append, lowerAfter, lowerAfter, ih, hsigma, List.append_assoc]
  exact hparts []

end Separates

/-- A text without blanks has none in lower case. -/
theorem blank_not_mem_lower {cs : List Char} (h : ' ' ∉ cs) : ' ' ∉ lower cs := by
  obtain ⟨low, hlow, heq⟩ := exists_lowerAfter_append h [] []
  rw [List.append_nil] at heq
  rwa [lower, heq, lowerAfter, List.append_nil]

/-- A word occurs in a text exactly when the text has it as a part. -/
theorem occurs_iff (word cs : List Char) : occurs word cs = true ↔ word <:+: cs := by
  constructor
  · intro h
    obtain ⟨⟨before, after⟩, hcut⟩ := Option.isSome_iff_exists.1 h
    exact ⟨before, after, (cut?_eq_some hcut).symm⟩
  · rintro ⟨before, after, rfl⟩
    rw [List.append_assoc]
    exact occurs_append word before after

end Text

/-- What holds of texts without a place to cut at, and of a text with such a place if it holds of
what follows the first one, holds of every text. -/
@[elab_as_elim] theorem Text.cutInduction {motive : List Char → Prop} (p : Char → Bool)
    (whole : ∀ cs, (∀ c ∈ cs, p c = false) → motive cs)
    (cut : ∀ xs c ys, p c = true → (∀ d ∈ xs, p d = false) → motive ys → motive (xs ++ c :: ys))
    (cs : List Char) : motive cs := by
  induction hn : cs.length using Nat.strongRecOn generalizing cs with
  | ind n ih =>
      cases hcut : cutAt? p cs with
      | none => exact whole cs (cutAt?_eq_none_iff.1 hcut)
      | some parts =>
          obtain ⟨c, hc, heq, hbefore⟩ := cutAt?_eq_some hcut
          have hlength : parts.2.length < n := by
            rw [← hn, heq, List.length_append, List.length_cons]
            omega
          rw [heq]
          exact cut parts.1 c parts.2 hc hbefore (ih _ hlength parts.2 rfl)

/-! ## Words beside a character -/

/-- A text without a character ends another behind such a character, if at all. -/
theorem suffix_append_cons_iff {word : List Char} {c : Char} (h : c ∉ word) (xs ys : List Char) :
    word <:+ xs ++ c :: ys ↔ word <:+ ys := by
  have hback : ys <:+ xs ++ c :: ys := (List.suffix_cons c ys).trans (List.suffix_append _ _)
  refine ⟨fun hword => ?_, fun hword => hword.trans hback⟩
  rcases List.suffix_or_suffix_of_suffix hword (List.suffix_append xs (c :: ys)) with hw | hw
  · rcases List.suffix_cons_iff.1 hw with rfl | hys
    · exact absurd List.mem_cons_self h
    · exact hys
  · exact absurd (hw.subset List.mem_cons_self) h

/-- A word with a character behind it is on one side of such a character, or ends right before
it. -/
theorem infix_append_cons_iff {word : List Char} {c : Char} (h : c ∉ word) (xs ys : List Char) :
    word ++ [c] <:+: xs ++ c :: ys
      ↔ word ++ [c] <:+: xs ∨ word <:+ xs ∨ word ++ [c] <:+: ys := by
  constructor
  · rintro ⟨front, back, heq⟩
    have hends : (front ++ word) ++ c :: back = xs ++ c :: ys := by simpa using heq
    rcases Ddl.append_cons_eq_append hends with ⟨more, rfl⟩ | ⟨more, hfront, hback⟩
    · exact .inl ⟨front, more, by simp⟩
    · cases more with
      | nil =>
          rw [List.append_nil] at hfront
          exact .inr (.inl ⟨front, hfront⟩)
      | cons d more =>
          -- The character between the sides is not in the word, so it stands before it.
          obtain ⟨rfl, rfl⟩ := List.cons.inj hback
          rcases Ddl.append_cons_eq_append hfront.symm with ⟨rest, rfl⟩ | ⟨rest, -, rfl⟩
          · have hrest : rest ++ word = more := by simpa using hfront
            exact .inr (.inr ⟨rest, back, by simp [← hrest]⟩)
          · exact absurd (by simp) h
  · rintro (⟨front, back, rfl⟩ | ⟨front, rfl⟩ | ⟨front, back, rfl⟩)
    · exact ⟨front, back ++ c :: ys, by simp⟩
    · exact ⟨front, ys, by simp⟩
    · exact ⟨xs ++ c :: front, back, by simp⟩

namespace Ddl

/-! ## The word of a key -/

/-- Whether a text ends in the word `key`, in any letter case. -/
def EndsInKey (cs : List Char) : Prop := ['k', 'e', 'y'] <:+ Text.lower cs

instance (cs : List Char) : Decidable (EndsInKey cs) :=
  inferInstanceAs (Decidable (['k', 'e', 'y'] <:+ Text.lower cs))

/-- Behind a separator, what stands before it does not matter. -/
theorem endsInKey_append {c : Char} (h : Text.Separates c) (hc : c ∉ ['k', 'e', 'y'])
    (xs ys : List Char) : EndsInKey (xs ++ c :: ys) ↔ EndsInKey ys := by
  rw [EndsInKey, EndsInKey, h.lower_append, suffix_append_cons_iff hc]

/-- A text with a blank in it counts as a key exactly when a part on one side of the blank does, or
when what stands before the blank ends in the word. -/
theorem isKeyField_append_blank (xs ys : List Char) :
    isKeyField (xs ++ ' ' :: ys) = true
      ↔ isKeyField xs = true ∨ EndsInKey xs ∨ isKeyField ys = true := by
  have hblank : ' ' ∉ ['k', 'e', 'y'] := by decide
  have hword : ['k', 'e', 'y', ' '] = ['k', 'e', 'y'] ++ [' '] := rfl
  simp only [isKeyField, Text.occurs_iff, Text.separates_blank.lower_append, hword]
  exact infix_append_cons_iff hblank _ _

/-- A text without blanks does not count as a key. -/
theorem isKeyField_of_not_mem {cs : List Char} (h : ' ' ∉ cs) : isKeyField cs = false := by
  rw [← Bool.not_eq_true, isKeyField, Text.occurs_iff]
  intro hpart
  exact Text.blank_not_mem_lower h (hpart.subset (by simp))

/-- A text counts as a key exactly when what stands before one of its blanks ends in the word. -/
theorem isKeyField_iff (cs : List Char) :
    isKeyField cs = true ↔ ∃ xs ys, cs = xs ++ ' ' :: ys ∧ EndsInKey xs := by
  have hblank : ' ' ∉ ['k', 'e', 'y'] := by decide
  constructor
  · intro h
    -- The word is right before the first blank, or before a later one.
    induction cs using Text.cutInduction (· == ' ') with
    | whole cs hcs =>
        rw [isKeyField_of_not_mem (Text.forall_beq_iff.1 hcs)] at h
        cases h
    | cut xs c ys hc hxs ih =>
        obtain rfl : c = ' ' := beq_iff_eq.1 hc
        rcases (isKeyField_append_blank xs ys).1 h with hkey | hkey | hkey
        · rw [isKeyField_of_not_mem (Text.forall_beq_iff.1 hxs)] at hkey
          cases hkey
        · exact ⟨xs, ys, rfl, hkey⟩
        · obtain ⟨us, vs, rfl, hus⟩ := ih hkey
          exact ⟨xs ++ ' ' :: us, vs, by simp,
            (endsInKey_append Text.separates_blank hblank xs us).2 hus⟩
  · rintro ⟨xs, ys, rfl, h⟩
    exact (isKeyField_append_blank xs ys).2 (.inr (.inl h))

/-- A text counts as a key if a start of it does. -/
theorem isKeyField_append {xs : List Char} (h : isKeyField xs = true) (ys : List Char) :
    isKeyField (xs ++ ys) = true := by
  obtain ⟨us, vs, rfl, hus⟩ := (isKeyField_iff xs).1 h
  exact (isKeyField_iff _).2 ⟨us, vs ++ ys, by simp, hus⟩

/-! ## Brackets -/

/-- Whether a text ends in the word does not depend on its brackets. -/
theorem endsInKey_quoteBrackets (cs : List Char) : EndsInKey (quoteBrackets cs) ↔ EndsInKey cs := by
  have hkey : ∀ c ∈ ['"', '[', ']'], c ∉ ['k', 'e', 'y'] := by decide
  -- Only what follows the last bracket counts, in one text as in the other.
  induction cs using Text.cutInduction (['[', ']'].contains ·) with
  | whole cs hcs => rw [quoteBrackets_of_forall fun c hc => by simpa using hcs c hc]
  | cut xs c ys hc hxs ih =>
      have hmem : c ∈ ['"', '[', ']'] := List.mem_cons_of_mem _ (List.contains_iff_mem.1 hc)
      have hquote : quoteBrackets (c :: ys) = '"' :: quoteBrackets ys := by
        rw [quoteBrackets, List.map_cons, if_pos (by simpa using hc)]
        rfl
      rw [quoteBrackets_append, hquote,
        endsInKey_append (Text.separates_of_mem List.mem_cons_self) (hkey _ List.mem_cons_self),
        endsInKey_append (Text.separates_of_mem hmem) (hkey c hmem)]
      exact ih

/-- Whether a text counts as a key does not depend on its brackets. -/
theorem isKeyField_quoteBrackets (cs : List Char) :
    isKeyField (quoteBrackets cs) = isKeyField cs := by
  have hquote : ∀ cs, ' ' ∉ cs → ' ' ∉ quoteBrackets cs := fun _ =>
    not_mem_quoteBrackets (by decide)
  induction cs using Text.cutInduction (· == ' ') with
  | whole cs hcs =>
      have hblank : ' ' ∉ cs := Text.forall_beq_iff.1 hcs
      rw [isKeyField_of_not_mem hblank, isKeyField_of_not_mem (hquote cs hblank)]
  | cut xs c ys hc hxs ih =>
      obtain rfl : c = ' ' := beq_iff_eq.1 hc
      have hblank : ' ' ∉ xs := Text.forall_beq_iff.1 hxs
      rw [Bool.eq_iff_iff, quoteBrackets_append, quoteBrackets_cons (by decide) (by decide),
        isKeyField_append_blank, isKeyField_append_blank, isKeyField_of_not_mem hblank,
        isKeyField_of_not_mem (hquote xs hblank), endsInKey_quoteBrackets, ih]

end Ddl

end Schemata
