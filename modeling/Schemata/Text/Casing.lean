import Schemata.Text.CaseData

/-! # Letter case

Upper and lower case of a text, with the mappings of the Unicode character database. A character may
map to several (`ß` to `SS`), and a capital sigma that ends a word maps to the final form. -/

namespace Schemata.Text

/-- The image of a character under a list of runs; a character outside all of them is its own
image. -/
def shifted (runs : List CaseRun) (c : Char) : Char :=
  match runs.find? (·.holds c.toNat) with
  | some run => Char.ofNat (Int.toNat (c.toNat + run.shift))
  | none => c

/-- The upper case form of one character. -/
def upperChar (c : Char) : List Char :=
  if c.toNat < 0x80 then [c.toUpper]
  else
    match upperSpecials.lookup c.toNat with
    | some codes => codes.map Char.ofNat
    | none => [shifted upperRuns c]

/-- The lower case form of one character that does not hang on its neighbours. -/
def lowerChar (c : Char) : List Char :=
  if c.toNat < 0x80 then [c.toLower]
  else if c = 'İ' then ['i', '\u0307']
  else [shifted lowerRuns c]

/-- What holds of the first 128 characters holds of every ASCII character. -/
theorem forall_ascii (P : Char → Prop) (h : ∀ n < 0x80, P (Char.ofNat n)) {c : Char}
    (hc : c.toNat < 0x80) : P c := by
  have hn := h c.toNat hc
  rwa [Char.ofNat_toNat] at hn

/-- An ASCII character has an ASCII upper case form. -/
theorem upperChar_ascii {c : Char} (h : c.toNat < 0x80) : upperChar c = [c.toUpper] := by
  simp [upperChar, h]

/-- An ASCII character has an ASCII lower case form. -/
theorem lowerChar_ascii {c : Char} (h : c.toNat < 0x80) : lowerChar c = [c.toLower] := by
  simp [lowerChar, h]

/-- Whether the next letter, reading on over ignorable characters, has case. -/
def reachesCased (cs : List Char) : Bool :=
  match cs.dropWhile fun c => inRanges caseIgnorableRanges c.toNat with
  | [] => false
  | c :: _ => inRanges casedRanges c.toNat

/-- The lower case form of a capital sigma: final when a letter with case stands before it in the
word (`before` is read backwards) and none after it. -/
def lowerSigma (before after : List Char) : Char :=
  if reachesCased before && !reachesCased after then 'ς' else 'σ'

/-- Lower case of a text that follows the characters `before`, the nearest first. -/
def lowerAfter (before : List Char) : List Char → List Char
  | [] => []
  | c :: rest =>
      (if c = 'Σ' then [lowerSigma before rest] else lowerChar c) ++ lowerAfter (c :: before) rest

/-- Lower case of a text. -/
def lower (cs : List Char) : List Char := lowerAfter [] cs

/-- Upper case of a text. -/
def upper (cs : List Char) : List Char := cs.flatMap upperChar

/-- Lower case of nothing is nothing. -/
@[simp] theorem lower_nil : lower [] = [] := rfl

/-- Upper case of nothing is nothing. -/
@[simp] theorem upper_nil : upper [] = [] := rfl

/-- Upper case is taken character by character. -/
@[simp] theorem upper_cons (c : Char) (cs : List Char) :
    upper (c :: cs) = upperChar c ++ upper cs := rfl

/-- Upper case distributes over concatenation. -/
@[simp] theorem upper_append (cs ds : List Char) : upper (cs ++ ds) = upper cs ++ upper ds := by
  simp [upper]

/-- On an ASCII start of a text, lower case is taken character by character, whatever stands before
it and after it. -/
theorem lowerAfter_append_ascii {cs : List Char} (h : ∀ c ∈ cs, c.toNat < 0x80)
    (before ds : List Char) :
    lowerAfter before (cs ++ ds) = cs.map Char.toLower ++ lowerAfter (cs.reverse ++ before) ds := by
  induction cs generalizing before with
  | nil => rfl
  | cons c rest ih =>
      have hc : c.toNat < 0x80 := h c (by simp)
      have hne : c ≠ 'Σ' := by rintro rfl; simp at hc
      simp [lowerAfter, hne, lowerChar_ascii hc, ih fun d hd => h d (by simp [hd])]

/-- On ASCII text, lower case is taken character by character. -/
theorem lower_ascii {cs : List Char} (h : ∀ c ∈ cs, c.toNat < 0x80) :
    lower cs = cs.map Char.toLower := by
  simpa [lower, lowerAfter] using lowerAfter_append_ascii h [] []

/-- A character with an ASCII lower case is ASCII. -/
theorem ascii_of_toLower {c : Char} (h : c.toLower.toNat < 0x80) : c.toNat < 0x80 := by
  unfold Char.toLower at h
  split at h
  · rename_i hcapital
    have hlast : c.toNat ≤ 'Z'.toNat := UInt32.le_iff_toNat_le.1 hcapital.2
    have hbound : 'Z'.toNat < 0x80 := by decide
    omega
  · exact h

/-- A text that is ASCII in lower case, character by character, has that lower case. -/
theorem lower_of_map_toLower {cs low : List Char} (h : cs.map Char.toLower = low)
    (hlow : ∀ c ∈ low, c.toNat < 0x80) : lower cs = low := by
  rw [lower_ascii, h]
  intro c hc
  apply ascii_of_toLower
  exact hlow _ (h ▸ List.mem_map_of_mem hc)

/-- A code other than that of the blank is not made into a blank. -/
theorem ofNat_ne_blank {n : Nat} (h : n ≠ 32) : Char.ofNat n ≠ ' ' := by
  intro hblank
  by_cases hvalid : n.isValidChar
  · rw [Char.ofNat, dif_pos hvalid] at hblank
    exact h (congrArg Char.toNat hblank)
  · rw [Char.ofNat, dif_neg hvalid] at hblank
    cases congrArg Char.toNat hblank

/-- Only a blank maps to a blank. -/
theorem shifted_lowerRuns_ne_blank {c : Char} (h : c ≠ ' ') : shifted lowerRuns c ≠ ' ' := by
  have hfar : ∀ run ∈ lowerRuns, 32 < (run.first : Int) + run.shift := by decide +kernel
  unfold shifted
  split
  · rename_i run hrun
    have hfirst : run.first ≤ c.toNat := by
      have hholds := List.find?_some hrun
      simp only [CaseRun.holds, Bool.and_eq_true, decide_eq_true_eq] at hholds
      exact hholds.1.1
    have hrun' := hfar run (List.mem_of_find?_eq_some hrun)
    exact ofNat_ne_blank (by omega)
  · exact h

/-- Only a blank has a blank in its lower case form. -/
theorem blank_not_mem_lowerChar {c : Char} (h : c ≠ ' ') : ' ' ∉ lowerChar c := by
  unfold lowerChar
  split
  · rename_i hascii
    have hlower := forall_ascii (fun c => c ≠ ' ' → c.toLower ≠ ' ') (by decide +kernel) hascii
    rw [List.mem_singleton]
    exact (hlower h).symm
  · split
    · decide
    · rw [List.mem_singleton]
      exact (shifted_lowerRuns_ne_blank h).symm

/-- Lower case of a text in two parts: what the first part becomes has a blank only where it has
one itself. -/
theorem exists_lowerAfter_append {xs : List Char} (h : ' ' ∉ xs) (before ys : List Char) :
    ∃ low, ' ' ∉ low
      ∧ lowerAfter before (xs ++ ys) = low ++ lowerAfter (xs.reverse ++ before) ys := by
  induction xs generalizing before with
  | nil => exact ⟨[], by simp, rfl⟩
  | cons x xs ih =>
      rw [List.mem_cons, not_or] at h
      obtain ⟨low, hlow, heq⟩ := ih h.2 (x :: before)
      have hone : ' ' ∉ (if x = 'Σ' then [lowerSigma before (xs ++ ys)] else lowerChar x) := by
        split
        · unfold lowerSigma
          split <;> decide
        · exact blank_not_mem_lowerChar (Ne.symm h.1)
      refine ⟨_, List.not_mem_append hone hlow, ?_⟩
      rw [List.cons_append, lowerAfter, heq, List.reverse_cons]
      simp only [List.append_assoc, List.singleton_append]

/-- Lower case of a string. -/
def lowercase (s : String) : String := String.ofList (lower s.toList)

/-- Upper case of a string. -/
def uppercase (s : String) : String := String.ofList (upper s.toList)

end Schemata.Text
