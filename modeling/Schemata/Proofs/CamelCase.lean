import Schemata.Proofs.CasedNames

/-! # Words in camel case

The words of a name are its parts between the underscores. Camel case runs them together, each with
a capital, and drops the underscores, as long as no two of them stand side by side but at the ends
of the name. Of two that do, the second is put in upper case in the place of a letter, and stays. So
the underscores of such a name are not all dropped, and the words behind them may have no capital;
to do the same again changes the name again, for at least half of the underscores go each time. -/

namespace Schemata.Naming

/-! ## Words -/

/-- The words of a name: its longest parts without underscores. -/
def words (cs : List Char) : List (List Char) :=
  (Text.splitOn (· == '_') cs).filter fun word => !word.isEmpty

/-- A word with its first character in upper case. -/
def capitalized : List Char → List Char
  | [] => []
  | c :: cs => Text.upperChar c ++ cs

/-- The words of a name run together, each with a capital. -/
def joined (cs : List Char) : List Char := (words cs).flatMap capitalized

/-- Whether two underscores stand side by side in a name, but at its ends. -/
def HasDoubled (cs : List Char) : Prop := ['_', '_'] <:+: trimUnderscores cs

instance (cs : List Char) : Decidable (HasDoubled cs) :=
  inferInstanceAs (Decidable (_ <:+: _))

/-- Words end at an underscore. -/
theorem words_append (xs ys : List Char) : words (xs ++ '_' :: ys) = words xs ++ words ys := by
  rw [words, Text.splitOn_append (by rfl), List.filter_append]
  rfl

/-- The words on both sides of an underscore are run together. -/
theorem joined_append (xs ys : List Char) : joined (xs ++ '_' :: ys) = joined xs ++ joined ys := by
  rw [joined, words_append, List.flatMap_append]
  rfl

/-- A name without underscores is one word, if it is not empty. -/
theorem joined_of_not_mem {cs : List Char} (h : '_' ∉ cs) : joined cs = capitalized cs := by
  rw [joined, words, Text.splitOn_of_forall (Text.forall_beq_iff.2 h)]
  cases cs with
  | nil => rfl
  | cons c cs => simp

/-- There are no words in underscores. -/
theorem joined_eq_nil {cs : List Char} (h : ∀ c ∈ cs, c = '_') : joined cs = [] := by
  induction cs with
  | nil => rfl
  | cons c cs ih =>
      obtain ⟨rfl, hcs⟩ := List.forall_mem_cons.1 h
      exact (joined_append [] cs).trans (ih hcs)

/-- Underscores at the start of a name are in none of its words. -/
theorem joined_front {front : List Char} (h : ∀ c ∈ front, c = '_') (cs : List Char) :
    joined (front ++ cs) = joined cs := by
  induction front with
  | nil => rfl
  | cons c front ih =>
      obtain ⟨rfl, hfront⟩ := List.forall_mem_cons.1 h
      exact (joined_append [] (front ++ cs)).trans (ih hfront)

/-- Underscores at the end of a name are in none of its words. -/
theorem joined_back (cs : List Char) {back : List Char} (h : ∀ c ∈ back, c = '_') :
    joined (cs ++ back) = joined cs := by
  cases back with
  | nil => rw [List.append_nil]
  | cons c back =>
      obtain ⟨rfl, hback⟩ := List.forall_mem_cons.1 h
      rw [joined_append, joined_eq_nil hback, List.append_nil]

/-- Trimming leaves the words of a name. -/
theorem joined_trimUnderscores (cs : List Char) : joined (trimUnderscores cs) = joined cs := by
  obtain ⟨front, back, hsplit, hfront, hback, -⟩ := exists_trimUnderscores cs
  conv => rhs; rw [hsplit]
  rw [joined_back _ hback, joined_front hfront]

/-- No capital is an underscore, but that of an underscore. -/
theorem underscore_mem_upperChar {c : Char} : '_' ∈ Text.upperChar c ↔ c = '_' := by
  constructor
  · exact fun h => (Text.inForm_upperChar h).underscore.1 rfl
  · rintro rfl
    simp [upperChar_underscore]

/-- There are no underscores in words that are run together. -/
theorem underscore_not_mem_joined (cs : List Char) : '_' ∉ joined cs := by
  intro h
  obtain ⟨word, hword, hmem⟩ := List.mem_flatMap.1 h
  have hplain : '_' ∉ word :=
    Text.forall_beq_iff.1 (Text.forall_mem_of_mem_splitOn (List.mem_filter.1 hword).1)
  cases word with
  | nil => cases hmem
  | cons c word =>
      rw [List.mem_cons, not_or] at hplain
      rcases List.mem_append.1 hmem with hmem | hmem
      · exact hplain.1 (underscore_mem_upperChar.1 hmem).symm
      · exact hplain.2 hmem

/-! ## What becomes of a name -/

/-- Of two underscores that are neighbours one is left, and no other one is. -/
theorem underscore_mem_camelRest (cs : List Char) :
    '_' ∈ camelRest cs ↔ ['_', '_'] <:+: cs := by
  have hsingle : ∀ c, ¬ ['_', '_'] <:+: [c] := fun c h => by simpa using h.length_le
  fun_induction camelRest cs with
  | case1 => simp
  | case2 => simp [hsingle]
  | case3 c hc => simp [hsingle, Ne.symm hc]
  | case4 d rest ih =>
      simp only [List.mem_append, underscore_mem_upperChar, ih]
      by_cases hd : d = '_'
      · simp [hd, Text.pair_isInfix_cons_iff]
      · simp [hd, Ne.symm hd, Text.pair_isInfix_cons_iff]
  | case5 c d rest hc ih =>
      simp only [List.mem_cons, ih, Text.pair_isInfix_cons_iff _ _ c]
      simp [Ne.symm hc]

/-- A name keeps an underscore in camel case exactly when it has two side by side. -/
theorem underscore_mem_camelChars (cs : List Char) : '_' ∈ camelChars cs ↔ HasDoubled cs := by
  obtain ⟨-, -, -, -, -, hhead⟩ := exists_trimUnderscores cs
  rw [HasDoubled, camelChars]
  cases htrim : trimUnderscores cs with
  | nil => simp
  | cons c rest =>
      have hc : c ≠ '_' := hhead c (by simp [htrim])
      rw [List.mem_append, underscore_mem_upperChar, underscore_mem_camelRest,
        Text.pair_isInfix_cons_iff]
      simp [hc, Ne.symm hc]

/-- A word that is not empty has its capital before more of it is known. -/
theorem capitalized_append {word : List Char} (hne : word ≠ []) (cs : List Char) :
    capitalized (word ++ cs) = capitalized word ++ cs := by
  cases word with
  | nil => exact absurd rfl hne
  | cons c word => simp [capitalized]

/-- Behind a part of a word, camel case runs together what is left of the word and the words that
follow, as long as no two underscores are neighbours. -/
theorem capitalized_append_camelRest {word cs : List Char} (hne : word ≠ []) (hword : '_' ∉ word)
    (h : ¬ ['_', '_'] <:+: cs) : capitalized word ++ camelRest cs = joined (word ++ cs) := by
  fun_induction camelRest cs generalizing word with
  | case1 => rw [List.append_nil, List.append_nil, joined_of_not_mem hword]
  | case2 =>
      rw [joined_append, joined_of_not_mem hword]
      rfl
  | case3 c hc =>
      have hlonger : '_' ∉ word ++ [c] := by simp [hword, Ne.symm hc]
      rw [joined_of_not_mem hlonger, capitalized_append hne]
  | case4 d rest ih =>
      -- The underscore ends the word, and the character behind it starts the next one.
      rw [Text.pair_isInfix_cons_iff, Text.pair_isInfix_cons_iff, not_or, not_or] at h
      have hd : d ≠ '_' := by simpa using h.1
      have hnext : capitalized [d] ++ camelRest rest = joined (d :: rest) :=
        ih (List.cons_ne_nil _ _) (by simp [Ne.symm hd]) h.2.2
      rw [joined_append, joined_of_not_mem hword, ← hnext, capitalized, List.append_nil]
  | case5 c d rest hc ih =>
      -- The character goes on with the word.
      rw [Text.pair_isInfix_cons_iff, not_or] at h
      have hlonger : capitalized (word ++ [c]) ++ camelRest (d :: rest)
          = joined (word ++ [c] ++ d :: rest) :=
        ih (by simp) (by simp [hword, Ne.symm hc]) h.2
      rw [capitalized_append hne] at hlonger
      simpa using hlonger

/-- Camel case runs the words of a name together, as long as no two underscores are neighbours. -/
theorem camelChars_eq_joined {cs : List Char} (h : ¬ HasDoubled cs) :
    camelChars cs = joined cs := by
  obtain ⟨-, -, -, -, -, hhead⟩ := exists_trimUnderscores cs
  rw [← joined_trimUnderscores, camelChars]
  rw [HasDoubled] at h
  cases htrim : trimUnderscores cs with
  | nil => rfl
  | cons c rest =>
      have hc : c ≠ '_' := hhead c (by simp [htrim])
      rw [htrim, Text.pair_isInfix_cons_iff, not_or] at h
      have hfirst : capitalized [c] ++ camelRest rest = joined (c :: rest) :=
        capitalized_append_camelRest (List.cons_ne_nil _ _) (by simp [Ne.symm hc]) h.2
      rw [← hfirst, capitalized, List.append_nil]

/-! ## Camel case again -/

/-- Of the underscores in the rest of a name, camel case leaves half at most. -/
theorem two_mul_count_camelRest (cs : List Char) :
    2 * (camelRest cs).count '_' ≤ cs.count '_' := by
  fun_induction camelRest cs with
  | case1 => simp
  | case2 => simp
  | case3 c hc => simp [hc]
  | case4 d rest ih =>
      by_cases hd : d = '_'
      · -- Of two underscores the first is the one that goes.
        simp [hd, upperChar_underscore]
        omega
      · have hnone : (Text.upperChar d).count '_' = 0 :=
          List.count_eq_zero.2 (mt underscore_mem_upperChar.1 hd)
        simp [hd, hnone]
        omega
  | case5 c d rest hc ih => simpa [hc] using ih

/-- Of the underscores of a name, camel case leaves half at most. -/
theorem two_mul_count_camelChars (cs : List Char) :
    2 * (camelChars cs).count '_' ≤ cs.count '_' := by
  obtain ⟨front, back, hsplit, -, -, hhead⟩ := exists_trimUnderscores cs
  have hfewer : (trimUnderscores cs).count '_' ≤ cs.count '_' := by
    conv => rhs; rw [hsplit]
    simp only [List.count_append]
    omega
  refine Nat.le_trans ?_ hfewer
  rw [camelChars]
  cases htrim : trimUnderscores cs with
  | nil => simp
  | cons c rest =>
      have hc : c ≠ '_' := hhead c (by simp [htrim])
      have hnone : (Text.upperChar c).count '_' = 0 :=
        List.count_eq_zero.2 (mt underscore_mem_upperChar.1 hc)
      simpa [hc, hnone] using two_mul_count_camelRest rest

/-- A name that starts in upper case is left as it is by another capital. -/
theorem capitalized_upperChar_append (c : Char) (cs : List Char) :
    capitalized (Text.upperChar c ++ cs) = Text.upperChar c ++ cs := by
  cases hform : Text.upperChar c with
  | nil => exact absurd hform (Text.upperChar_ne_nil c)
  | cons u us =>
      have hsettled : Text.upperChar u = [u] :=
        (Text.inForm_upperChar (c := c) (by simp [hform])).settled
      simp [capitalized, hsettled]

/-- A name in camel case has its capital. -/
theorem capitalized_camelChars (cs : List Char) : capitalized (camelChars cs) = camelChars cs := by
  rw [camelChars]
  cases trimUnderscores cs with
  | nil => rfl
  | cons c rest => exact capitalized_upperChar_append c (camelRest rest)

/-- A name without underscores has none side by side. -/
theorem not_hasDoubled_of_not_mem {cs : List Char} (h : '_' ∉ cs) : ¬ HasDoubled cs := by
  obtain ⟨front, back, hsplit, -⟩ := exists_trimUnderscores cs
  intro hdoubled
  refine h ?_
  rw [hsplit]
  exact List.mem_append_left _ (List.mem_append_right _ (hdoubled.subset (by simp)))

/-- Camel case leaves a name in camel case as it is exactly when it holds no underscore. -/
theorem camelChars_camelChars_iff (cs : List Char) :
    camelChars (camelChars cs) = camelChars cs ↔ '_' ∉ camelChars cs := by
  constructor
  · -- An underscore that is left would have to be one of at most half as many the next time.
    intro h hmem
    have hpositive : 0 < (camelChars cs).count '_' := List.count_pos_iff.2 hmem
    have hhalf := two_mul_count_camelChars (camelChars cs)
    rw [h] at hhalf
    omega
  · intro h
    rw [camelChars_eq_joined (not_hasDoubled_of_not_mem h), joined_of_not_mem h,
      capitalized_camelChars]

/-- Camel case drops every underscore of a name, writes it as its words run together, each with a
capital, and is settled when done once: each of the three exactly when no two underscores stand side
by side in the name, but at its ends. -/
theorem toCamel_exact (name : String) :
    ('_' ∉ (toCamel name).toList ↔ ¬ HasDoubled name.toList)
      ∧ (toCamel name = String.ofList (joined name.toList) ↔ ¬ HasDoubled name.toList)
      ∧ (toCamel (toCamel name) = toCamel name ↔ ¬ HasDoubled name.toList) := by
  have hkept : '_' ∈ (toCamel name).toList ↔ HasDoubled name.toList := by
    rw [toCamel, String.toList_ofList]
    exact underscore_mem_camelChars name.toList
  have hwords : toCamel name = String.ofList (joined name.toList) ↔ ¬ HasDoubled name.toList := by
    constructor
    · intro h
      rw [← hkept, h, String.toList_ofList]
      exact underscore_not_mem_joined name.toList
    · intro h
      rw [toCamel, camelChars_eq_joined h]
  have hagain : toCamel (toCamel name) = toCamel name ↔ ¬ HasDoubled name.toList := by
    rw [← underscore_mem_camelChars, ← camelChars_camelChars_iff, toCamel, toCamel,
      String.toList_ofList, String.ofList_inj]
  exact ⟨not_congr hkept, hwords, hagain⟩

/-- Two underscores in the middle of a name: the second stays, the word behind it has no capital,
and camel case makes another name of the result. -/
theorem toCamel_doubled : toCamel "a__b" = "A_b" ∧ '_' ∈ (toCamel "a__b").toList
    ∧ String.ofList (joined "a__b".toList) = "AB" ∧ toCamel (toCamel "a__b") = "AB" := by
  decide

end Schemata.Naming
