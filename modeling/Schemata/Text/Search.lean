/-! # Searching in text

Cuts of a text at the first character with a property, or at the first occurrence of a word. Every
cut returns what stands before and what stands after; the place itself is left out. -/

namespace Schemata.Text

/-- A character is not in a text exactly when every character of the text is told apart from it. -/
theorem forall_beq_iff {c : Char} {cs : List Char} : (∀ d ∈ cs, (d == c) = false) ↔ c ∉ cs := by
  constructor
  · intro h hc
    simpa using h c hc
  · rintro h d hd
    rw [beq_eq_false_iff_ne]
    rintro rfl
    exact h hd

/-- Cut at the first character that satisfies `p`; `none` when there is none. -/
def cutAt? (p : Char → Bool) : List Char → Option (List Char × List Char)
  | [] => none
  | c :: rest =>
      if p c then some ([], rest)
      else (cutAt? p rest).map fun parts => (c :: parts.1, parts.2)

/-- The part before a cut holds no character that satisfies `p`, and the parts with the character
between them give back the text. -/
theorem cutAt?_eq_some {p : Char → Bool} {cs before after : List Char}
    (h : cutAt? p cs = some (before, after)) :
    ∃ c, p c = true ∧ cs = before ++ c :: after ∧ ∀ d ∈ before, p d = false := by
  induction cs generalizing before with
  | nil => simp [cutAt?] at h
  | cons c rest ih =>
      by_cases hc : p c
      · simp only [cutAt?, hc, if_true, Option.some.injEq, Prod.mk.injEq] at h
        obtain ⟨rfl, rfl⟩ := h
        exact ⟨c, hc, rfl, by simp⟩
      · simp only [cutAt?, hc, Bool.false_eq_true, if_false, Option.map_eq_some_iff] at h
        obtain ⟨⟨b, a⟩, hcut, heq⟩ := h
        obtain ⟨rfl, rfl⟩ := Prod.mk.inj heq
        obtain ⟨d, hd, rfl, hall⟩ := ih hcut
        exact ⟨d, hd, rfl, by simpa [hc] using hall⟩

/-- A text cannot be cut exactly when no character satisfies `p`. -/
theorem cutAt?_eq_none_iff {p : Char → Bool} {cs : List Char} :
    cutAt? p cs = none ↔ ∀ c ∈ cs, p c = false := by
  induction cs with
  | nil => simp [cutAt?]
  | cons c rest ih => by_cases hc : p c <;> simp [cutAt?, hc, ih]

/-- A text is cut at a character that satisfies `p` and follows none that does. -/
theorem cutAt?_append {p : Char → Bool} {before : List Char} {c : Char}
    (h : ∀ d ∈ before, p d = false) (hc : p c = true) (after : List Char) :
    cutAt? p (before ++ c :: after) = some (before, after) := by
  induction before with
  | nil => simp [cutAt?, hc]
  | cons d before ih =>
      have hrest := ih fun e he => h e (by simp [he])
      simp [cutAt?, h d (by simp), hrest]

/-- The text after a word that it starts with. -/
def skip? : List Char → List Char → Option (List Char)
  | [], cs => some cs
  | _ :: _, [] => none
  | w :: word, c :: cs => if w = c then skip? word cs else none

/-- A word is skipped exactly where the text starts with it. -/
theorem skip?_eq_some_iff {word cs after : List Char} :
    skip? word cs = some after ↔ cs = word ++ after := by
  induction word generalizing cs with
  | nil => simp [skip?]
  | cons w word ih =>
      cases cs with
      | nil => simp [skip?]
      | cons c cs =>
          by_cases h : w = c
          · simp [skip?, h, ih]
          · have h' : c ≠ w := fun e => h e.symm
            simp [skip?, h, h']

/-- Cut at the first occurrence of `word`; `none` when there is none. -/
def cut? (word : List Char) : List Char → Option (List Char × List Char)
  | [] => if word.isEmpty then some ([], []) else none
  | c :: rest =>
      match skip? word (c :: rest) with
      | some after => some ([], after)
      | none => (cut? word rest).map fun parts => (c :: parts.1, parts.2)

/-- A cut gives back the text with the word between its parts. -/
theorem cut?_eq_some {word cs before after : List Char} (h : cut? word cs = some (before, after)) :
    cs = before ++ word ++ after := by
  induction cs generalizing before with
  | nil =>
      cases word with
      | nil => simp_all [cut?]
      | cons => simp [cut?] at h
  | cons c rest ih =>
      rw [cut?] at h
      split at h
      · rename_i tail hp
        obtain ⟨rfl, rfl⟩ := Prod.mk.inj (Option.some.inj h)
        simpa using skip?_eq_some_iff.1 hp
      · obtain ⟨⟨b, a⟩, hcut, heq⟩ := Option.map_eq_some_iff.1 h
        obtain ⟨rfl, rfl⟩ := Prod.mk.inj heq
        simp [ih hcut]

/-- A text without the first character of a word cannot be cut at the word. -/
theorem cut?_eq_none_of_not_mem {w : Char} {cs : List Char} (h : w ∉ cs) (word : List Char) :
    cut? (w :: word) cs = none := by
  induction cs with
  | nil => rfl
  | cons c cs ih =>
      rw [List.mem_cons, not_or] at h
      simp [cut?, skip?, h.1, ih h.2]

/-- Whether `word` occurs in a text. -/
def occurs (word cs : List Char) : Bool := (cut? word cs).isSome

/-- A word that is in a text occurs in it. -/
theorem occurs_append (word front back : List Char) :
    occurs word (front ++ (word ++ back)) = true := by
  induction front with
  | nil =>
      have hskip : skip? word (word ++ back) = some back := skip?_eq_some_iff.2 rfl
      cases hcs : word ++ back with
      | nil =>
          obtain ⟨rfl, -⟩ := List.append_eq_nil_iff.1 hcs
          rfl
      | cons c cs =>
          rw [hcs] at hskip
          simp [occurs, cut?, hskip]
  | cons c front ih =>
      rw [occurs, List.cons_append, cut?]
      cases skip? word (c :: (front ++ (word ++ back))) with
      | some _ => rfl
      | none =>
          rw [occurs] at ih
          simpa using ih

/-- The part of a text after the last character that satisfies `p`, or the whole text. -/
def afterLast (p : Char → Bool) (cs : List Char) : List Char :=
  (cs.reverse.takeWhile fun c => !p c).reverse

/-- The part of a text up to the last character that satisfies `p`, that character left out; `none`
when there is none. -/
def beforeLast? (p : Char → Bool) (cs : List Char) : Option (List Char) :=
  (cutAt? p cs.reverse).map fun parts => parts.2.reverse

/-- What follows the last character that satisfies `p`. -/
theorem afterLast_append {p : Char → Bool} {c : Char} {after : List Char} (hc : p c = true)
    (h : ∀ d ∈ after, p d = false) (before : List Char) :
    afterLast p (before ++ c :: after) = after := by
  have hpass : ∀ d ∈ after.reverse, (!p d) = true := by
    intro d hd
    simp [h d (List.mem_reverse.1 hd)]
  rw [afterLast, List.reverse_append, List.reverse_cons, List.append_assoc,
    List.takeWhile_append_of_pos hpass]
  simp [hc]

/-- What stands before the last character that satisfies `p`. -/
theorem beforeLast?_append {p : Char → Bool} {c : Char} {after : List Char} (hc : p c = true)
    (h : ∀ d ∈ after, p d = false) (before : List Char) :
    beforeLast? p (before ++ c :: after) = some before := by
  have hback : ∀ d ∈ after.reverse, p d = false := fun d hd => h d (List.mem_reverse.1 hd)
  have hcut : cutAt? p (before ++ c :: after).reverse = some (after.reverse, before.reverse) := by
    rw [List.reverse_append, List.reverse_cons, List.append_assoc, List.singleton_append]
    exact cutAt?_append hback hc before.reverse
  rw [beforeLast?, hcut, Option.map_some, List.reverse_reverse]

/-- Split a text at every character that satisfies `p`. There is one piece more than there are such
characters. -/
def splitOn (p : Char → Bool) : List Char → List (List Char)
  | [] => [[]]
  | c :: rest =>
      if p c then [] :: splitOn p rest
      else
        match splitOn p rest with
        | [] => [[c]]
        | piece :: pieces => (c :: piece) :: pieces

/-- A split has at least one piece. -/
theorem splitOn_ne_nil (p : Char → Bool) (cs : List Char) : splitOn p cs ≠ [] := by
  cases cs with
  | nil => simp [splitOn]
  | cons c rest =>
      by_cases hc : p c
      · simp [splitOn, hc]
      · simp only [splitOn, hc, Bool.false_eq_true, if_false]
        split <;> simp

/-- A split has one piece more than there are places to split at. -/
theorem length_splitOn (p : Char → Bool) (cs : List Char) :
    (splitOn p cs).length = cs.countP p + 1 := by
  induction cs with
  | nil => rfl
  | cons c cs ih =>
      cases hc : p c with
      | true => simp [splitOn, hc, ih]
      | false =>
          cases hsplit : splitOn p cs with
          | nil => exact absurd hsplit (splitOn_ne_nil p cs)
          | cons piece pieces => simpa [splitOn, hc, hsplit] using ih

/-- A text with a place to split at is split there and on both sides of it. -/
theorem splitOn_append {p : Char → Bool} {c : Char} (h : p c = true) (cs rest : List Char) :
    splitOn p (cs ++ c :: rest) = splitOn p cs ++ splitOn p rest := by
  induction cs with
  | nil => simp [splitOn, h]
  | cons d cs ih =>
      by_cases hd : p d
      · simp [splitOn, hd, ih]
      · simp only [List.cons_append, splitOn, hd, Bool.false_eq_true, if_false, ih]
        cases hsplit : splitOn p cs with
        | nil => exact absurd hsplit (splitOn_ne_nil p cs)
        | cons piece pieces => rfl

/-- A text without a place to split at is its only piece. -/
theorem splitOn_of_forall {p : Char → Bool} {cs : List Char} (h : ∀ c ∈ cs, p c = false) :
    splitOn p cs = [cs] := by
  induction cs with
  | nil => rfl
  | cons c cs ih =>
      rw [splitOn, h c (by simp), ih fun d hd => h d (by simp [hd])]
      rfl

/-- The pieces of a text hold no character to split at. -/
theorem forall_mem_of_mem_splitOn {q : Char → Bool} {cs piece : List Char}
    (h : piece ∈ splitOn q cs) : ∀ c ∈ piece, q c = false := by
  induction cs generalizing piece with
  | nil =>
      rw [splitOn, List.mem_singleton] at h
      simp [h]
  | cons d cs ih =>
      rw [splitOn] at h
      split at h
      · rcases List.mem_cons.1 h with rfl | h
        · simp
        · exact ih h
      · rename_i hd
        have hd' : q d = false := Bool.eq_false_iff.2 hd
        split at h
        · rw [List.mem_singleton] at h
          simp [h, hd']
        · rename_i first more hsplit
          have hmore : ∀ piece ∈ first :: more, ∀ c ∈ piece, q c = false := fun piece hpiece =>
            ih (hsplit ▸ hpiece)
          rcases List.mem_cons.1 h with rfl | h
          · exact List.forall_mem_cons.2 ⟨hd', hmore first (by simp)⟩
          · exact hmore piece (by simp [h])

end Schemata.Text
