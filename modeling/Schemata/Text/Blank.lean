import Schemata.Text.CodeRange

/-! # White space

White space is the Unicode property `White_Space`. A text is blank when it holds nothing else, and
trimming removes white space from the ends of a text and from nowhere else. -/

namespace Schemata.Text

/-- What is said of the characters of a text is decided along the text, and not by going through all
characters there are. -/
instance (priority := 1100) decidableForallMem (p : Char → Prop) [DecidablePred p]
    (cs : List Char) : Decidable (∀ c ∈ cs, p c) :=
  List.decidableBAll p cs

/-- What is said of the first or the last character, if there is one, is decided there. -/
instance (priority := 1100) decidableForallEnd (p : Char → Prop) [DecidablePred p]
    (c? : Option Char) : Decidable (∀ c ∈ c?, p c) :=
  Option.decidableForallMem c?

/-- The code points with the Unicode property `White_Space`. -/
def whiteSpaceRanges : List CodeRange :=
  [(0x9, 0xD), (0x20, 0x20), (0x85, 0x85), (0xA0, 0xA0), (0x1680, 0x1680), (0x2000, 0x200A),
    (0x2028, 0x2029), (0x202F, 0x202F), (0x205F, 0x205F), (0x3000, 0x3000)]

/-- Whether a character is white space. -/
def isWhite (c : Char) : Bool := inRanges whiteSpaceRanges c.toNat

/-- White space is told apart from every other character. -/
theorem ne_of_isWhite {c d : Char} (hc : isWhite c = true) (hd : isWhite d = false) : c ≠ d := by
  rintro rfl
  cases hc.symm.trans hd

/-- A text without its leading white space. -/
def trimStart (cs : List Char) : List Char := cs.dropWhile isWhite

/-- A text without its trailing white space. -/
def trimEnd (cs : List Char) : List Char := (cs.reverse.dropWhile isWhite).reverse

/-- White space at the start of a text is trailing white space if nothing else follows. -/
theorem trimEnd_cons (c : Char) (cs : List Char) :
    trimEnd (c :: cs) = if isWhite c && (trimEnd cs).isEmpty then [] else c :: trimEnd cs := by
  rw [trimEnd, trimEnd, List.reverse_cons, List.dropWhile_append]
  cases cs.reverse.dropWhile isWhite with
  | nil => cases hc : isWhite c <;> simp [hc]
  | cons d ds => simp

/-- A text without the white space at its ends. -/
def trim (cs : List Char) : List Char := trimEnd (trimStart cs)

/-- Nothing is left of an empty text. -/
@[simp] theorem trim_nil : trim [] = [] := rfl

/-- Trimming takes off what white space stands before and after a text whose first and last
characters are none. -/
theorem trim_append {front cs back : List Char} (hfront : ∀ c ∈ front, isWhite c = true)
    (hback : ∀ c ∈ back, isWhite c = true) (hfirst : ∀ c ∈ cs.head?, isWhite c = false)
    (hlast : ∀ c ∈ cs.getLast?, isWhite c = false) : trim (front ++ cs ++ back) = cs := by
  cases cs with
  | nil =>
      have hwhite : ∀ c ∈ front ++ back, isWhite c = true := by
        intro c hc
        rcases List.mem_append.1 hc with hc | hc
        · exact hfront c hc
        · exact hback c hc
      have hnil : (front ++ back ++ []).dropWhile isWhite = [] :=
        List.dropWhile_append_of_pos hwhite
      rw [List.append_nil] at hnil
      simp [trim, trimStart, hnil, trimEnd]
  | cons c cs =>
      have hstart : trimStart (front ++ (c :: cs) ++ back) = (c :: cs) ++ back := by
        rw [trimStart, List.append_assoc, List.dropWhile_append_of_pos hfront]
        simp [hfirst c (by simp)]
      have hend : trimEnd ((c :: cs) ++ back) = c :: cs := by
        rw [trimEnd, List.reverse_append,
          List.dropWhile_append_of_pos fun d hd => hback d (List.mem_reverse.1 hd)]
        rcases List.eq_nil_or_concat (c :: cs) with hnil | ⟨rest, d, hd⟩
        · cases hnil
        · have hwhite : isWhite d = false := hlast d (by simp [hd])
          simp [hd, hwhite]
      rw [trim, hstart, hend]

/-- A text is what is left of it when the characters of a kind are taken off both its ends, with
such characters around; what is left has none at its ends. -/
theorem exists_trimmed (p : Char → Bool) (cs : List Char) : ∃ front rest back,
    rest = ((cs.dropWhile p).reverse.dropWhile p).reverse ∧ cs = front ++ rest ++ back
    ∧ (∀ c ∈ front, p c = true) ∧ (∀ c ∈ back, p c = true)
    ∧ (∀ c ∈ rest.head?, p c = false) ∧ ∀ c ∈ rest.getLast?, p c = false := by
  generalize hstart : cs.dropWhile p = start
  generalize hrest : (start.reverse.dropWhile p).reverse = rest
  have hend : start = rest ++ (start.reverse.takeWhile p).reverse := by
    rw [← hrest, ← List.reverse_append, List.takeWhile_append_dropWhile, List.reverse_reverse]
  have hsplit : cs = cs.takeWhile p ++ rest ++ (start.reverse.takeWhile p).reverse := by
    rw [List.append_assoc, ← hend, ← hstart, List.takeWhile_append_dropWhile]
  have hall : ∀ (ds : List Char), ∀ c ∈ ds.takeWhile p, p c = true := fun _ =>
    List.all_eq_true.1 List.all_takeWhile
  have hnot : ∀ (ds : List Char), ∀ c ∈ (ds.dropWhile p).head?, p c = false := by
    intro ds c hc
    have hhead := List.head?_dropWhile_not p ds
    rw [hc] at hhead
    exact hhead
  refine ⟨_, rest, _, rfl, hsplit, hall cs,
    fun c hc => hall start.reverse c (List.mem_reverse.1 hc), fun c hc => ?_, fun c hc => ?_⟩
  · -- The first character that is left is the first behind those that are taken off the start.
    refine hnot cs c ?_
    rw [hstart, hend, List.head?_append, hc]
    rfl
  · refine hnot start.reverse c ?_
    rwa [← hrest, List.getLast?_reverse] at hc

/-- A text is what trimming leaves of it, with white space around; what is left has none at its
ends. -/
theorem exists_trim (cs : List Char) : ∃ front back, cs = front ++ trim cs ++ back
    ∧ (∀ c ∈ front, isWhite c = true) ∧ (∀ c ∈ back, isWhite c = true)
    ∧ (∀ c ∈ (trim cs).head?, isWhite c = false) ∧ ∀ c ∈ (trim cs).getLast?, isWhite c = false := by
  obtain ⟨front, rest, back, hrest, h⟩ := exists_trimmed isWhite cs
  subst hrest
  exact ⟨front, back, h⟩

/-- White space around a text is trimmed away. -/
theorem trim_padded {front back : List Char} (hfront : ∀ c ∈ front, isWhite c = true)
    (hback : ∀ c ∈ back, isWhite c = true) (cs : List Char) :
    trim (front ++ cs ++ back) = trim cs := by
  obtain ⟨front', back', heq, hfront', hback', hfirst, hlast⟩ := exists_trim cs
  have hpadded : front ++ cs ++ back = (front ++ front') ++ trim cs ++ (back' ++ back) := by
    conv => lhs; rw [heq]
    simp only [List.append_assoc]
  rw [hpadded]
  refine trim_append (fun c hc => ?_) (fun c hc => ?_) hfirst hlast
  · exact (List.mem_append.1 hc).elim (hfront c) (hfront' c)
  · exact (List.mem_append.1 hc).elim (hback' c) (hback c)

/-- Whether a text holds only white space. -/
def isBlank (s : String) : Bool := s.toList.all isWhite

/-- The empty text is blank. -/
@[simp] theorem isBlank_empty : isBlank "" = true := rfl

/-- Two texts one after the other are blank when both are. -/
theorem isBlank_append (s t : String) : isBlank (s ++ t) = (isBlank s && isBlank t) := by
  simp [isBlank]

end Schemata.Text
