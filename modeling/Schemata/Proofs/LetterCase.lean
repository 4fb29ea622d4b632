import Schemata.Text.Blank
import Schemata.Text.Casing

/-! # Case mapping done twice

A text that has been put in upper or in lower case stays as it is when this is done again, and
neither mapping takes white space or underscores away or makes them of anything else. The mappings
are tables of runs, so all of this rests on where the images of a run lie: away from what the other
runs hold, be it before, behind, or among the code points that a run with gaps leaves out. -/

namespace Schemata.Text

/-- The code point of the character of a code point. -/
theorem toNat_ofNat {n : Nat} (h : n.isValidChar) : (Char.ofNat n).toNat = n := by
  rw [Char.ofNat, dif_pos h]
  rfl

/-! ## Runs and their images -/

/-- Whether one range lies before or behind another. -/
def CodeRange.apart (a b : CodeRange) : Bool := Nat.blt a.2 b.1 || Nat.blt b.2 a.1

/-- No range of a union that lies apart from a range holds a code point of it. -/
theorem inRanges_eq_false_of_apart {a : CodeRange} {ranges : List CodeRange}
    (h : ∀ range ∈ ranges, a.apart range = true) {code : Nat} (hfirst : a.1 ≤ code)
    (hlast : code ≤ a.2) : inRanges ranges code = false := by
  refine List.any_eq_false.2 fun range hrange => ?_
  have hapart := h range hrange
  simp only [CodeRange.apart, Bool.or_eq_true, Nat.blt_eq] at hapart
  simp only [Bool.and_eq_true, decide_eq_true_eq]
  omega

namespace CaseRun

/-- The code point that a run maps a code point to. -/
def image (run : CaseRun) (code : Nat) : Nat := Int.toNat (code + run.shift)

/-- The range of a run. -/
def codes (run : CaseRun) : CodeRange := (run.first, run.last)

/-- The range of the images of a run. -/
def images (run : CaseRun) : CodeRange := (run.image run.first, run.image run.last)

/-- Whether the images of a run are characters. -/
def IsSound (run : CaseRun) : Prop :=
  0 < run.images.1 ∧ (run.images.2 < 0xD800 ∨ 0xDFFF < run.images.1 ∧ run.images.2 < 0x110000)

instance (run : CaseRun) : Decidable run.IsSound := inferInstanceAs (Decidable (_ ∧ _))

/-- Whether a run holds no image of another run: they lie before it, behind it, or in its gaps. -/
def avoidedBy (other run : CaseRun) : Bool :=
  run.images.apart other.codes
    || other.step == 2 && (run.step == 2 || run.first == run.last)
      && (run.images.1 + other.first) % 2 == 1

variable {run other : CaseRun} {code : Nat}

/-- A run holds code points of its range only. -/
theorem le_of_holds (h : run.holds code = true) :
    run.codes.1 ≤ code ∧ code ≤ run.codes.2 := by
  simp only [holds, Bool.and_eq_true, decide_eq_true_eq] at h
  exact h.1

/-- The images of a run lie in the range of the images. -/
theorem image_le_of_holds (h : run.holds code = true) :
    run.images.1 ≤ run.image code ∧ run.image code ≤ run.images.2 := by
  obtain ⟨hfirst, hlast⟩ := le_of_holds h
  simp only [codes, images, image] at *
  omega

/-- The images of a sound run are code points of characters. -/
theorem IsSound.isValidChar (hsound : run.IsSound) (h : run.holds code = true) :
    (run.image code).isValidChar := by
  obtain ⟨hfirst, hlast⟩ := image_le_of_holds h
  obtain ⟨-, hlow | ⟨hhigh, htop⟩⟩ := hsound
  · exact .inl (Nat.lt_of_le_of_lt hlast hlow)
  · exact .inr ⟨Nat.lt_of_lt_of_le hhigh hfirst, Nat.lt_of_le_of_lt hlast htop⟩

/-- A run that avoids the images of another holds none of them. -/
theorem IsSound.holds_image (hsound : run.IsSound) (havoided : other.avoidedBy run = true)
    (h : run.holds code = true) : other.holds (run.image code) = false := by
  have himage := image_le_of_holds h
  have hpositive := hsound.1
  simp only [avoidedBy, CodeRange.apart, codes, Bool.or_eq_true, Nat.blt_eq, Bool.and_eq_true,
    beq_iff_eq] at havoided
  simp only [holds, Bool.and_eq_true, decide_eq_true_eq, beq_iff_eq] at h
  simp only [holds, Bool.and_eq_false_iff, decide_eq_false_iff_not, beq_eq_false_iff_ne]
  rcases havoided with (hbefore | hbehind) | ⟨⟨hgaps, hrun⟩, hodd⟩
  · exact .inl (.inl (by omega))
  · exact .inl (.inr (by omega))
  · -- The images are all odd where what the other run holds is even, or the other way around.
    have heven : (code - run.first) % 2 = 0 := by
      rcases hrun with hstep | hone
      · rw [← hstep]
        exact h.2
      · omega
    have hshift : run.image code = run.images.1 + (code - run.first) := by
      simp only [images, image] at *
      omega
    rw [hgaps]
    omega

end CaseRun

/-! ## Tables of runs

To go through all pairs of runs takes long. So the runs that may hold an image are taken in blocks,
and most blocks lie apart from the image as a whole. -/

/-- The range from the first to the last code point of runs. -/
def hull : List CaseRun → CodeRange
  | [] => (0x110000, 0)
  | run :: runs => (min run.first (hull runs).1, max run.last (hull runs).2)

/-- A run lies in the hull of runs that it is one of. -/
theorem hull_le {run : CaseRun} {runs : List CaseRun} (h : run ∈ runs) :
    (hull runs).1 ≤ run.first ∧ run.last ≤ (hull runs).2 := by
  induction runs with
  | nil => cases h
  | cons first runs ih =>
      rw [hull]
      rcases List.mem_cons.1 h with rfl | h
      · exact ⟨Nat.min_le_left _ _, Nat.le_max_left _ _⟩
      · obtain ⟨hfirst, hlast⟩ := ih h
        exact ⟨Nat.le_trans (Nat.min_le_right _ _) hfirst,
          Nat.le_trans hlast (Nat.le_max_right _ _)⟩

/-- A list of at most two hundred runs in blocks of ten. -/
def blocks (runs : List CaseRun) : List (List CaseRun) :=
  (List.range 20).map fun i => (runs.drop (10 * i)).take 10

/-- Whether runs, in blocks, hold no image of other runs. -/
def freeOf (others runs : List CaseRun) : Bool :=
  (blocks others).all fun block => runs.all fun run =>
    run.images.apart (hull block) || block.all (·.avoidedBy run)

/-- Runs that are free of the images of others avoid every one of them. -/
theorem avoidedBy_of_freeOf {others runs : List CaseRun}
    (hblocks : (blocks others).flatten = others) (hfree : freeOf others runs = true)
    {run other : CaseRun} (hrun : run ∈ runs) (hother : other ∈ others) :
    other.avoidedBy run = true := by
  rw [← hblocks] at hother
  obtain ⟨block, hblock, hother⟩ := List.mem_flatten.1 hother
  have hpair := List.all_eq_true.1 (List.all_eq_true.1 hfree block hblock) run hrun
  rcases Bool.or_eq_true_iff.1 hpair with hapart | hall
  · obtain ⟨hfirst, hlast⟩ := hull_le hother
    simp only [CodeRange.apart, Bool.or_eq_true, Nat.blt_eq] at hapart
    simp only [CaseRun.avoidedBy, CodeRange.apart, CaseRun.codes, Bool.or_eq_true, Nat.blt_eq]
    exact .inl (by omega)
  · exact List.all_eq_true.1 hall other hother

/-- The range of the underscore. -/
def underscoreRange : CodeRange := (0x5F, 0x5F)

/-- The ranges of the underscore and of white space. -/
def markRanges : List CodeRange := underscoreRange :: whiteSpaceRanges

/-- Whether a table of runs maps to characters that it leaves alone, and neither from nor to marks.
It is not to map into some other ranges either, where another part of the mapping would follow. -/
structure Settles (runs : List CaseRun) (away : List CodeRange) : Prop where
  /-- All images are characters. -/
  sound : ∀ run ∈ runs, run.IsSound
  /-- The table is that of its blocks. -/
  blocks : (blocks runs).flatten = runs
  /-- No run holds an image. -/
  free : freeOf runs runs = true
  /-- No run holds a mark. -/
  codes : (runs.all fun run => markRanges.all run.codes.apart) = true
  /-- No image is a mark or lies in the other ranges. -/
  images : (runs.all fun run => (markRanges ++ away).all run.images.apart) = true

/-- Ranges with the characters whose upper case form is several characters. They may hold other
characters, but none that another one maps to. -/
def specialRanges : List CodeRange :=
  [(0xDF, 0xDF), (0x149, 0x149), (0x1F0, 0x1F0), (0x390, 0x390), (0x3B0, 0x3B0), (0x587, 0x587),
    (0x1E96, 0x1E9A), (0x1F50, 0x1F56), (0x1F80, 0x1FB7), (0x1FBC, 0x1FC7), (0x1FCC, 0x1FD7),
    (0x1FE2, 0x1FE7), (0x1FF2, 0x1FF7), (0x1FFC, 0x1FFC), (0xFB00, 0xFB17)]

/-- What the table for upper case does not map to: the small ASCII letters, and the characters whose
upper case form is several. -/
def upperAway : List CodeRange := (0x61, 0x7A) :: specialRanges

/-- What the table for lower case does not map to: the ASCII capitals, and the capital `İ`. -/
def lowerAway : List CodeRange := [(0x41, 0x5A), (0x130, 0x130)]

/-- The table for upper case maps to characters that it leaves alone. -/
theorem settles_upperRuns : Settles upperRuns upperAway := by constructor <;> decide +kernel

/-- The table for lower case maps to characters that it leaves alone. -/
theorem settles_lowerRuns : Settles lowerRuns lowerAway := by constructor <;> decide +kernel

namespace Settles

variable {runs : List CaseRun} {away : List CodeRange}

/-- A table that settles avoids the images of runs that it is free of. -/
theorem holds_image (h : Settles runs away) {others : List CaseRun}
    (hfree : freeOf runs others = true) {other : CaseRun} (hother : other ∈ others)
    (hsound : other.IsSound) {code : Nat} (hholds : other.holds code = true) :
    ∀ run ∈ runs, run.holds (other.image code) = false :=
  fun _ hrun => hsound.holds_image (avoidedBy_of_freeOf h.blocks hfree hother hrun) hholds

/-- What a table of runs does to a character: nothing, when no run holds it, or else one run maps it
to a character that no run holds. -/
theorem shifted_cases (h : Settles runs away) (c : Char) :
    shifted runs c = c ∧ (∀ run ∈ runs, run.holds c.toNat = false)
      ∨ ∃ run ∈ runs, run.holds c.toNat = true ∧ (shifted runs c).toNat = run.image c.toNat
        ∧ ∀ other ∈ runs, other.holds (shifted runs c).toNat = false := by
  cases hfind : runs.find? (·.holds c.toNat) with
  | none =>
      have hnone : ∀ run ∈ runs, run.holds c.toNat = false := by
        simpa using hfind
      exact .inl ⟨by rw [shifted, hfind], hnone⟩
  | some run =>
      have hrun := List.mem_of_find?_eq_some hfind
      have hholds : run.holds c.toNat = true := by simpa using List.find?_some hfind
      have himage : (shifted runs c).toNat = run.image c.toNat := by
        rw [shifted, hfind]
        exact toNat_ofNat ((h.sound run hrun).isValidChar hholds)
      refine .inr ⟨run, hrun, hholds, himage, ?_⟩
      rw [himage]
      exact h.holds_image h.free hrun (h.sound run hrun) hholds

/-- Shifting a second time does nothing. -/
theorem shifted_shifted (h : Settles runs away) (c : Char) :
    shifted runs (shifted runs c) = shifted runs c := by
  rcases h.shifted_cases c with ⟨hsame, -⟩ | ⟨-, -, -, -, hfree⟩
  · rw [hsame, hsame]
  · have hfind : runs.find? (·.holds (shifted runs c).toNat) = none := by simpa using hfree
    rw [shifted, hfind]

/-- Shifting leads neither into marks nor out of them. -/
theorem inRanges_shifted (h : Settles runs away) {ranges : List CodeRange}
    (hmarks : ∀ range ∈ ranges, range ∈ markRanges) (c : Char) :
    inRanges ranges (shifted runs c).toNat = inRanges ranges c.toNat := by
  rcases h.shifted_cases c with ⟨hsame, -⟩ | ⟨run, hrun, hholds, himage, -⟩
  · rw [hsame]
  · obtain ⟨hfirst, hlast⟩ := CaseRun.le_of_holds hholds
    obtain ⟨hfirst', hlast'⟩ := CaseRun.image_le_of_holds hholds
    have hcodes : ∀ range ∈ ranges, run.codes.apart range = true := fun range hrange =>
      List.all_eq_true.1 (List.all_eq_true.1 h.codes run hrun) range (hmarks range hrange)
    have himages : ∀ range ∈ ranges, run.images.apart range = true := fun range hrange =>
      List.all_eq_true.1 (List.all_eq_true.1 h.images run hrun) range
        (List.mem_append_left _ (hmarks range hrange))
    rw [himage, inRanges_eq_false_of_apart hcodes hfirst hlast,
      inRanges_eq_false_of_apart himages hfirst' hlast']

/-- A character that is shifted does not get into the other ranges. -/
theorem not_inRanges_away (h : Settles runs away) {run : CaseRun} (hrun : run ∈ runs) {code : Nat}
    (hholds : run.holds code = true) : inRanges away (run.image code) = false := by
  obtain ⟨hfirst, hlast⟩ := CaseRun.image_le_of_holds hholds
  have himages : ∀ range ∈ away, run.images.apart range = true := fun range hrange =>
    List.all_eq_true.1 (List.all_eq_true.1 h.images run hrun) range
      (List.mem_append_right _ hrange)
  exact inRanges_eq_false_of_apart himages hfirst hlast

end Settles

/-! ## Characters -/

/-- What a character in the case form of another has in common with it, and that the form does not
change it any more. -/
structure InForm (form : Char → List Char) (c u : Char) : Prop where
  /-- The form of the character is the character. -/
  settled : form u = [u]
  /-- Both are white space or neither is. -/
  white : isWhite u = isWhite c
  /-- Both are underscores or neither is. -/
  underscore : u = '_' ↔ c = '_'

/-- A character is an underscore when its code point is that of the underscore. -/
theorem eq_underscore_iff (c : Char) : c = '_' ↔ inRanges [underscoreRange] c.toNat = true := by
  have htoNat : c = '_' ↔ c.toNat = 0x5F := by
    refine ⟨fun h => by rw [h]; rfl, fun h => ?_⟩
    rw [← Char.ofNat_toNat c, h]
  simp only [htoNat, inRanges_cons, inRanges_nil, underscoreRange, Bool.or_false, Bool.and_eq_true,
    decide_eq_true_eq]
  omega

/-- A character and its image under a table are both white space, both underscores, or neither. -/
theorem Settles.inForm_shifted {runs : List CaseRun} {away : List CodeRange} (h : Settles runs away)
    {form : Char → List Char} {c : Char} (hsettled : form (shifted runs c) = [shifted runs c]) :
    InForm form c (shifted runs c) where
  settled := hsettled
  white := h.inRanges_shifted (fun _ hrange => List.mem_cons_of_mem _ hrange) c
  underscore := by
    rw [eq_underscore_iff, eq_underscore_iff c, h.inRanges_shifted _ c]
    exact List.forall_mem_singleton.2 List.mem_cons_self

/-- A character that is no mark is neither white space nor an underscore. -/
theorem not_mark {c : Char} (h : inRanges markRanges c.toNat = false) :
    isWhite c = false ∧ c ≠ '_' := by
  rw [markRanges, inRanges_cons, Bool.or_eq_false_iff] at h
  refine ⟨h.2, ?_⟩
  rintro rfl
  cases h.1

/-- ASCII characters in upper case. -/
theorem toUpper_ascii {c : Char} (h : c.toNat < 0x80) :
    (c.toUpper.toUpper = c.toUpper ∧ c.toUpper.toNat < 0x80)
      ∧ (isWhite c.toUpper = isWhite c ∧ (c.toUpper = '_' ↔ c = '_'))
      ∧ (inRanges upperAway c.toNat = false → c.toUpper = c) :=
  forall_ascii (fun c => (c.toUpper.toUpper = c.toUpper ∧ c.toUpper.toNat < 0x80)
    ∧ (isWhite c.toUpper = isWhite c ∧ (c.toUpper = '_' ↔ c = '_'))
    ∧ (inRanges upperAway c.toNat = false → c.toUpper = c)) (by decide +kernel) h

/-- ASCII characters in lower case. -/
theorem toLower_ascii {c : Char} (h : c.toNat < 0x80) :
    (c.toLower.toLower = c.toLower ∧ c.toLower.toNat < 0x80)
      ∧ (isWhite c.toLower = isWhite c ∧ (c.toLower = '_' ↔ c = '_'))
      ∧ (inRanges lowerAway c.toNat = false → c.toLower = c) :=
  forall_ascii (fun c => (c.toLower.toLower = c.toLower ∧ c.toLower.toNat < 0x80)
    ∧ (isWhite c.toLower = isWhite c ∧ (c.toLower = '_' ↔ c = '_'))
    ∧ (inRanges lowerAway c.toNat = false → c.toLower = c)) (by decide +kernel) h

/-! ## Upper case -/

/-- One code point as a run that maps it to itself. -/
def CaseRun.single (n : Nat) : CaseRun := ⟨n, n, 1, 0⟩

/-- A code point is held as a run, and it is its image. -/
theorem CaseRun.holds_single (n : Nat) :
    (single n).holds n = true ∧ (single n).image n = n := by
  simp [single, holds, image]

/-- The code point of the character of a code point that is sound as a run. -/
theorem toNat_ofNat_of_isSound {n : Nat} (h : (CaseRun.single n).IsSound) :
    (Char.ofNat n).toNat = n := by
  obtain ⟨hholds, himage⟩ := CaseRun.holds_single n
  have hvalid := h.isValidChar hholds
  rw [himage] at hvalid
  exact toNat_ofNat hvalid

/-- The code points in the upper case forms of several characters. -/
def specialForms : List CaseRun := upperSpecials.flatMap fun entry => entry.2.map CaseRun.single

/-- The characters whose upper case form is several are in their ranges and no marks; their forms
are not empty, and hold neither them nor small ASCII letters nor marks. -/
theorem upperSpecials_apart : ∀ entry ∈ upperSpecials,
    inRanges specialRanges entry.1 = true ∧ inRanges markRanges entry.1 = false ∧ entry.2 ≠ []
      ∧ ∀ n ∈ entry.2, (CaseRun.single n).IsSound ∧ inRanges upperAway n = false
        ∧ inRanges markRanges n = false := by
  decide +kernel

/-- The table for upper case holds no character of a form of several. -/
theorem freeOf_specialForms : freeOf upperRuns specialForms = true := by decide +kernel

/-- The upper case form of a character: an ASCII capital, several characters, or an image under the
table of runs. -/
theorem upperChar_cases (c : Char) :
    (c.toNat < 0x80 ∧ upperChar c = [c.toUpper])
      ∨ (∃ entry ∈ upperSpecials, entry.1 = c.toNat ∧ upperChar c = entry.2.map Char.ofNat)
      ∨ (0x80 ≤ c.toNat ∧ upperChar c = [shifted upperRuns c]
        ∧ upperSpecials.lookup c.toNat = none) := by
  by_cases hascii : c.toNat < 0x80
  · exact .inl ⟨hascii, upperChar_ascii hascii⟩
  · refine .inr ?_
    cases hlookup : upperSpecials.lookup c.toNat with
    | some codes =>
        obtain ⟨front, back, hsplit, -⟩ := List.lookup_eq_some_iff.1 hlookup
        refine .inl ⟨(c.toNat, codes), by simp [hsplit], rfl, ?_⟩
        rw [upperChar, if_neg hascii, hlookup]
    | none =>
        refine .inr ⟨by omega, ?_, rfl⟩
        rw [upperChar, if_neg hascii, hlookup]

/-- A character that the table for upper case does not hold is in upper case, if it is none that the
table does not map to. -/
theorem upperChar_eq_self {c : Char} (hfree : ∀ run ∈ upperRuns, run.holds c.toNat = false)
    (haway : inRanges upperAway c.toNat = false) : upperChar c = [c] := by
  rcases upperChar_cases c with ⟨hascii, hupper⟩ | ⟨entry, hentry, hcode, -⟩ | ⟨-, hupper, -⟩
  · rw [hupper, (toUpper_ascii hascii).2.2 haway]
  · rw [upperAway, inRanges_cons, Bool.or_eq_false_iff, ← hcode,
      (upperSpecials_apart entry hentry).1] at haway
    cases haway.2
  · have hfind : upperRuns.find? (·.holds c.toNat) = none := by simpa using hfree
    rw [hupper, shifted, hfind]

/-- The image of a character under the table for upper case is in upper case. -/
theorem upperChar_shifted {c : Char} (hascii : 0x80 ≤ c.toNat)
    (hlookup : upperSpecials.lookup c.toNat = none) :
    upperChar (shifted upperRuns c) = [shifted upperRuns c] := by
  rcases settles_upperRuns.shifted_cases c with ⟨hsame, -⟩ | ⟨run, hrun, hholds, himage, hfree⟩
  · have hupper : upperChar c = [shifted upperRuns c] := by
      rw [upperChar, if_neg (by omega), hlookup]
    rw [hsame] at hupper ⊢
    exact hupper
  · refine upperChar_eq_self hfree ?_
    rw [himage]
    exact settles_upperRuns.not_inRanges_away hrun hholds

/-- A character in an upper case form of several characters is in upper case. -/
theorem upperChar_special {entry : Nat × List Nat} (hentry : entry ∈ upperSpecials) {n : Nat}
    (hn : n ∈ entry.2) : upperChar (Char.ofNat n) = [Char.ofNat n] := by
  obtain ⟨-, -, -, hforms⟩ := upperSpecials_apart entry hentry
  obtain ⟨hsound, haway, -⟩ := hforms n hn
  obtain ⟨hholds, himage⟩ := CaseRun.holds_single n
  have hmem : CaseRun.single n ∈ specialForms :=
    List.mem_flatMap.2 ⟨entry, hentry, List.mem_map_of_mem hn⟩
  have hfree := settles_upperRuns.holds_image freeOf_specialForms hmem hsound hholds
  rw [himage, ← toNat_ofNat_of_isSound hsound] at hfree
  exact upperChar_eq_self hfree (by rwa [toNat_ofNat_of_isSound hsound])

/-- The characters in the upper case form of a character are in upper case, and they are white space
or underscores where the character is. -/
theorem inForm_upperChar {c u : Char} (hu : u ∈ upperChar c) : InForm upperChar c u := by
  rcases upperChar_cases c with ⟨hascii, hupper⟩ | ⟨entry, hentry, hcode, hupper⟩
    | ⟨hascii, hupper, hlookup⟩
  · rw [hupper, List.mem_singleton] at hu
    subst hu
    obtain ⟨⟨htwice, hlow⟩, ⟨hwhite, hunderscore⟩, -⟩ := toUpper_ascii hascii
    exact ⟨by rw [upperChar_ascii hlow, htwice], hwhite, hunderscore⟩
  · -- Neither the character nor its form is white space or an underscore.
    obtain ⟨-, hmark, -, hforms⟩ := upperSpecials_apart entry hentry
    rw [hcode] at hmark
    rw [hupper, List.mem_map] at hu
    obtain ⟨n, hn, rfl⟩ := hu
    obtain ⟨hsound, -, hmark'⟩ := hforms n hn
    rw [← toNat_ofNat_of_isSound hsound] at hmark'
    obtain ⟨hwhite, hne⟩ := not_mark hmark
    obtain ⟨hwhite', hne'⟩ := not_mark hmark'
    exact ⟨upperChar_special hentry hn, hwhite'.trans hwhite.symm, iff_of_false hne' hne⟩
  · rw [hupper, List.mem_singleton] at hu
    subst hu
    exact settles_upperRuns.inForm_shifted (upperChar_shifted hascii hlookup)

/-- The upper case form of a character is not empty. -/
theorem upperChar_ne_nil (c : Char) : upperChar c ≠ [] := by
  rcases upperChar_cases c with ⟨-, hupper⟩ | ⟨entry, hentry, -, hupper⟩ | ⟨-, hupper, -⟩
  · simp [hupper]
  · rw [hupper]
    exact fun hnil => (upperSpecials_apart entry hentry).2.2.1 (List.map_eq_nil_iff.1 hnil)
  · simp [hupper]

/-! ## Lower case -/

/-- The image of a character under the table for lower case is in lower case. -/
theorem lowerChar_shifted {c : Char} (hascii : 0x80 ≤ c.toNat) (hdotted : c ≠ 'İ') :
    lowerChar (shifted lowerRuns c) = [shifted lowerRuns c] := by
  have hbeyond : ∀ {d : Char}, 0x80 ≤ d.toNat → d ≠ 'İ' → lowerChar d = [shifted lowerRuns d] := by
    intro d hd hne
    rw [lowerChar, if_neg (by omega), if_neg hne]
  rcases settles_lowerRuns.shifted_cases c with ⟨hsame, -⟩ | ⟨run, hrun, hholds, himage, -⟩
  · have hlower := hbeyond hascii hdotted
    rw [hsame] at hlower ⊢
    exact hlower
  · have haway : inRanges lowerAway (shifted lowerRuns c).toNat = false := by
      rw [himage]
      exact settles_lowerRuns.not_inRanges_away hrun hholds
    by_cases hlow : (shifted lowerRuns c).toNat < 0x80
    · rw [lowerChar_ascii hlow, (toLower_ascii hlow).2.2 haway]
    · have hne : shifted lowerRuns c ≠ 'İ' := by
        intro heq
        rw [heq] at haway
        cases haway
      rw [hbeyond (by omega) hne, settles_lowerRuns.shifted_shifted]

/-- The forms of the capital `İ` and of the small sigma are in lower case, and the capital sigma is
not. -/
theorem lowerChar_exceptions :
    (∀ u ∈ ['i', '\u0307', 'ς', 'σ'], lowerChar u = [u]) ∧ lowerChar 'Σ' ≠ ['Σ'] := by
  decide +kernel

/-- The characters in the lower case form of a character are in lower case, and they are white space
or underscores where the character is. -/
theorem inForm_lowerChar {c u : Char} (hu : u ∈ lowerChar c) : InForm lowerChar c u := by
  by_cases hascii : c.toNat < 0x80
  · rw [lowerChar_ascii hascii, List.mem_singleton] at hu
    subst hu
    obtain ⟨⟨htwice, hlow⟩, ⟨hwhite, hunderscore⟩, -⟩ := toLower_ascii hascii
    exact ⟨by rw [lowerChar_ascii hlow, htwice], hwhite, hunderscore⟩
  · by_cases hdotted : c = 'İ'
    · subst hdotted
      have hmem : u ∈ ['i', '\u0307'] := hu
      have hmarks : ∀ u ∈ ['i', '\u0307'], isWhite u = isWhite 'İ' ∧ (u = '_' ↔ 'İ' = '_') := by
        decide
      obtain ⟨hwhite, hunderscore⟩ := hmarks u hmem
      exact ⟨lowerChar_exceptions.1 u (List.mem_append_left _ hmem), hwhite, hunderscore⟩
    · rw [lowerChar, if_neg hascii, if_neg hdotted, List.mem_singleton] at hu
      subst hu
      exact settles_lowerRuns.inForm_shifted (lowerChar_shifted (by omega) hdotted)

/-- The lower case form of a character is not empty. -/
theorem lowerChar_ne_nil (c : Char) : lowerChar c ≠ [] := by
  unfold lowerChar
  split
  · exact List.cons_ne_nil _ _
  · split <;> exact List.cons_ne_nil _ _

/-! ## Texts -/

/-- Where a form of a character has characters, and all have in common with it what a case form has,
they are white space when the character is. -/
theorem all_isWhite_form {form : Char → List Char} {c : Char} {us : List Char} (hne : us ≠ [])
    (h : ∀ u ∈ us, InForm form c u) : us.all isWhite = isWhite c := by
  obtain ⟨u, rest, rfl⟩ := List.exists_cons_of_ne_nil hne
  cases hc : isWhite c with
  | true => exact List.all_eq_true.2 fun v hv => (h v hv).white.trans hc
  | false =>
      have hu := (h u (by simp)).white.trans hc
      rw [List.all_cons, hu, Bool.false_and]

/-- The upper case form of white space is white space, and of nothing else. -/
theorem all_isWhite_upperChar (c : Char) : (upperChar c).all isWhite = isWhite c :=
  all_isWhite_form (upperChar_ne_nil c) fun _ => inForm_upperChar

/-- A text is white space in upper case when it is. -/
theorem all_isWhite_upper (cs : List Char) : (upper cs).all isWhite = cs.all isWhite := by
  induction cs with
  | nil => rfl
  | cons c cs ih => rw [upper_cons, List.all_append, all_isWhite_upperChar, ih, List.all_cons]

/-- A text of characters in upper case is in upper case. -/
theorem upper_eq_self {cs : List Char} (h : ∀ c ∈ cs, upperChar c = [c]) : upper cs = cs := by
  induction cs with
  | nil => rfl
  | cons c cs ih =>
      obtain ⟨hc, hcs⟩ := List.forall_mem_cons.1 h
      rw [upper_cons, hc, ih hcs, List.singleton_append]

/-- Upper case of upper case is upper case. -/
theorem upper_upper (cs : List Char) : upper (upper cs) = upper cs := by
  refine upper_eq_self fun u hu => ?_
  obtain ⟨c, -, hu⟩ := List.mem_flatMap.1 hu
  exact (inForm_upperChar hu).settled

/-- What stands for one character in a text in lower case. -/
theorem inForm_lowerAfter (before rest : List Char) {c u : Char}
    (hu : u ∈ if c = 'Σ' then [lowerSigma before rest] else lowerChar c) :
    InForm lowerChar c u := by
  by_cases hsigma : c = 'Σ'
  · -- Both forms of the small sigma are in lower case.
    have hmem : u ∈ ['ς', 'σ'] := by
      rw [if_pos hsigma, List.mem_singleton] at hu
      rw [hu, lowerSigma]
      split <;> simp
    have hmarks : ∀ u ∈ ['ς', 'σ'], isWhite u = isWhite 'Σ' ∧ (u = '_' ↔ 'Σ' = '_') := by decide
    subst hsigma
    obtain ⟨hwhite, hunderscore⟩ := hmarks u hmem
    exact ⟨lowerChar_exceptions.1 u (List.mem_append_right ['i', '\u0307'] hmem), hwhite,
      hunderscore⟩
  · rw [if_neg hsigma] at hu
    exact inForm_lowerChar hu

/-- A text is white space in lower case when it is. -/
theorem all_isWhite_lowerAfter (before cs : List Char) :
    (lowerAfter before cs).all isWhite = cs.all isWhite := by
  induction cs generalizing before with
  | nil => rfl
  | cons c cs ih =>
      have hne : (if c = 'Σ' then [lowerSigma before cs] else lowerChar c) ≠ [] := by
        split
        · exact List.cons_ne_nil _ _
        · exact lowerChar_ne_nil c
      rw [lowerAfter, List.all_append, all_isWhite_form hne fun _ => inForm_lowerAfter before cs,
        ih, List.all_cons]

/-- The characters of a text in lower case are in lower case. -/
theorem lowerChar_of_mem_lowerAfter {before cs : List Char} {u : Char}
    (hu : u ∈ lowerAfter before cs) : lowerChar u = [u] := by
  induction cs generalizing before with
  | nil => cases hu
  | cons c cs ih =>
      rw [lowerAfter] at hu
      rcases List.mem_append.1 hu with hu | hu
      · exact (inForm_lowerAfter before cs hu).settled
      · exact ih hu

/-- A text of characters in lower case is in lower case, whatever stands before it. -/
theorem lowerAfter_eq_self {cs : List Char} (h : ∀ c ∈ cs, lowerChar c = [c])
    (before : List Char) : lowerAfter before cs = cs := by
  induction cs generalizing before with
  | nil => rfl
  | cons c cs ih =>
      obtain ⟨hc, hcs⟩ := List.forall_mem_cons.1 h
      -- The form of a capital sigma is no capital sigma.
      have hsigma : c ≠ 'Σ' := by
        rintro rfl
        exact lowerChar_exceptions.2 hc
      rw [lowerAfter, if_neg hsigma, hc, ih hcs, List.singleton_append]

/-- Lower case of lower case is lower case. -/
theorem lower_lower (cs : List Char) : lower (lower cs) = lower cs :=
  lowerAfter_eq_self (fun _ => lowerChar_of_mem_lowerAfter) []

/-- Upper case of an upper case text is the text. -/
@[simp] theorem uppercase_uppercase (text : String) :
    uppercase (uppercase text) = uppercase text := by
  simp [uppercase, upper_upper]

/-- Lower case of a lower case text is the text. -/
@[simp] theorem lowercase_lowercase (text : String) :
    lowercase (lowercase text) = lowercase text := by
  simp [lowercase, lower_lower]

/-- A text is blank in upper case when it is blank. -/
@[simp] theorem isBlank_uppercase (text : String) : isBlank (uppercase text) = isBlank text := by
  simp only [isBlank, uppercase, String.toList_ofList, all_isWhite_upper]

/-- A text is blank in lower case when it is blank. -/
@[simp] theorem isBlank_lowercase (text : String) : isBlank (lowercase text) = isBlank text := by
  simp only [isBlank, lowercase, lower, String.toList_ofList, all_isWhite_lowerAfter]

end Schemata.Text
