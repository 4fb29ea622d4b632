import Mathlib.Data.List.Infix
import Schemata.Proofs.FieldList
import Schemata.Proofs.Quiet

/-! # Splitting a list into its fields

A text is split into fields at the commas outside parentheses. Here these commas are given by their
places: before such a comma as many parentheses are closed as are open, where one that closes
nothing does not count. The fields are what stands between neighbouring places, without the white
space around it, and what is blank is left out. So items that are listed with commas between them
are got back, if no comma of theirs is outside parentheses. -/

namespace Schemata

/-! ## Trimmed texts -/

/-- Trimming leaves nothing of white space, and something of every other text. -/
theorem Text.trim_eq_nil_iff (cs : List Char) : trim cs = [] ↔ ∀ c ∈ cs, isWhite c = true := by
  obtain ⟨front, back, heq, hfront, hback, hfirst, -⟩ := exists_trim cs
  constructor
  · intro hnil
    rw [heq, hnil, List.append_nil]
    exact List.forall_mem_append.2 ⟨hfront, hback⟩
  · intro h
    cases htrim : trim cs with
    | nil => rfl
    | cons c rest =>
        rw [htrim] at heq hfirst
        cases (hfirst c rfl).symm.trans (h c (by simp [heq]))

/-- Nothing is taken off a trimmed text. -/
theorem Text.trim_trim (cs : List Char) : trim (trim cs) = trim cs := by
  obtain ⟨-, -, -, -, -, hfirst, hlast⟩ := exists_trim cs
  have htrim : trim ([] ++ trim cs ++ []) = trim cs :=
    trim_append (by simp) (by simp) hfirst hlast
  rwa [List.nil_append, List.append_nil] at htrim

namespace Ddl

/-! ## The places of commas -/

/-- The depth of parentheses behind a text that starts at a given depth. -/
def depthBehind (depth : Nat) (cs : List Char) : Nat := cs.foldl depthAfter depth

/-- Whether a comma outside parentheses stands at a place of a text that starts at a given depth. -/
def isCommaAt (depth : Nat) (cs : List Char) (place : Nat) : Bool :=
  cs[place]? == some ',' && depthBehind depth (cs.take place) == 0

/-- The places of the commas outside parentheses. -/
def commaPlaces (depth : Nat) (cs : List Char) : List Nat :=
  (List.range cs.length).filter (isCommaAt depth cs)

/-- The part of a text from one place up to another. -/
def slice (cs : List Char) (first last : Nat) : List Char := (cs.take last).drop first

/-- The parts of a text that places split it into. The characters there are left out. -/
def segments (places : List Nat) (cs : List Char) : List (List Char) :=
  List.zipWith (slice cs) (0 :: places.map (· + 1)) (places ++ [cs.length])

/-- Behind a first character the commas stand one place further. -/
theorem commaPlaces_cons (depth : Nat) (c : Char) (cs : List Char) :
    commaPlaces depth (c :: cs)
      = (if c = ',' ∧ depth = 0 then [0] else [])
        ++ (commaPlaces (depthAfter depth c) cs).map (· + 1) := by
  have hrest : isCommaAt depth (c :: cs) ∘ Nat.succ = isCommaAt (depthAfter depth c) cs := by
    funext place
    simp [isCommaAt, depthBehind]
  have hfirst : isCommaAt depth (c :: cs) 0 = true ↔ c = ',' ∧ depth = 0 := by
    simp [isCommaAt, depthBehind]
  rw [commaPlaces, List.length_cons, List.range_succ_eq_map, List.filter_cons, List.filter_map,
    hrest]
  simp only [hfirst]
  split <;> rfl

/-- Behind a first character the parts of a text lie one place further. -/
theorem zipWith_slice_cons (c : Char) (cs : List Char) (starts stops : List Nat) :
    List.zipWith (slice (c :: cs)) (starts.map (· + 1)) (stops.map (· + 1))
      = List.zipWith (slice cs) starts stops := by
  rw [List.zipWith_map]
  rfl

/-- A first character that is left in place stays in front of the first part. -/
theorem segments_map_succ (places : List Nat) (c : Char) (cs : List Char) :
    segments (places.map (· + 1)) (c :: cs) = inFront [c] (segments places cs) := by
  cases places with
  | nil => rfl
  | cons place places =>
      have hrest := zipWith_slice_cons c cs ((place + 1) :: places.map (· + 1))
        (places ++ [cs.length])
      rw [List.map_append] at hrest
      exact congrArg ((c :: slice cs 0 place) :: ·) hrest

/-- Nothing stands before a first character that a text is split at. -/
theorem segments_zero_cons (places : List Nat) (c : Char) (cs : List Char) :
    segments (0 :: places.map (· + 1)) (c :: cs) = [] :: segments places cs := by
  have hrest := zipWith_slice_cons c cs (0 :: places.map (· + 1)) (places ++ [cs.length])
  rw [List.map_append] at hrest
  exact congrArg ([] :: ·) hrest

/-- A text is split at the places of the commas outside parentheses. -/
theorem pieces_eq_segments (depth : Nat) (cs : List Char) :
    pieces depth cs = segments (commaPlaces depth cs) cs := by
  induction cs generalizing depth with
  | nil => rfl
  | cons c cs ih =>
      rw [commaPlaces_cons]
      by_cases h : c = ',' ∧ depth = 0
      · rw [if_pos h, List.singleton_append, segments_zero_cons, pieces, if_pos h, ← ih]
        obtain ⟨rfl, rfl⟩ := h
        rfl
      · rw [if_neg h, List.nil_append, segments_map_succ, pieces_cons h, ih]

/-- The fields of a text are what stands between the commas outside parentheses, trimmed, without
what is blank. -/
theorem fields_eq_segments (body : List Char) :
    fields body
      = ((segments (commaPlaces 0 body) body).filter
          fun segment => !segment.all Text.isWhite).map Text.trim := by
  have hblank : ∀ segment, (Text.trim segment).isEmpty = segment.all Text.isWhite := by
    intro segment
    rw [Bool.eq_iff_iff, List.isEmpty_iff, Text.trim_eq_nil_iff, List.all_eq_true]
  rw [fields, pieces_eq_segments, List.filter_map]
  simp only [Function.comp_def, hblank]

/-- A field is trimmed. -/
theorem trim_of_mem_fields {body field : List Char} (h : field ∈ fields body) :
    Text.trim field = field := by
  obtain ⟨piece, -, rfl⟩ := List.mem_map.1 (List.mem_filter.1 h).1
  exact Text.trim_trim piece

/-! ## Items with commas between them -/

/-- Whether a text can stand in a list as it is: it is not empty, it has no white space at its ends,
its parentheses close one another, and its commas are inside them. -/
structure IsItem (item : List Char) : Prop where
  /-- Something stands there. -/
  ne_nil : item ≠ []
  /-- There is no white space at the ends. -/
  trimmed : Text.trim item = item
  /-- No parenthesis closes before one opens. -/
  opens_first : ∀ front, front <+: item → front.count ')' ≤ front.count '('
  /-- No parenthesis stays open. -/
  closes : item.count ')' = item.count '('
  /-- A parenthesis is open at every comma. -/
  comma_inside : ∀ front, front ++ [','] <+: item → front.count ')' < front.count '('

/-- What is asked of every text in front of a part of an item is decided for the texts that the item
starts with. -/
instance (item : List Char) : Decidable (IsItem item) :=
  decidable_of_iff
    (item ≠ [] ∧ Text.trim item = item
      ∧ (∀ front ∈ item.inits, front.count ')' ≤ front.count '(')
      ∧ item.count ')' = item.count '('
      ∧ ∀ front ∈ item.inits, front ++ [','] ∈ item.inits → front.count ')' < front.count '(')
    ⟨fun ⟨hne, htrim, hopen, hclose, hcomma⟩ =>
      ⟨hne, htrim, fun front hfront => hopen front ((List.mem_inits _ _).2 hfront), hclose,
        fun front hfront => hcomma front
          ((List.mem_inits _ _).2 ((List.prefix_append front [',']).trans hfront))
          ((List.mem_inits _ _).2 hfront)⟩,
    fun h =>
      ⟨h.ne_nil, h.trimmed, fun front hfront => h.opens_first front ((List.mem_inits _ _).1 hfront),
        h.closes, fun front _ hfront => h.comma_inside front ((List.mem_inits _ _).1 hfront)⟩⟩

/-- Whether a text is an item with white space around it. -/
def IsPadded (item padded : List Char) : Prop :=
  ∃ front back, (∀ c ∈ front, Text.isWhite c = true) ∧ (∀ c ∈ back, Text.isWhite c = true)
    ∧ padded = front ++ item ++ back

/-- The depth behind a text in which no parenthesis closes more than is open and a parenthesis is
open at every comma. -/
theorem depthBehind?_of_count {depth : Nat} {cs : List Char}
    (hopen : ∀ front, front <+: cs → front.count ')' ≤ depth + front.count '(')
    (hcomma : ∀ front, front ++ [','] <+: cs → front.count ')' < depth + front.count '(') :
    depthBehind? depth cs = some (depth + cs.count '(' - cs.count ')') := by
  induction cs generalizing depth with
  | nil => simp [depthBehind?]
  | cons c cs ih =>
      have hinside : ¬ (c = ',' ∧ depth = 0) := by
        rintro ⟨rfl, rfl⟩
        simpa using hcomma [] (by simp)
      -- A parenthesis that closes counts on both sides, as one that is open is closed by it.
      obtain ⟨closed, hclosed⟩ : ∃ closed, ∀ xs : List Char,
          depth + (c :: xs).count '(' = depthAfter depth c + xs.count '(' + closed
            ∧ (c :: xs).count ')' = xs.count ')' + closed := by
        have hone := hopen [c] (by simp)
        by_cases hop : c = '('
        · subst hop
          exact ⟨0, fun xs => by simp [depthAfter]; omega⟩
        · by_cases hcl : c = ')'
          · subst hcl
            exact ⟨1, fun xs => by simp [depthAfter] at hone ⊢; omega⟩
          · exact ⟨0, fun xs => by simp [depthAfter, hop, hcl]⟩
      have hfirst : ∀ {front}, front <+: cs → c :: front <+: c :: cs := fun hfront =>
        List.cons_prefix_cons.2 ⟨rfl, hfront⟩
      rw [depthBehind?, if_neg hinside, ih, (hclosed cs).1, (hclosed cs).2, Nat.add_sub_add_right]
      · intro front hfront
        have hmore := hopen (c :: front) (hfirst hfront)
        rw [(hclosed front).1, (hclosed front).2] at hmore
        exact Nat.le_of_add_le_add_right hmore
      · intro front hfront
        have hmore := hcomma (c :: front) (hfirst hfront)
        rw [(hclosed front).1, (hclosed front).2] at hmore
        exact Nat.lt_of_add_lt_add_right hmore

/-- An item is a field of its own. -/
theorem IsItem.isField {item : List Char} (h : IsItem item) : IsField item := by
  have hdepth : depthBehind? 0 item = some (0 + item.count '(' - item.count ')') :=
    depthBehind?_of_count
      (fun front hfront => by rw [Nat.zero_add]; exact h.opens_first front hfront)
      fun front hfront => by rw [Nat.zero_add]; exact h.comma_inside front hfront
  rw [IsField, hdepth, h.closes, Nat.zero_add, Nat.sub_self]

/-- An item is the only field of its text with white space around it. -/
theorem IsItem.fields_padded {item padded : List Char} (h : IsItem item)
    (hpadded : IsPadded item padded) : IsField padded ∧ fields padded = [item] := by
  obtain ⟨front, back, hfront, hback, rfl⟩ := hpadded
  have hfield : IsField (front ++ item ++ back) :=
    ((isField_of_isWhite hfront).append h.isField).append (isField_of_isWhite hback)
  have htrim : Text.trim (front ++ item ++ back) = item :=
    (Text.trim_padded hfront hback item).trans h.trimmed
  refine ⟨hfield, ?_⟩
  rw [hfield.fields_eq, htrim]
  exact List.filter_eq_self.2 (by simpa using h.ne_nil)

/-- Items are the fields of the list with commas between them and white space around them. -/
theorem fields_listed_padded {items padded : List (List Char)} (h : ∀ item ∈ items, IsItem item)
    (hpadded : List.Forall₂ IsPadded items padded) : fields (listed padded) = items := by
  induction hpadded with
  | nil => rfl
  | cons hfirst _ ih =>
      obtain ⟨hitem, hitems⟩ := List.forall_mem_cons.1 h
      obtain ⟨hfield, hfields⟩ := hitem.fields_padded hfirst
      rw [hfield.fields_listed_cons, hfields, ih hitems]
      rfl

/-- **A list is split at its commas outside parentheses, and nowhere else.** Items whose commas are
all inside parentheses are got back from the list of them, whatever white space stands around them.
The fields of any text are its parts between the commas before which no parenthesis is open, trimmed
and without what is blank, in order. No field is empty, and none has white space at its ends. -/
theorem fields_exact {items padded : List (List Char)} (h : ∀ item ∈ items, IsItem item)
    (hpadded : List.Forall₂ IsPadded items padded) (body : List Char) :
    fields (listed padded) = items
      ∧ fields body
        = ((segments (commaPlaces 0 body) body).filter
            fun segment => !segment.all Text.isWhite).map Text.trim
      ∧ ∀ field ∈ fields body, field ≠ [] ∧ Text.trim field = field :=
  ⟨fields_listed_padded h hpadded, fields_eq_segments body, fun _ hfield =>
    ⟨ne_nil_of_mem_fields hfield, trim_of_mem_fields hfield⟩⟩

/-- Commas two parentheses deep, and a text whose parentheses do not match. -/
theorem fields_exact_nested :
    let items := ["a int".toList, "b numeric(10, 2)".toList, "check (f(a, (b, c)) > 0)".toList]
    let padded := ["a int \t".toList, "b numeric(10, 2)".toList,
      "  check (f(a, (b, c)) > 0)".toList]
    let body := "a), (b, c) ,, d(,".toList
    (∀ item ∈ items, IsItem item) ∧ List.Forall₂ IsPadded items padded
      ∧ fields (listed padded) = items ∧ commaPlaces 0 body = [2, 11, 12]
      ∧ fields body = ["a)".toList, "(b, c)".toList, "d(,".toList] := by
  intro items padded body
  have hitems : ∀ item ∈ items, IsItem item := by decide
  have hpadded : List.Forall₂ IsPadded items padded :=
    .cons ⟨[], " \t".toList, by decide, by decide, rfl⟩
      (.cons ⟨[], [], by decide, by decide, rfl⟩
        (.cons ⟨"  ".toList, [], by decide, by decide, rfl⟩ .nil))
  have hplaces : commaPlaces 0 body = [2, 11, 12] := by decide
  obtain ⟨hback, hfields, -⟩ := fields_exact hitems hpadded body
  exact ⟨hitems, hpadded, hback, hplaces, hfields.trans (by rw [hplaces]; decide)⟩

end Ddl

end Schemata
