import Schemata.Naming
import Schemata.Proofs.CommentReading
import Schemata.Proofs.LetterCase

/-! # Names in a case style

A case style may write two names alike, and camel case may leave nothing of a name. Both are told
from the names alone. Every style keeps the essence of a name, so names with different essences stay
apart; and the names that become blank are those of white space and underscores in camel case, as
long as no two underscores stand side by side but at the ends. -/

namespace Schemata

namespace Naming

/-! ## Underscores at the ends -/

/-- Trimming takes underscores off the ends of a name, and no underscore is left at its start. -/
theorem exists_trimUnderscores (cs : List Char) : ∃ front back,
    cs = front ++ trimUnderscores cs ++ back ∧ (∀ c ∈ front, c = '_') ∧ (∀ c ∈ back, c = '_')
      ∧ ∀ c ∈ (trimUnderscores cs).head?, c ≠ '_' := by
  obtain ⟨front, rest, back, hrest, hsplit, hfront, hback, hhead, -⟩ :=
    Text.exists_trimmed (· == '_') cs
  subst hrest
  exact ⟨front, back, hsplit, fun c hc => beq_iff_eq.1 (hfront c hc),
    fun c hc => beq_iff_eq.1 (hback c hc), fun c hc => beq_eq_false_iff_ne.1 (hhead c hc)⟩

/-! ## Names of which nothing is left -/

/-- Whether nothing but white space is left of a name in camel case: it holds white space and
underscores only, and no two underscores stand side by side but at its ends. -/
def IsHollow (cs : List Char) : Prop :=
  (∀ c ∈ cs, Text.isWhite c = true ∨ c = '_') ∧ ¬ ['_', '_'] <:+: trimUnderscores cs

instance (cs : List Char) : Decidable (IsHollow cs) := inferInstanceAs (Decidable (_ ∧ _))

/-- The underscore has no capital. -/
theorem upperChar_underscore : Text.upperChar '_' = ['_'] := by decide

/-- What camel case makes of the rest of a name is white space when the name holds nothing but white
space and underscores, and no two underscores side by side. -/
theorem all_isWhite_camelRest (cs : List Char) : (camelRest cs).all Text.isWhite = true ↔
    (∀ c ∈ cs, Text.isWhite c = true ∨ c = '_') ∧ ¬ ['_', '_'] <:+: cs := by
  have hunderscore : Text.isWhite '_' = false := by decide
  have hsingle : ∀ c, ¬ ['_', '_'] <:+: [c] := fun c h => by simpa using h.length_le
  fun_induction camelRest cs with
  | case1 => simp
  | case2 => simp [hsingle]
  | case3 c hc => simp [hc, hsingle]
  | case4 d rest ih =>
      by_cases hd : d = '_'
      · -- Of two underscores one is left.
        subst hd
        simp [upperChar_underscore, hunderscore, Text.pair_isInfix_cons_iff]
      · have hpair : ['_', '_'] <:+: '_' :: d :: rest ↔ ['_', '_'] <:+: rest := by
          simp [Text.pair_isInfix_cons_iff, hd, Ne.symm hd]
        simp [Text.all_isWhite_upperChar, ih, hpair, hd, and_assoc]
  | case5 c d rest hc ih =>
      have hpair : ['_', '_'] <:+: c :: d :: rest ↔ ['_', '_'] <:+: d :: rest := by
        simp [Text.pair_isInfix_cons_iff _ _ c, Ne.symm hc]
      simp only [List.all_cons, Bool.and_eq_true, ih, hpair, List.forall_mem_cons, hc, or_false,
        and_assoc]

/-- Nothing but white space is left of a name in camel case exactly when it is hollow. -/
theorem all_isWhite_camelChars (cs : List Char) :
    (camelChars cs).all Text.isWhite = true ↔ IsHollow cs := by
  obtain ⟨front, back, hsplit, hfront, hback, hhead⟩ := exists_trimUnderscores cs
  have hmembers : (∀ c ∈ cs, Text.isWhite c = true ∨ c = '_')
      ↔ ∀ c ∈ trimUnderscores cs, Text.isWhite c = true ∨ c = '_' := by
    constructor
    · intro h c hc
      refine h c ?_
      rw [hsplit]
      simp [hc]
    · intro h c hc
      rw [hsplit, List.mem_append, List.mem_append] at hc
      rcases hc with (hc | hc) | hc
      · exact .inr (hfront c hc)
      · exact h c hc
      · exact .inr (hback c hc)
  rw [IsHollow, hmembers, camelChars]
  cases htrim : trimUnderscores cs with
  | nil => simp
  | cons c rest =>
      have hc : c ≠ '_' := hhead c (by simp [htrim])
      have hpair : ['_', '_'] <:+: c :: rest ↔ ['_', '_'] <:+: rest := by
        simp [Text.pair_isInfix_cons_iff, Ne.symm hc]
      rw [List.all_append, Text.all_isWhite_upperChar, Bool.and_eq_true, all_isWhite_camelRest,
        hpair, List.forall_mem_cons]
      simp [hc, and_assoc]

/-! ## What is left of other names -/

/-- The characters of a name in upper case, without the underscores. -/
def core (cs : List Char) : List Char := Text.upper (cs.filter (· != '_'))

/-- The core of a name in two parts. -/
theorem core_append (cs ds : List Char) : core (cs ++ ds) = core cs ++ core ds := by
  rw [core, List.filter_append, Text.upper_append, core, core]

/-- The core of a name by its first character. -/
theorem core_cons (c : Char) (cs : List Char) : core (c :: cs) = core [c] ++ core cs :=
  core_append [c] cs

/-- Underscores have no core. -/
theorem core_eq_nil {cs : List Char} (h : ∀ c ∈ cs, c = '_') : core cs = [] := by
  have hfilter : cs.filter (· != '_') = [] := by simpa using h
  rw [core, hfilter, Text.upper_nil]

/-- A character and its capital have one core. -/
theorem core_upperChar (c : Char) : core (Text.upperChar c) = core [c] := by
  by_cases hc : c = '_'
  · rw [hc, upperChar_underscore]
  · have hkept : (Text.upperChar c).filter (· != '_') = Text.upperChar c := by
      refine List.filter_eq_self.2 fun u hu => bne_iff_ne.2 ?_
      exact fun h => hc ((Text.inForm_upperChar hu).underscore.1 h)
    have hsettled : Text.upper (Text.upperChar c) = Text.upperChar c :=
      Text.upper_eq_self fun u hu => (Text.inForm_upperChar hu).settled
    rw [core, hkept, hsettled, core]
    simp [hc]

/-- Camel case keeps the core of the rest of a name. -/
theorem core_camelRest (cs : List Char) : core (camelRest cs) = core cs := by
  have hunderscore : core ['_'] = [] := core_eq_nil (by simp)
  fun_induction camelRest cs with
  | case1 => rfl
  | case2 => exact hunderscore.symm
  | case3 => rfl
  | case4 d rest ih =>
      rw [core_append, core_upperChar, ih, core_cons '_', hunderscore, List.nil_append,
        ← core_cons d]
  | case5 c d rest _ ih => rw [core_cons, ih, core_cons c (d :: rest)]

/-- Camel case keeps the core of a name. -/
theorem core_camelChars (cs : List Char) : core (camelChars cs) = core cs := by
  obtain ⟨front, back, hsplit, hfront, hback, -⟩ := exists_trimUnderscores cs
  have htrim : core (trimUnderscores cs) = core cs := by
    conv => rhs; rw [hsplit]
    rw [core_append, core_append, core_eq_nil hfront, core_eq_nil hback, List.nil_append,
      List.append_nil]
  rw [← htrim, camelChars]
  cases trimUnderscores cs with
  | nil => rfl
  | cons c rest => rw [core_append, core_upperChar, core_camelRest, core_cons c rest]

end Naming

/-! ## Case styles -/

namespace CaseStyle

/-- What a case style keeps of a name: all of it, or all but the case of its letters, or in camel
case all but this and its underscores. -/
def essence : CaseStyle → String → String
  | .unchanged, text => text
  | .upper, text => Text.uppercase text
  | .lower, text => Text.lowercase text
  | .camel, text => String.ofList (Naming.core text.toList)

/-- The essence of a name in a case style is that of the name. -/
theorem essence_applyCase (style : CaseStyle) (defaultSchema text : String) :
    style.essence (Naming.applyCase style defaultSchema text) = style.essence text := by
  by_cases hdefault : text = defaultSchema
  · rw [hdefault, Naming.applyCase_defaultSchema]
  · unfold Naming.applyCase
    rw [if_neg hdefault]
    cases style with
    | unchanged => rfl
    | upper => exact Text.uppercase_uppercase text
    | lower => exact Text.lowercase_lowercase text
    | camel => simp [essence, Naming.toCamel, Naming.core_camelChars]

/-- Names that a case style writes alike have one essence. -/
theorem essence_eq_of_applyCase_eq {style : CaseStyle} {defaultSchema x y : String}
    (h : Naming.applyCase style defaultSchema x = Naming.applyCase style defaultSchema y) :
    style.essence x = style.essence y := by
  rw [← essence_applyCase style defaultSchema x, h, essence_applyCase]

/-- But for camel case, a style writes a name as its essence, unless it names the default schema. -/
theorem applyCase_eq_essence {style : CaseStyle} (hstyle : style ≠ .camel)
    {defaultSchema text : String} (h : text ≠ defaultSchema) :
    Naming.applyCase style defaultSchema text = style.essence text := by
  unfold Naming.applyCase
  rw [if_neg h]
  cases style with
  | camel => exact absurd rfl hstyle
  | _ => rfl

/-- But for camel case, a style writes two names alike exactly when they have one essence, and the
default schema, if it is among the two, is named by its essence. -/
theorem applyCase_eq_iff {style : CaseStyle} (hstyle : style ≠ .camel) (defaultSchema : String)
    {x y : String} (hne : x ≠ y) :
    Naming.applyCase style defaultSchema x = Naming.applyCase style defaultSchema y
      ↔ style.essence x = style.essence y
        ∧ (x = defaultSchema ∨ y = defaultSchema →
          style.essence defaultSchema = defaultSchema) := by
  -- The default schema against another name: the one is written as it is, the other as its essence.
  have hagainst : ∀ z, z ≠ defaultSchema → (defaultSchema = style.essence z
      ↔ style.essence defaultSchema = style.essence z
        ∧ style.essence defaultSchema = defaultSchema) := by
    intro z hz
    have htwice : style.essence (style.essence z) = style.essence z := by
      conv => lhs; rw [← applyCase_eq_essence hstyle hz, essence_applyCase]
    constructor
    · intro h
      have hkept : style.essence defaultSchema = style.essence z := by rw [h, htwice]
      exact ⟨hkept, hkept.trans h.symm⟩
    · rintro ⟨hsame, hown⟩
      exact hown.symm.trans hsame
  by_cases hx : x = defaultSchema
  · subst hx
    have hy : y ≠ x := Ne.symm hne
    rw [Naming.applyCase_defaultSchema, applyCase_eq_essence hstyle hy, hagainst y hy]
    simp
  · by_cases hy : y = defaultSchema
    · subst hy
      rw [Naming.applyCase_defaultSchema, applyCase_eq_essence hstyle hx, eq_comm, hagainst x hx]
      simp [eq_comm]
    · rw [applyCase_eq_essence hstyle hx, applyCase_eq_essence hstyle hy]
      simp [hx, hy]

/-- A name that is not blank becomes blank in camel case only, exactly when it is hollow, unless it
names the default schema. -/
theorem isBlank_applyCase_iff (style : CaseStyle) (defaultSchema : String) {text : String}
    (h : Text.isBlank text = false) :
    Text.isBlank (Naming.applyCase style defaultSchema text) = true
      ↔ style = .camel ∧ text ≠ defaultSchema ∧ Naming.IsHollow text.toList := by
  by_cases hdefault : text = defaultSchema
  · simp [Naming.applyCase, hdefault, hdefault ▸ h]
  · unfold Naming.applyCase
    rw [if_neg hdefault]
    cases style with
    | unchanged => simp [h]
    | upper => simp [h]
    | lower => simp [h]
    | camel =>
        rw [Text.isBlank, Naming.toCamel, String.toList_ofList, Naming.all_isWhite_camelChars]
        simp [hdefault]

end CaseStyle

end Schemata
