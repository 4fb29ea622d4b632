import Schemata.Ddl.Reader
import Schemata.Proofs.PartDecoding

/-! # Names that keep to their quotes

A double quote inside a name is written as it is. So a name that holds one can end its own quotes,
and only such a name can. A list of names is more robust, because behind the quote at the end of a
name a comma, a blank and another quote must follow: as long as no name holds these four characters,
the last of which may be the quote behind it, two lists with the same text are the same list. These
are all the names for which this can be said; with any other name, some two lists have one text. -/

namespace Schemata

/-! ## The first place of a word -/

/-- A text that holds a word holds it at a first place: the word does not start earlier. -/
theorem Text.exists_first_place {word cs : List Char} (hne : word ≠ []) (h : word <:+: cs) :
    ∃ front back, cs = front ++ word ++ back ∧ ¬ word <:+: front ++ word.dropLast := by
  induction cs with
  | nil => exact absurd (List.infix_nil.1 h) hne
  | cons c cs ih =>
      by_cases hstart : word <+: c :: cs
      · -- There is nothing in front of the word but a part of the word that is too short.
        obtain ⟨back, hback⟩ := hstart
        refine ⟨[], back, hback.symm, fun hin => ?_⟩
        have hlength := hin.length_le
        have hpositive := List.length_pos_iff.2 hne
        simp at hlength
        omega
      · obtain ⟨front, back, rfl, hfront⟩ := ih ((List.infix_cons_iff.1 h).resolve_left hstart)
        refine ⟨c :: front, back, rfl, fun hin => ?_⟩
        rw [List.cons_append, List.infix_cons_iff] at hin
        refine hin.elim (fun hword => hstart (hword.trans ?_)) hfront
        rw [List.append_assoc]
        exact (List.prefix_append_right_inj (c :: front)).2
          ((List.dropLast_prefix word).trans (List.prefix_append word back))

namespace Naming

/-! ## Names that are told apart in a list -/

/-- What stands between two names in a list, with the quotes on both sides. -/
def joint : List Char := ['"', ',', ' ', '"']

/-- Whether a name can be told in a list: what stands between two names is not in it, nor does its
end look like this once the quote behind the name is added. -/
def IsEnclosed (name : String) : Prop := ¬ joint <:+: name.toList ++ ['"']

instance (name : String) : Decidable (IsEnclosed name) := inferInstanceAs (Decidable (¬ _))

/-- What stands in front of the first place that looks like the end of a name can be told in a
list. -/
theorem isEnclosed_ofList {front : List Char} (h : ¬ joint <:+: front ++ joint.dropLast) :
    IsEnclosed (String.ofList front) := by
  refine fun hin => h (hin.trans (List.IsPrefix.isInfix ?_))
  rw [String.toList_ofList]
  exact (List.prefix_append_right_inj front).2 (by decide)

end Naming

open Naming

namespace Ddl

/-- A name of a list with its closing quote and the names behind it. -/
theorem quotedList_cons_eq (name : String) (names : List String) :
    quotedList (name :: names) = '"' :: (name.toList ++ '"' :: laterNames names) := by
  simp [quotedList_cons, quoted, laterNames]

/-- The names of a list behind another name. -/
theorem laterNames_cons (name : String) (names : List String) :
    laterNames (name :: names) = [',', ' '] ++ quotedList (name :: names) := by
  simp [quotedList_cons_eq, laterNames, quoted]

/-- A quote with names behind it starts what stands between two names. -/
theorem joint_prefix_laterNames {names : List String} (h : names ≠ []) :
    joint <+: '"' :: laterNames names := by
  cases names with
  | nil => exact absurd rfl h
  | cons name names =>
      exact ⟨name.toList ++ '"' :: laterNames names, by simp [laterNames, quoted, joint]⟩

/-- What lies between the quote that ends a name and a later quote looks like the end of a name. -/
theorem joint_infix_of_laterNames {names : List String} {more rest : List Char} (hmore : more ≠ [])
    (h : '"' :: laterNames names = more ++ '"' :: rest) : joint <:+: more ++ ['"'] := by
  have hnames : names ≠ [] := by
    rintro rfl
    cases more with
    | nil => exact hmore rfl
    | cons c more => simp [laterNames] at h
  have hjoint : joint <+: (more ++ ['"']) ++ rest := by
    have hstart := joint_prefix_laterNames hnames
    rw [h] at hstart
    simpa using hstart
  -- Either the joint ends before the later quote does, or it reaches beyond.
  rcases List.prefix_or_prefix_of_prefix hjoint (List.prefix_append _ rest) with hin | hout
  · exact hin.isInfix
  · -- Behind its first character, the joint has no quote but its last character.
    obtain ⟨tail, htail⟩ := hout
    rcases more with _ | ⟨_, _ | ⟨_, _ | ⟨_, more⟩⟩⟩
    · exact absurd rfl hmore
    · simp [joint] at htail
    · simp [joint] at htail
    · have hend : more = [] ∧ tail = [] := by
        have hlength := congrArg List.length htail
        simp only [joint, List.length_append, List.length_cons, List.length_nil] at hlength
        exact ⟨List.length_eq_zero_iff.1 (by omega), List.length_eq_zero_iff.1 (by omega)⟩
      obtain ⟨rfl, rfl⟩ := hend
      exact ⟨[], [], by simpa using htail.symm⟩

/-- Of two names that can be told, with names behind them, each ends where the other does. -/
theorem isEnclosed_append_inj {a b : String} {as bs : List String} (ha : IsEnclosed a)
    (hb : IsEnclosed b)
    (h : a.toList ++ '"' :: laterNames as = b.toList ++ '"' :: laterNames bs) :
    a = b ∧ laterNames as = laterNames bs := by
  -- If one of the names went on where the other ends, it would hold the joint.
  have hexact : ∀ {x y : String} {xs ys : List String} {more : List Char}, IsEnclosed y →
      y.toList = x.toList ++ more → '"' :: laterNames xs = more ++ '"' :: laterNames ys →
      more = [] := by
    intro x y xs ys more hy hsplit hlater
    refine Classical.byContradiction fun hmore => hy ?_
    rw [hsplit, List.append_assoc]
    exact (joint_infix_of_laterNames hmore hlater).trans (List.suffix_append _ _).isInfix
  rcases List.append_eq_append_iff.1 h with ⟨more, hsplit, hlater⟩ | ⟨more, hsplit, hlater⟩
  · obtain rfl := hexact hb hsplit hlater
    rw [List.append_nil] at hsplit
    exact ⟨String.toList_injective hsplit.symm, (List.cons.inj hlater).2⟩
  · obtain rfl := hexact ha hsplit hlater
    rw [List.append_nil] at hsplit
    exact ⟨String.toList_injective hsplit, (List.cons.inj hlater).2.symm⟩

/-- Lists of names that can be told, behind another name, are equal if their texts are. -/
theorem laterNames_inj {as bs : List String} (ha : ∀ name ∈ as, IsEnclosed name)
    (hb : ∀ name ∈ bs, IsEnclosed name) (h : laterNames as = laterNames bs) : as = bs := by
  induction as generalizing bs with
  | nil =>
      cases bs with
      | nil => rfl
      | cons b bs => simp [laterNames] at h
  | cons a as ih =>
      cases bs with
      | nil => simp [laterNames] at h
      | cons b bs =>
          obtain ⟨ha, has⟩ := List.forall_mem_cons.1 ha
          obtain ⟨hb, hbs⟩ := List.forall_mem_cons.1 hb
          have hnames : a.toList ++ '"' :: laterNames as = b.toList ++ '"' :: laterNames bs := by
            simpa [laterNames, quoted] using h
          obtain ⟨rfl, hlater⟩ := isEnclosed_append_inj ha hb hnames
          rw [ih has hbs hlater]

/-- Lists of names that can be told are equal if their texts are. -/
theorem quotedList_inj {as bs : List String} (ha : ∀ name ∈ as, IsEnclosed name)
    (hb : ∀ name ∈ bs, IsEnclosed name) (h : quotedList as = quotedList bs) : as = bs := by
  refine laterNames_inj ha hb ?_
  cases as with
  | nil =>
      cases bs with
      | nil => rfl
      | cons b bs => simp [quotedList_cons_eq] at h
  | cons a as =>
      cases bs with
      | nil => simp [quotedList_cons_eq] at h
      | cons b bs => rw [laterNames_cons, laterNames_cons, h]

/-! ## Names that are not told apart in a list -/

/-- Every name, by itself or with an empty name behind it, is written as some list of names that can
be told is. -/
theorem exists_quotedList_eq (cs : List Char) : ∃ more names : List String,
    (∀ name ∈ more ++ names, IsEnclosed name)
      ∧ quotedList (String.ofList cs :: more) = quotedList names := by
  by_cases henclosed : IsEnclosed (String.ofList cs)
  · exact ⟨[], [String.ofList cs], by simpa using henclosed, rfl⟩
  · rw [IsEnclosed, String.toList_ofList, Classical.not_not] at henclosed
    obtain ⟨front, back, hsplit, hfront⟩ := Text.exists_first_place (by decide) henclosed
    have hfirst : IsEnclosed (String.ofList front) := isEnclosed_ofList hfront
    rcases List.eq_nil_or_concat back with rfl | ⟨back, c, rfl⟩
    · -- The name ends like another one: its closing quote opens the next name.
      have hcs : cs = front ++ ['"', ',', ' '] := by
        have hquote : cs ++ ['"'] = (front ++ ['"', ',', ' ']) ++ ['"'] := by
          simpa [joint] using hsplit
        exact List.append_cancel_right hquote
      refine ⟨[""], [String.ofList front, ", \""], ?_, ?_⟩
      · simp only [List.singleton_append, List.forall_mem_cons, List.not_mem_nil]
        exact ⟨by decide, hfirst, by decide, by simp⟩
      · simp [quotedList_cons_eq, laterNames, quoted, hcs]
    · -- The name goes on behind the joint with what is a shorter name.
      obtain ⟨hcs, hc⟩ : cs = front ++ joint ++ back ∧ c = '"' := by
        rw [List.concat_eq_append, ← List.append_assoc] at hsplit
        obtain ⟨hcs, hlast⟩ := List.append_inj' hsplit rfl
        exact ⟨hcs, (List.cons.inj hlast).1.symm⟩
      have hshorter : back.length < cs.length := by
        simp only [hcs, joint, List.length_append, List.length_cons]
        omega
      obtain ⟨more, names, hmembers, htext⟩ := exists_quotedList_eq back
      cases names with
      | nil => simp [quotedList_cons_eq] at htext
      | cons name names =>
          refine ⟨more, String.ofList front :: name :: names, ?_, ?_⟩
          · rw [List.forall_mem_append] at hmembers ⊢
            exact ⟨hmembers.1, List.forall_mem_cons.2 ⟨hfirst, hmembers.2⟩⟩
          · rw [quotedList_cons_cons, ← htext]
            simp [quotedList_cons_eq, hcs, quoted, joint]
termination_by cs.length

end Ddl

/-! ## Quotes -/

namespace Naming

/-- A name can end its own quotes exactly when it holds one. -/
theorem exists_quote_append_iff (name : String) :
    (∃ inner rest, rest ≠ "" ∧ quote name = quote inner ++ rest) ↔ '"' ∈ name.toList := by
  constructor
  · rintro ⟨inner, rest, hrest, h⟩
    have htext : name.toList ++ ['"'] = inner.toList ++ '"' :: rest.toList := by
      simpa [quoted] using congrArg String.toList h
    rcases List.eq_nil_or_concat rest.toList with hnil | ⟨front, c, hconcat⟩
    · exact absurd (String.toList_eq_nil_iff.1 hnil) hrest
    · rw [hconcat, List.concat_eq_append, ← List.cons_append, ← List.append_assoc] at htext
      rw [(List.append_inj' htext rfl).1]
      simp
  · intro h
    obtain ⟨front, back, hsplit⟩ := List.append_of_mem h
    refine ⟨String.ofList front, String.ofList (back ++ ['"']), by simp, ?_⟩
    refine String.toList_injective ?_
    simp [quoted, hsplit]

/-- **Names keep to their quotes** as far as they hold none. Lists of names that can be told in a
list are equal if their texts are, and with any other name some two lists have one text. The empty
name can be told, and where the other name begins with what stands between two names, it is in one
of the two lists. A name can end its own quotes exactly when it holds one; of two texts that start
with quoted names without quotes, the names are equal if the texts are, and so is what follows. -/
theorem quoteList_unambiguous :
    (∀ xs ys : List String, (∀ name ∈ xs ++ ys, IsEnclosed name) →
        quoteList xs = quoteList ys → xs = ys)
      ∧ (∀ name, ¬ IsEnclosed name → ∃ xs ys : List String,
        (∀ other ∈ xs ++ ys, other = name ∨ IsEnclosed other) ∧ xs ≠ ys
          ∧ quoteList xs = quoteList ys)
      ∧ (∀ name, (∃ inner rest, rest ≠ "" ∧ quote name = quote inner ++ rest)
        ↔ '"' ∈ name.toList)
      ∧ ∀ a b rest rest' : String, '"' ∉ a.toList → '"' ∉ b.toList →
        quote a ++ rest = quote b ++ rest' → a = b ∧ rest = rest' := by
  refine ⟨fun xs ys hnames h => ?_, fun name hname => ?_, exists_quote_append_iff,
    fun a b rest rest' ha hb h => ?_⟩
  · obtain ⟨hxs, hys⟩ := List.forall_mem_append.1 hnames
    exact Ddl.quotedList_inj hxs hys (by simpa using congrArg String.toList h)
  · obtain ⟨more, names, hmembers, h⟩ := Ddl.exists_quotedList_eq name.toList
    rw [String.ofList_toList] at h
    obtain ⟨hmore, hnames⟩ := List.forall_mem_append.1 hmembers
    refine ⟨name :: more, names, ?_, ?_, String.toList_injective (by simpa using h)⟩
    · intro other hother
      rcases List.mem_append.1 hother with hother | hother
      · exact (List.mem_cons.1 hother).imp_right (hmore other)
      · exact .inr (hnames other hother)
    · rintro rfl
      exact hname (hnames name List.mem_cons_self)
  · have htext : quoted a ++ rest.toList = quoted b ++ rest'.toList := by
      simpa using congrArg String.toList h
    obtain ⟨hname, hrest⟩ := Ddl.quoted_append_inj ha hb htext
    exact ⟨hname, String.toList_injective hrest⟩

/-- Names that hold quotes, commas and blanks may stand in a list, as long as they do not hold what
stands between two names. -/
theorem quoteList_unambiguous_marks :
    IsEnclosed "a\"," ∧ IsEnclosed ", \"b" ∧ quoteList ["a\",", ", \"b"] ≠ quoteList ["a", "b"]
      ∧ ¬ IsEnclosed "a\", "
      ∧ (∃ xs ys : List String, (∀ other ∈ xs ++ ys, other = "a\", " ∨ IsEnclosed other)
        ∧ xs ≠ ys ∧ quoteList xs = quoteList ys)
      ∧ ∀ rest rest', quote "a, b" ++ rest ≠ quote "a" ++ rest' := by
  obtain ⟨hlists, hothers, -, hquotes⟩ := quoteList_unambiguous
  have hended : ¬ IsEnclosed "a\", " := by decide
  exact ⟨by decide, by decide, fun h => absurd (hlists _ _ (by decide) h) (by decide), hended,
    hothers _ hended,
    fun rest rest' h => absurd (hquotes _ _ _ _ (by decide) (by decide) h).1 (by decide)⟩

/-- The reader takes another name from a column in backticks: by itself it has the text of a list of
two names. -/
theorem quoteList_eq_of_read :
    (Ddl.Reader.text ⟨"depot", "public"⟩ "create table t (\x60a(\", \")b\x60 int)").toOption.map
        (fun db => db.tables.toList.map Table.columnNames) = some [["a(\", \")b"]]
      ∧ (∀ name ∈ ["a(\", \")b", "a(", ")b"], Text.isBlank name = false)
      ∧ quoteList ["a(\", \")b"] = quoteList ["a(", ")b"] ∧ ["a(\", \")b"] ≠ ["a(", ")b"] := by
  decide +kernel

end Naming

end Schemata
