import Schemata.Proofs.KeyFields
import Schemata.Proofs.ScriptReading
import Schemata.Proofs.Translation

/-! # Types with numbers in parentheses

A type of another dialect is translated by the first rule of a table of which a word occurs in it.
For the words of text types, a length behind the word counts as far as it fits 32 bits; for the word
`number`, precision and scale behind it decide which number it is. The words may be written in any
letter case, and the numbers with blanks around them. -/

namespace Schemata.Ddl

/-! ## The table of rules -/

/-- A rule: the words that it is for, and what a type with one of them is translated to. -/
structure Rule where
  /-- The words. -/
  words : List String
  /-- The type that the rule gives. -/
  type : List Char → ColumnType

/-- The rule for numbers with a precision and a scale. -/
def numberRule : Rule := ⟨["number"], numberType⟩

/-- The rule for texts with a length. -/
def textRule : Rule := ⟨["char"], fun cs => .ofLength (textLength cs)⟩

/-- The rules that come before that for numbers. -/
def rulesBeforeNumber : List Rule := [
  ⟨["int"], fun _ => .bigint⟩, ⟨["rowversion"], fun _ => .int⟩,
  ⟨["uniqueidentifier"], fun _ => .ofLength 0⟩, ⟨["serial"], fun _ => .int⟩,
  ⟨["bit"], fun _ => .bool⟩, ⟨["blob", "binary"], fun _ => .unknown⟩]

/-- The rules between that for numbers and that for texts. -/
def rulesBeforeText : List Rule := [
  ⟨["decimal", "numeric", "float", "double", "money", "real"], fun _ => .double⟩,
  ⟨["datetime", "timestamp"], fun _ => .datetime⟩, ⟨["time"], fun _ => .time⟩,
  ⟨["date"], fun _ => .date⟩, ⟨["bool"], fun _ => .bool⟩, ⟨["text"], fun _ => .ofLength 0⟩]

/-- The rules in their order. -/
def rules : List Rule := rulesBeforeNumber ++ numberRule :: (rulesBeforeText ++ [textRule])

/-- The type that the first rule gives of which a word occurs. -/
def byFirst (cs : List Char) : List Rule → ColumnType
  | [] => .unknown
  | rule :: rest =>
      if rule.words.any fun word => Text.occurs word.toList cs then rule.type cs
      else byFirst cs rest

/-- A word is translated by the first rule of the table. -/
theorem translateWord_eq_byFirst (cs : List Char) : translateWord cs = byFirst cs rules := by
  simp only [translateWord, rules, rulesBeforeNumber, numberRule, rulesBeforeText, textRule,
    List.cons_append, List.nil_append, byFirst, List.any_cons, List.any_nil, Bool.or_false,
    Bool.or_assoc]

/-- A rule counts when no word of the rules before it occurs, and one of its own does. -/
theorem byFirst_append {cs : List Char} {front back : List Rule} {rule : Rule} {word : String}
    (hfront : ∀ other ∈ front, ∀ w ∈ other.words, ¬ w.toList <:+: cs) (hword : word ∈ rule.words)
    (hoccurs : word.toList <:+: cs) : byFirst cs (front ++ rule :: back) = rule.type cs := by
  -- On the rules before it: each of them is passed over.
  induction front with
  | nil =>
      have hany : (rule.words.any fun w => Text.occurs w.toList cs) = true :=
        List.any_eq_true.2 ⟨word, hword, (Text.occurs_iff _ _).2 hoccurs⟩
      rw [List.nil_append, byFirst, if_pos hany]
  | cons other front ih =>
      have hnone : ¬ (other.words.any fun w => Text.occurs w.toList cs) = true := by
        intro hany
        obtain ⟨w, hw, hin⟩ := List.any_eq_true.1 hany
        exact hfront other List.mem_cons_self w hw ((Text.occurs_iff _ _).1 hin)
      rw [List.cons_append, byFirst, if_neg hnone]
      exact ih fun r hr => hfront r (List.mem_cons_of_mem _ hr)

/-- A rule counts for a text with one of its words when every word of the rules before it has a
character that the text cannot have. -/
theorem translateWord_of_rule (chars : List Char) (front : List Rule) (rule : Rule)
    (back : List Rule) (word : String) {cs : List Char} (hrules : rules = front ++ rule :: back)
    (hcs : ∀ c ∈ cs, c ∈ chars)
    (hfront : ∀ other ∈ front, ∀ w ∈ other.words, ¬ ∀ c ∈ w.toList, c ∈ chars)
    (hword : word ∈ rule.words) (hoccurs : word.toList <:+: cs) :
    translateWord cs = rule.type cs := by
  rw [translateWord_eq_byFirst, hrules]
  refine byFirst_append (fun other hother w hw hin => ?_) hword hoccurs
  exact hfront other hother w hw fun c hc => hcs c (hin.subset hc)

/-! ## Numbers in plain decimal -/

/-- A number in plain decimal is read if it is not too large. -/
theorem number?_toString (n : Nat) :
    number? (toString n).toList = if n ≤ maxNumber then some n else none := by
  have hdigits : (toString n).toList = Nat.toDigits 10 n := Nat.toList_repr
  have hne : (Nat.toDigits 10 n).isEmpty = false := by
    rw [List.isEmpty_eq_false_iff]
    exact Nat.toDigits_ne_nil
  have hall : (Nat.toDigits 10 n).all Char.isDigit = true :=
    List.all_eq_true.2 fun c hc => Nat.isDigit_of_mem_toDigits (by decide) (by decide) hc
  -- The value is added up as the library reads digits.
  have hvalue : (Nat.toDigits 10 n).foldl (fun n d => 10 * n + (d.toNat - 48)) 0 = n := by
    have hread : Nat.ofDigitChars 10 (Nat.toDigits 10 n) 0 = n := Nat.ofDigitChars_ten_toDigits
    rwa [Nat.ofDigitChars_eq_foldl] at hread
  rw [hdigits, number?, hne, hall, hvalue]
  rfl

/-- A number in plain decimal has no sign before it. -/
theorem signedNumber?_toString (n : Nat) :
    signedNumber? (toString n).toList = if n ≤ maxNumber then some n else none := by
  have hplus : '+' ∉ (toString n).toList := by
    intro hmem
    have hdecimal : '+' ∉ decimals := by decide
    exact hdecimal (mem_decimals_of_mem_toString hmem)
  rw [← number?_toString]
  unfold signedNumber?
  split
  · rename_i digits hdigits
    rw [hdigits] at hplus
    exact absurd List.mem_cons_self hplus
  · rfl

/-- Only zero is written with a single zero. -/
theorem toString_eq_zero_iff (n : Nat) : (toString n).toList = ['0'] ↔ n = 0 := by
  constructor
  · intro h
    have hvalue := number?_toString n
    rw [h, show number? ['0'] = some 0 by decide] at hvalue
    split at hvalue
    · exact (Option.some.inj hvalue).symm
    · cases hvalue
  · rintro rfl
    rfl

/-- A number with blanks around it. -/
structure Argument where
  /-- The number. -/
  number : Nat
  /-- How many blanks stand before it. -/
  before : Nat
  /-- How many blanks stand behind it. -/
  behind : Nat

namespace Argument

variable (a : Argument)

/-- The text of a number with its blanks. -/
def text : List Char :=
  List.replicate a.before ' ' ++ (toString a.number).toList ++ List.replicate a.behind ' '

/-- The characters of a number with its blanks. -/
theorem mem_text {c : Char} (h : c ∈ a.text) : c ∈ ' ' :: decimals := by
  simp only [text, List.mem_append, List.mem_replicate] at h
  rcases h with (⟨-, rfl⟩ | h) | ⟨-, rfl⟩
  · exact List.mem_cons_self
  · exact List.mem_cons_of_mem _ (mem_decimals_of_mem_toString h)
  · exact List.mem_cons_self

/-- The blanks are trimmed away. -/
theorem trim_text : Text.trim a.text = (toString a.number).toList := by
  have hblank : ∀ n, ∀ c ∈ List.replicate n ' ', Text.isWhite c = true := by
    intro n c hc
    obtain rfl := (List.mem_replicate.1 hc).2
    decide
  have hdecimal : ∀ c ∈ decimals, Text.isWhite c = false := by decide
  refine Text.trim_append (hblank _) (hblank _) (fun c hc => ?_) (fun c hc => ?_)
  · exact hdecimal c (mem_decimals_of_mem_toString (List.mem_of_head? hc))
  · exact hdecimal c (mem_decimals_of_mem_toString (List.mem_of_getLast? hc))

/-- The digits are those of the number. -/
theorem filter_text : a.text.filter Char.isDigit = (toString a.number).toList := by
  have hblank : ∀ n, (List.replicate n ' ').filter Char.isDigit = [] := by
    intro n
    rw [List.filter_eq_nil_iff]
    intro c hc
    obtain rfl := (List.mem_replicate.1 hc).2
    decide
  have hdigits : (toString a.number).toList.filter Char.isDigit = (toString a.number).toList := by
    have hdecimal : ∀ c ∈ decimals, c.isDigit = true := by decide
    rw [List.filter_eq_self]
    exact fun c hc => hdecimal c (mem_decimals_of_mem_toString hc)
  rw [text, List.filter_append, List.filter_append, hblank, hblank, hdigits, List.nil_append,
    List.append_nil]

end Argument

/-! ## Words with something in parentheses -/

/-- A word with something in parentheses behind it. -/
def withArguments (word inner : List Char) : List Char := word ++ ('(' :: inner ++ [')'])

/-- What may stand in the parentheses: numbers with their blanks, and commas. -/
def argumentChars : List Char := ',' :: ' ' :: decimals

section Words

variable {word inner : List Char}

/-- The characters of a word with something in parentheses. -/
theorem forall_mem_withArguments {P : Char → Prop} (hword : ∀ c ∈ word, P c)
    (hinner : ∀ c ∈ inner, P c) (hmarks : ∀ c ∈ ['(', ')'], P c) :
    ∀ c ∈ withArguments word inner, P c := by
  intro c hc
  simp only [withArguments, List.mem_append, List.mem_cons, List.not_mem_nil, or_false] at hc
  rcases hc with hc | (rfl | hc) | rfl
  · exact hword c hc
  · exact hmarks _ (by simp)
  · exact hinner c hc
  · exact hmarks _ (by simp)

/-- The word that decides goes to the closing parenthesis. -/
theorem firstWord_withArguments (hword : ')' ∉ word) (hinner : ')' ∉ inner) :
    firstWord (withArguments word inner) = withArguments word inner := by
  have hbefore : ∀ c ∈ word ++ '(' :: inner, (c == ')') = false :=
    Text.forall_beq_iff.2 (by simp [hword, hinner])
  have hcut := Text.cutAt?_append (p := (· == ')')) hbefore (beq_self_eq_true ')') []
  have hsplit : withArguments word inner = (word ++ '(' :: inner) ++ [')'] := by
    simp [withArguments]
  rw [hsplit, firstWord, hcut]

/-- The argument is what stands in the parentheses. -/
theorem argument?_withArguments (hword : '(' ∉ word) (hinner : ')' ∉ inner) :
    argument? (withArguments word inner) = some inner := by
  have hopen := Text.cutAt?_append (p := (· == '(')) (Text.forall_beq_iff.2 hword)
    (beq_self_eq_true '(') (inner ++ [')'])
  have hclose := Text.cutAt?_append (p := (· == ')')) (Text.forall_beq_iff.2 hinner)
    (beq_self_eq_true ')') []
  rw [withArguments, List.cons_append, argument?, hopen]
  simp [hclose]

/-- A word in any letter case, with numbers behind it, is translated as it is in lower case. -/
theorem translate_withArguments {text : List Char} (htext : text.map Char.toLower = word)
    (hword : ∀ c ∈ word, c.toNat < 0x80 ∧ c ≠ ')') (hinner : ∀ c ∈ inner, c ∈ argumentChars) :
    translate (withArguments text inner) = translateWord (withArguments word inner) := by
  have hchars : ∀ c ∈ argumentChars, c.toLower = c ∧ c.toNat < 0x80 ∧ c ≠ ')' := by decide
  -- A parenthesis is its own lower case, so the word has none in any letter case.
  have hclose : ')' ∉ text := by
    intro hmem
    have himage : Char.toLower ')' ∈ word := htext ▸ List.mem_map_of_mem hmem
    exact (hword _ himage).2 rfl
  have hkept : inner.map Char.toLower = inner := by
    conv => rhs; rw [← List.map_id inner]
    exact List.map_congr_left fun c hc => (hchars c (hinner c hc)).1
  have hmap : (withArguments text inner).map Char.toLower = withArguments word inner := by
    simp only [withArguments, List.map_append, List.map_cons, htext, hkept]
    rfl
  have hascii : ∀ c ∈ withArguments word inner, c.toNat < 0x80 :=
    forall_mem_withArguments (fun c hc => (hword c hc).1)
      (fun c hc => (hchars c (hinner c hc)).2.1) (by decide)
  rw [translate, firstWord_withArguments hclose fun hmem => (hchars _ (hinner _ hmem)).2.2 rfl,
    Text.lower_of_map_toLower hmap hascii]

end Words

/-! ## Texts of a length -/

/-- The words of the types of texts that have a length. -/
def lengthWords : List String := ["char", "nchar", "varchar", "nvarchar", "varchar2"]

/-- The text of a text type with a length. -/
def lengthText (n : Nat) : String := "VARCHAR(" ++ toString n ++ ")"

/-- A text type of a length has that text. -/
theorem text_ofLength (n : Nat) : (ColumnType.ofLength n).text = lengthText n := by
  rw [← String.toList_inj]
  simp [ColumnType.ofLength, ColumnType.text, ColumnType.varcharWord, lengthText]

/-- The length in an argument that is a number: the number, or zero if it is too large. -/
theorem textLength_of_argument {cs : List Char} (a : Argument) (h : argument? cs = some a.text) :
    textLength cs = if a.number ≤ maxNumber then a.number else 0 := by
  rw [textLength, h, Option.bind_some, a.filter_text, number?_toString]
  by_cases hfits : a.number ≤ maxNumber
  · rw [if_pos hfits, if_pos hfits, Option.getD_some]
  · rw [if_neg hfits, if_neg hfits, Option.getD_none]

/-- A word of text types with a number behind it is a text of that length, or of length zero where
the number is too large. -/
theorem translate_length {word : String} (hword : word ∈ lengthWords) {text : List Char}
    (htext : text.map Char.toLower = word.toList) (a : Argument) :
    translate (withArguments text a.text)
      = .ofLength (if a.number ≤ maxNumber then a.number else 0) := by
  have hchars : ∀ w ∈ lengthWords, ∀ c ∈ w.toList,
      c.toNat < 0x80 ∧ c ≠ ')' ∧ c ≠ '(' ∧ c ∈ "nvarch2".toList := by decide +kernel
  have hwithin : ∀ w ∈ lengthWords, "char".toList <:+: w.toList := by decide +kernel
  specialize hchars word hword
  have hblank : ∀ c ∈ ' ' :: decimals, c ∈ argumentChars ∧ c ≠ ')' := by decide
  have hinner : ∀ c ∈ a.text, c ∈ argumentChars := fun c hc => (hblank c (a.mem_text hc)).1
  -- No word of an earlier rule is made of these characters.
  have hrule : translateWord (withArguments word.toList a.text)
      = .ofLength (textLength (withArguments word.toList a.text)) := by
    apply translateWord_of_rule ("nvarch2()".toList ++ argumentChars)
      (rulesBeforeNumber ++ numberRule :: rulesBeforeText) textRule [] "char" rfl
    · refine forall_mem_withArguments (fun c hc => ?_) (fun c hc => ?_) (by decide)
      · have hmem : ∀ d ∈ "nvarch2".toList, d ∈ "nvarch2()".toList ++ argumentChars := by decide
        exact hmem c (hchars c hc).2.2.2
      · exact List.mem_append_right _ (hinner c hc)
    · decide +kernel
    · exact List.mem_singleton_self _
    · exact (hwithin word hword).trans (List.infix_append' [] _ _)
  have hargument : argument? (withArguments word.toList a.text) = some a.text :=
    argument?_withArguments (fun hc => (hchars _ hc).2.2.1 rfl)
      fun hc => (hblank _ (a.mem_text hc)).2 rfl
  rw [translate_withArguments htext (fun c hc => ⟨(hchars c hc).1, (hchars c hc).2.1⟩) hinner,
    hrule, textLength_of_argument a hargument]

/-! ## Numbers with a precision and a scale -/

/-- The type of a number with a precision and a scale: a fraction unless the scale is zero, and else
small up to nine digits. -/
theorem numberType_of_argument {cs : List Char} (precision scale : Argument)
    (h : argument? cs = some (precision.text ++ ',' :: scale.text)) :
    numberType cs
      = if scale.number ≠ 0 then .double else if precision.number ≤ 9 then .int else .bigint := by
  have hcomma : ',' ∉ precision.text := by
    intro hmem
    have hblank : ',' ∉ ' ' :: decimals := by decide
    exact hblank (precision.mem_text hmem)
  have hcut : Text.cutAt? (· == ',') (precision.text ++ ',' :: scale.text)
      = some (precision.text, scale.text) :=
    Text.cutAt?_append (Text.forall_beq_iff.2 hcomma) (beq_self_eq_true ',') _
  rw [numberType, h]
  -- The scale is compared as a text, and the precision as a number.
  simp only [hcut, scale.trim_text, precision.trim_text, toString_eq_zero_iff,
    signedNumber?_toString]
  by_cases hscale : scale.number = 0
  · rw [if_pos hscale, if_neg (Decidable.not_not.2 hscale)]
    by_cases hfits : precision.number ≤ maxNumber
    · rw [if_pos hfits]
    · -- A precision that is too large to be read is more than nine digits.
      have hwide : ¬ precision.number ≤ 9 := by
        have hbound : 9 ≤ maxNumber := by decide
        omega
      rw [if_neg hfits, if_neg hwide]
  · rw [if_neg hscale, if_pos hscale]

/-- The word `number` in any letter case, with a precision and a scale behind it, is translated to
the type of such a number. -/
theorem translate_number {text : List Char} (htext : text.map Char.toLower = "number".toList)
    (precision scale : Argument) :
    translate (withArguments text (precision.text ++ ',' :: scale.text))
      = if scale.number ≠ 0 then .double else if precision.number ≤ 9 then .int else .bigint := by
  have hchars : ∀ c ∈ "number".toList, c.toNat < 0x80 ∧ c ≠ ')' ∧ c ≠ '(' := by decide
  have hblank : ∀ c ∈ ' ' :: decimals, c ∈ argumentChars ∧ c ≠ ')' := by decide
  have hinner : ∀ c ∈ precision.text ++ ',' :: scale.text, c ∈ argumentChars ∧ c ≠ ')' := by
    intro c hc
    rw [List.mem_append, List.mem_cons] at hc
    rcases hc with hc | rfl | hc
    · exact hblank c (precision.mem_text hc)
    · decide
    · exact hblank c (scale.mem_text hc)
  -- No word of an earlier rule is made of these characters.
  have hrule : translateWord (withArguments "number".toList (precision.text ++ ',' :: scale.text))
      = numberType (withArguments "number".toList (precision.text ++ ',' :: scale.text)) := by
    apply translateWord_of_rule ("number()".toList ++ argumentChars)
      rulesBeforeNumber numberRule (rulesBeforeText ++ [textRule]) "number" rfl
    · refine forall_mem_withArguments (by decide) (fun c hc => ?_) (by decide)
      exact List.mem_append_right _ (hinner c hc).1
    · decide +kernel
    · exact List.mem_singleton_self _
    · exact List.infix_append' [] _ _
  have hargument : argument? (withArguments "number".toList (precision.text ++ ',' :: scale.text))
      = some (precision.text ++ ',' :: scale.text) :=
    argument?_withArguments (by decide) fun hc => (hinner _ hc).2 rfl
  rw [translate_withArguments htext (fun c hc => ⟨(hchars c hc).1, (hchars c hc).2.1⟩)
    (fun c hc => (hinner c hc).1), hrule, numberType_of_argument precision scale hargument]

/-- **Numbers of any size are read.** Whatever the letter case of the words and however many blanks
stand around the numbers, the word of a text type with a number behind it is translated to a text of
that length, or of length zero if the number does not fit 32 bits; and a number with a precision and
a scale to a fraction unless the scale is zero, and else to a small or a large number as the
precision is at most nine or more, however large. -/
theorem translateText_withArguments :
    (∀ word ∈ lengthWords, ∀ text : List Char, text.map Char.toLower = word.toList →
      ∀ length : Argument, translateText (String.ofList (withArguments text length.text))
        = lengthText (if length.number ≤ maxNumber then length.number else 0))
    ∧ ∀ text : List Char, text.map Char.toLower = "number".toList → ∀ precision scale : Argument,
        translateText (String.ofList (withArguments text (precision.text ++ ',' :: scale.text)))
          = if scale.number ≠ 0 then "DOUBLE" else if precision.number ≤ 9 then "INT"
            else "BIGINT" := by
  constructor
  · intro word hword text htext length
    rw [translateText, String.toList_ofList, translate_length hword htext, text_ofLength]
  · intro text htext precision scale
    rw [translateText, String.toList_ofList, translate_number htext]
    by_cases hscale : scale.number = 0
    · by_cases hsmall : precision.number ≤ 9
      · simp [hscale, hsmall, ColumnType.text]
      · simp [hscale, hsmall, ColumnType.text]
    · simp [hscale, ColumnType.text]

/-- The largest length that fits and the next one; and precisions about nine digits, one that does
not fit, and a scale. -/
theorem translateText_withArguments_edges :
    translateText "NVarChar( 4294967295  )" = "VARCHAR(4294967295)"
      ∧ translateText "VARCHAR2(4294967296)" = "VARCHAR(0)"
      ∧ translateText "Number(9, 0)" = "INT" ∧ translateText "Number(10, 0)" = "BIGINT"
      ∧ translateText "NUMBER( 4294967296 ,0)" = "BIGINT"
      ∧ translateText "number(9,4294967296 )" = "DOUBLE" := by
  obtain ⟨hlength, hnumber⟩ := translateText_withArguments
  exact ⟨hlength "nvarchar" (by decide) "NVarChar".toList (by decide) ⟨4294967295, 1, 2⟩,
    hlength "varchar2" (by decide) "VARCHAR2".toList (by decide) ⟨4294967296, 0, 0⟩,
    hnumber "Number".toList (by decide) ⟨9, 0, 0⟩ ⟨0, 1, 0⟩,
    hnumber "Number".toList (by decide) ⟨10, 0, 0⟩ ⟨0, 1, 0⟩,
    hnumber "NUMBER".toList (by decide) ⟨4294967296, 1, 1⟩ ⟨0, 0, 0⟩,
    hnumber "number".toList (by decide) ⟨9, 0, 0⟩ ⟨4294967296, 0, 1⟩⟩

end Schemata.Ddl
