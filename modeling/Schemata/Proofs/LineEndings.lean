import Mathlib.Data.List.Forall2
import Schemata.Proofs.CommentReading

/-! # Line endings

A text can be given to a reader as a whole, as the lines that it has been split into, or as bytes,
of which each line is decoded by itself. A line may end in a line feed or in a carriage return and a
line feed. None of this matters: white space at the end of a line is invisible to a scanner, and the
byte of a line feed is in the encoding of no other character, so a sequence of bytes is a text
exactly when all its lines are. -/

namespace Schemata

namespace Ddl

/-! ## White space at the end of a line -/

/-- Comment marks have no white space. -/
theorem not_mem_of_isWhite {back : List Char} (h : ∀ c ∈ back, Text.isWhite c = true) :
    ∀ c ∈ ['-', '/', '*'], c ∉ back := by
  have hmarks : ∀ c ∈ ['-', '/', '*'], Text.isWhite c = false := by decide
  intro c hc hmem
  cases (hmarks c hc).symm.trans (h c hmem)

/-- A character that makes no mark with what follows it in a line makes none with white space at the
end of the line, for no mark ends in white space. -/
theorem no_mark_append {back : List Char} (h : ∀ c ∈ back, Text.isWhite c = true)
    {c first second : Char} (hsecond : second ∈ ['-', '/', '*']) {rest : List Char}
    (hnone : ∀ more, c = first → rest = second :: more → False) :
    ∀ more, c = first → rest ++ back = second :: more → False := by
  intro more hc hmore
  cases rest with
  | nil =>
      have hmem : second ∈ back := by
        rw [List.nil_append] at hmore
        exact hmore ▸ List.mem_cons_self
      exact not_mem_of_isWhite h second hsecond hmem
  | cons d rest => exact hnone rest hc (by rw [(List.cons.inj hmore).1])

/-- White space at the end of a line is kept outside comments and hidden inside them, and opens and
closes none. -/
theorem exists_sift_append (inBlock : Bool) (line : List Char) {back : List Char}
    (h : ∀ c ∈ back, Text.isWhite c = true) :
    ∃ kept, (∀ c ∈ kept, Text.isWhite c = true)
      ∧ sift inBlock (line ++ back) = ((sift inBlock line).1 ++ kept, (sift inBlock line).2) := by
  fun_induction sift inBlock line with
  | case1 inBlock =>
      have hstrip := strip_of_unmarked (not_mem_of_isWhite h '-' (by simp))
        (not_mem_of_isWhite h '/' (by simp)) (not_mem_of_isWhite h '*' (by simp)) inBlock
      rw [List.nil_append, ← strip_eq_sift, hstrip]
      cases inBlock with
      | false => exact ⟨back, h, rfl⟩
      | true => exact ⟨[], by simp, rfl⟩
  | case2 rest => exact ⟨[], by simp, rfl⟩
  | case3 rest ih =>
      obtain ⟨kept, hkept, heq⟩ := ih
      exact ⟨kept, hkept, by simp [sift, heq]⟩
  | case4 c rest hdash hstart ih =>
      obtain ⟨kept, hkept, heq⟩ := ih
      rw [List.cons_append, sift.eq_4 _ _ (no_mark_append h (by simp) hdash)
        (no_mark_append h (by simp) hstart), heq]
      exact ⟨kept, hkept, rfl⟩
  | case5 rest ih =>
      obtain ⟨kept, hkept, heq⟩ := ih
      exact ⟨kept, hkept, by simp [sift, heq]⟩
  | case6 c rest hend ih =>
      obtain ⟨kept, hkept, heq⟩ := ih
      rw [List.cons_append, sift.eq_6 _ _ (no_mark_append h (by simp) hend), heq]
      exact ⟨kept, hkept, rfl⟩

/-- White space at the end of a line is invisible to a scanner. -/
theorem Scanner.feed_append (s : Scanner) (line : List Char) {back : List Char}
    (h : ∀ c ∈ back, Text.isWhite c = true) : s.feed (line ++ back) = s.feed line := by
  obtain ⟨kept, hkept, hsift⟩ := exists_sift_append s.inBlock line h
  have hclean : clean ((sift s.inBlock line).1 ++ kept) = clean (sift s.inBlock line).1 := by
    have htrim : Text.trim ([] ++ (sift s.inBlock line).1 ++ kept)
        = Text.trim (sift s.inBlock line).1 := Text.trim_padded (by simp) hkept _
    rw [List.nil_append] at htrim
    rw [clean, htrim, clean]
  simp only [feed, strip_eq_sift, hsift, hclean]

/-! ## Line feeds with and without carriage returns -/

/-- A carriage return is white space. -/
theorem isWhite_return : ∀ c ∈ ['\r'], Text.isWhite c = true := by decide

/-- A scanner does the same with a line whether or not the carriage return at its end is there. -/
theorem Scanner.feed_chopReturn (s : Scanner) (line : List Char) :
    s.feed (Text.chopReturn line) = s.feed line := by
  unfold Text.chopReturn
  split
  · rename_i hlast
    obtain ⟨front, rfl⟩ := List.getLast?_eq_some_iff.1 hlast
    rw [List.dropLast_concat, s.feed_append front isWhite_return]
  · rfl

/-- A scanner does the same with the lines of a text and with its pieces between line feeds. -/
theorem Scanner.run_linesOfPieces (s : Scanner) (pieces : List (List Char)) :
    s.run (Text.linesOfPieces pieces) = s.run pieces := by
  induction pieces generalizing s with
  | nil => rfl
  | cons piece pieces ih =>
      cases pieces with
      | nil =>
          rw [Text.linesOfPieces]
          split
          · -- A text that ends in a line feed has an empty last piece.
            rename_i hempty
            rw [List.isEmpty_iff.1 hempty, run, run, s.feed_blank (by simp)]
            rfl
          · rfl
      | cons next pieces =>
          rw [Text.linesOfPieces]
          · simp only [run, feed_chopReturn, ih]
          · simp

/-- Whether a line is another one with white space behind it. -/
def IsExtended (extended line : List Char) : Prop :=
  ∃ back, (∀ c ∈ back, Text.isWhite c = true) ∧ extended = line ++ back

/-- A scanner does the same with lines that have white space behind them. -/
theorem Scanner.run_of_forall₂ {xs ys : List (List Char)} (h : List.Forall₂ IsExtended xs ys)
    (s : Scanner) : s.run xs = s.run ys := by
  induction h generalizing s with
  | nil => rfl
  | cons hline _ ih =>
      obtain ⟨back, hback, rfl⟩ := hline
      simp only [run, s.feed_append _ hback, ih]

/-- A text with a carriage return before every line feed. -/
def withReturns (cs : List Char) : List Char :=
  cs.flatMap fun c => if c = '\n' then ['\r', '\n'] else [c]

/-- Before every line feed, the piece of a text has a carriage return more. -/
theorem forall₂_splitOn_withReturns (cs : List Char) :
    List.Forall₂ IsExtended (Text.splitOn (· == '\n') (withReturns cs))
      (Text.splitOn (· == '\n') cs) := by
  have hsame : ∀ line, IsExtended line line := fun line => ⟨[], by simp, (List.append_nil _).symm⟩
  induction cs with
  | nil => exact .cons (hsame []) .nil
  | cons c cs ih =>
      by_cases hc : c = '\n'
      · subst hc
        exact .cons ⟨['\r'], isWhite_return, rfl⟩ ih
      · have hfeed : (c == '\n') = false := beq_eq_false_iff_ne.2 hc
        have hcons : withReturns (c :: cs) = c :: withReturns cs := by simp [withReturns, hc]
        rw [hcons, Text.splitOn, Text.splitOn, hfeed]
        generalize Text.splitOn (· == '\n') (withReturns cs) = extended at ih ⊢
        generalize Text.splitOn (· == '\n') cs = pieces at ih ⊢
        cases ih with
        | nil => exact .cons (hsame [c]) .nil
        | cons hline hlines =>
            obtain ⟨back, hback, rfl⟩ := hline
            exact .cons ⟨back, hback, rfl⟩ hlines

namespace Reader

/-- A reader makes the same of a text and of its pieces between line feeds. -/
theorem lines_splitOn (r : Reader) (cs : List Char) :
    r.lines (Text.splitOn (· == '\n') cs) = r.lines (Text.lines cs) := by
  rw [lines, statements, lines, statements, Text.lines, Scanner.run_linesOfPieces]

/-- A reader makes the same of a text with a carriage return before every line feed. -/
theorem lines_withReturns (r : Reader) (cs : List Char) :
    r.lines (Text.lines (withReturns cs)) = r.lines (Text.lines cs) := by
  rw [← lines_splitOn, ← lines_splitOn, lines, statements, lines, statements,
    Scanner.run_of_forall₂ (forall₂_splitOn_withReturns cs)]

end Reader

end Ddl

/-! ## Bytes -/

namespace Text

/-- The byte of a line feed. -/
def feedByte : UInt8 := 10

/-- The bytes of a text. -/
def encoded (cs : List Char) : List UInt8 := cs.flatMap String.utf8EncodeChar

/-- The byte of a line feed is in the encoding of no other character. -/
theorem eq_of_feedByte_mem {c : Char} (h : feedByte ∈ String.utf8EncodeChar c) : c = '\n' := by
  have hbyte : ∀ n, feedByte = UInt8.ofNat n → n % 256 = 10 := by
    intro n hn
    have hnat := congrArg UInt8.toNat hn
    simpa [feedByte] using hnat.symm
  -- All bytes of a longer encoding have the highest bit.
  have hhigh : ∀ n, 128 ≤ n → n < 256 → feedByte ≠ UInt8.ofNat n := by
    intro n hn hn' heq
    have := hbyte n heq
    omega
  rw [String.utf8EncodeChar] at h
  split at h
  · have hcode : c.val.toNat = 10 := by
      have := hbyte _ (List.mem_singleton.1 h)
      omega
    exact Char.ext (UInt32.toNat_inj.1 hcode)
  · refine absurd h ?_
    split
    · simp only [List.mem_cons, List.not_mem_nil, or_false, not_or]
      exact ⟨hhigh _ (by omega) (by omega), hhigh _ (by omega) (by omega)⟩
    · split
      · simp only [List.mem_cons, List.not_mem_nil, or_false, not_or]
        exact ⟨hhigh _ (by omega) (by omega), hhigh _ (by omega) (by omega),
          hhigh _ (by omega) (by omega)⟩
      · simp only [List.mem_cons, List.not_mem_nil, or_false, not_or]
        exact ⟨hhigh _ (by omega) (by omega), hhigh _ (by omega) (by omega),
          hhigh _ (by omega) (by omega), hhigh _ (by omega) (by omega)⟩

/-- The pieces of a text between line feeds, with line feeds between them, make the text. -/
theorem intercalate_splitOn (c : Char) (cs : List Char) :
    [c].intercalate (splitOn (· == c) cs) = cs := by
  induction cs with
  | nil => rfl
  | cons d cs ih =>
      obtain ⟨piece, pieces, hpieces⟩ := List.exists_cons_of_ne_nil (splitOn_ne_nil (· == c) cs)
      rw [hpieces] at ih
      rw [splitOn, hpieces]
      split
      · rename_i hd
        rw [List.intercalate_cons_cons, ih, eq_of_beq hd]
        rfl
      · cases pieces with
        | nil => simpa using ih
        | cons next pieces =>
            rw [List.intercalate_cons_cons] at ih ⊢
            rw [← ih]
            rfl

/-- The bytes of texts with line feeds between them are those of the texts with the byte of a line
feed between them. -/
theorem encoded_intercalate (pieces : List (List Char)) :
    encoded (['\n'].intercalate pieces) = [feedByte].intercalate (pieces.map encoded) := by
  induction pieces with
  | nil => rfl
  | cons first rest ih =>
      cases rest with
      | nil => simp
      | cons second rest =>
          have hfeed : encoded ['\n'] = [feedByte] := by decide
          rw [List.intercalate_cons_cons, List.map_cons, List.map_cons, List.intercalate_cons_cons,
            ← List.map_cons, ← ih]
          simp only [encoded, List.flatMap_append] at hfeed ⊢
          rw [hfeed]

/-- The bytes of a text split at the bytes of line feeds are those of its pieces. -/
theorem splitOn_encoded (cs : List Char) :
    (encoded cs).splitOn feedByte = (splitOn (· == '\n') cs).map encoded := by
  have hfree : ∀ bytes ∈ (splitOn (· == '\n') cs).map encoded, feedByte ∉ bytes := by
    intro bytes hbytes
    obtain ⟨piece, hpiece, rfl⟩ := List.mem_map.1 hbytes
    intro hmem
    obtain ⟨c, hc, hbyte⟩ := List.mem_flatMap.1 hmem
    have := forall_mem_of_mem_splitOn hpiece c hc
    simp [eq_of_feedByte_mem hbyte] at this
  have hne : (splitOn (· == '\n') cs).map encoded ≠ [] := by simp [splitOn_ne_nil]
  conv => lhs; rw [← intercalate_splitOn '\n' cs, encoded_intercalate]
  exact List.splitOn_intercalate feedByte hfree hne

/-- The bytes that are decoded as a text are those that encode it. -/
theorem decode?_eq_some_iff {bytes : ByteArray} {text : String} :
    decode? bytes = some text ↔ bytes.data.toList = encoded text.toList := by
  have hencoded : encoded text.toList = text.toUTF8.data.toList := by
    rw [String.toUTF8, ← String.utf8Encode_toList, List.utf8Encode, List.toList_data_toByteArray,
      encoded]
  rw [hencoded, Array.toList_inj, ← ByteArray.ext_iff]
  constructor
  · intro h
    rw [decode?, String.fromUTF8?] at h
    split at h
    · cases h
      rfl
    · cases h
  · rintro rfl
    exact decode?_toUTF8 text

/-- The texts that encode sequences of bytes, or none if one of them encodes none. -/
def decodeAll? (pieces : List (List UInt8)) : Option (List String) :=
  pieces.mapM fun piece => decode? piece.toByteArray

/-- Sequences of bytes are decoded as the texts that they encode. -/
theorem decodeAll?_eq_some_iff {pieces : List (List UInt8)} {texts : List String} :
    decodeAll? pieces = some texts ↔ pieces = texts.map fun text => encoded text.toList := by
  rw [decodeAll?]
  induction pieces generalizing texts with
  | nil => cases texts <;> simp
  | cons piece pieces ih =>
      have hpiece : ∀ text, decode? piece.toByteArray = some text
          ↔ piece = encoded text.toList := by
        intro text
        rw [decode?_eq_some_iff, List.toList_data_toByteArray]
      simp only [List.mapM_cons, Option.bind_eq_bind, Option.bind_eq_some_iff, hpiece, ih,
        Option.pure_def, Option.some.injEq]
      cases texts with
      | nil => simp
      | cons text texts => simp [eq_comm]

/-- The lines of a text that is given as bytes, each of them decoded by itself; `none` if one of
them is not UTF-8. -/
def decodeLines? (bytes : ByteArray) : Option (List (List Char)) :=
  (decodeAll? (bytes.data.toList.splitOn feedByte)).map fun texts =>
    linesOfPieces (texts.map String.toList)

/-- The lines of a text can be decoded one by one or with the text as a whole. -/
theorem decodeLines?_eq (bytes : ByteArray) :
    decodeLines? bytes = (decode? bytes).map fun text => lines text.toList := by
  cases hdecode : decode? bytes with
  | some text =>
      have hall : decodeAll? (bytes.data.toList.splitOn feedByte)
          = some ((splitOn (· == '\n') text.toList).map String.ofList) := by
        rw [decodeAll?_eq_some_iff, decode?_eq_some_iff.1 hdecode, splitOn_encoded, List.map_map]
        simp [Function.comp_def]
      rw [decodeLines?, hall, Option.map_some, List.map_map]
      simp [Function.comp_def, lines]
  | none =>
      rw [decodeLines?, Option.map_none, Option.map_eq_none_iff, Option.eq_none_iff_forall_ne_some]
      intro texts htexts
      -- Texts with line feeds between them are a text.
      have hjoined :
          bytes.data.toList = encoded (['\n'].intercalate (texts.map String.toList)) := by
        rw [encoded_intercalate, List.map_map]
        have hpieces := decodeAll?_eq_some_iff.1 htexts
        have hwhole : [feedByte].intercalate (bytes.data.toList.splitOn feedByte)
            = bytes.data.toList := List.intercalate_splitOn feedByte
        rw [← hwhole, hpieces]
        rfl
      have hsome : decode? bytes
          = some (String.ofList (['\n'].intercalate (texts.map String.toList))) := by
        rw [decode?_eq_some_iff, String.toList_ofList, hjoined]
      cases hdecode.symm.trans hsome

end Text

namespace Ddl.Reader

/-- The database of the statements in a text that is given as bytes and decoded line by line. -/
def bytesByLine (r : Reader) (bytes : ByteArray) : Except Error Database :=
  match Text.decodeLines? bytes with
  | some lines => r.lines lines
  | none => .error (.io .invalidUtf8)

/-- A reader makes the same of bytes that are decoded line by line or as a whole. -/
theorem bytesByLine_eq (r : Reader) (bytes : ByteArray) : r.bytesByLine bytes = r.bytes bytes := by
  rw [bytesByLine, Text.decodeLines?_eq, Reader.bytes]
  cases Text.decode? bytes <;> rfl

/-- Bytes that encode no text are refused, whatever the names of the reader are. -/
theorem bytes_of_not_isValidUTF8 (r : Reader) {bytes : ByteArray} (h : ¬ bytes.IsValidUTF8) :
    r.bytes bytes = .error (.io .invalidUtf8) := by
  have hnone : Text.decode? bytes = none := dif_neg h
  rw [Reader.bytes, hnone]

/-- **All ways into a reader agree.** A reader makes the same of a text, of its pieces between line
feeds, of the text with a carriage return before every line feed, and of the bytes of the text,
decoded as a whole or line by line. Bytes that encode no text are refused, also line by line and
also by a reader without a name for the database. -/
theorem entries_agree (r : Reader) (text : String) (bytes : ByteArray) :
    r.lines (Text.splitOn (· == '\n') text.toList) = r.text text
      ∧ r.text (String.ofList (withReturns text.toList)) = r.text text
      ∧ r.bytes text.toUTF8 = r.text text ∧ r.bytesByLine text.toUTF8 = r.text text
      ∧ r.bytesByLine bytes = r.bytes bytes
      ∧ (¬ bytes.IsValidUTF8 → r.bytes bytes = .error (.io .invalidUtf8)) := by
  have hbytes : r.bytes text.toUTF8 = r.text text := by
    rw [Reader.bytes, Text.decode?_toUTF8]
  refine ⟨r.lines_splitOn text.toList, ?_, hbytes, (r.bytesByLine_eq _).trans hbytes,
    r.bytesByLine_eq bytes, r.bytes_of_not_isValidUTF8⟩
  rw [Reader.text, String.toList_ofList, lines_withReturns, Reader.text]

/-- A text with both kinds of line endings, and bytes that break a character at a line feed, for a
reader without a name. -/
theorem entries_agree_broken :
    let r : Reader := ⟨"", "sales"⟩
    let text := "create table a (\r\nb int -- c\r\n)\r"
    let bytes : ByteArray := ⟨#[0x63, 0xC3, 0x0A, 0xA9]⟩
    r.lines (Text.splitOn (· == '\n') text.toList) = r.text text
      ∧ ¬ bytes.IsValidUTF8 ∧ r.bytes bytes = .error (.io .invalidUtf8)
      ∧ r.bytesByLine bytes = .error (.io .invalidUtf8) := by
  intro r text bytes
  have hinvalid : ¬ bytes.IsValidUTF8 := by decide +kernel
  obtain ⟨hlines, -, -, -, hsame, hrefused⟩ := r.entries_agree text bytes
  exact ⟨hlines, hinvalid, hrefused hinvalid, hsame.trans (hrefused hinvalid)⟩

end Ddl.Reader

end Schemata
