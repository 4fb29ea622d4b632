import Schemata.Ddl.Comment
import Schemata.Text.Blank

/-! # Finding statements

A scanner reads lines and hands out the `CREATE TABLE` statements among them. A statement starts
where its first words stand and ends with the parenthesis that makes as many closed as opened ones;
what lies between statements is passed over. -/

namespace Schemata.Ddl

/-! ## Cleaning a line -/

/-- A text with every run of blanks and tabs made into one blank. The flag says whether a blank has
just been written. -/
def squeezeAfter (gap : Bool) : List Char → List Char
  | [] => []
  | c :: rest =>
      if c = ' ' ∨ c = '\t' then
        if gap then squeezeAfter true rest else ' ' :: squeezeAfter true rest
      else c :: squeezeAfter false rest

/-- A text with every run of blanks and tabs made into one blank. -/
def squeeze (cs : List Char) : List Char := squeezeAfter false cs

/-- A line without white space at its ends and with single blanks inside. -/
def clean (cs : List Char) : List Char := squeeze (Text.trim cs)

/-- Whether a cleaned line only separates batches: the word `GO`, in any letter case. -/
def isBatchEnd (cs : List Char) : Bool := cs.map Char.toLower == ['g', 'o']

/-! ## The first words of a statement -/

/-- The text after a word, which is given in lower case and found in any letter case. -/
def skipWord? : List Char → List Char → Option (List Char)
  | [], cs => some cs
  | _ :: _, [] => none
  | w :: word, c :: cs => if c.toLower = w then skipWord? word cs else none

/-- The text after white space, of which there must be some. -/
def skipWhite? : List Char → Option (List Char)
  | [] => none
  | c :: cs => if Text.isWhite c then some (cs.dropWhile Text.isWhite) else none

/-- The text after the words `or replace` and the white space that follows them. -/
def skipReplace? (cs : List Char) : Option (List Char) := do
  let cs ← skipWord? ['o', 'r'] cs
  let cs ← skipWhite? cs
  let cs ← skipWord? ['r', 'e', 'p', 'l', 'a', 'c', 'e'] cs
  skipWhite? cs

/-- The text after the words `create table` or `create or replace table`. -/
def skipCreateTable? (cs : List Char) : Option (List Char) := do
  let cs ← skipWord? ['c', 'r', 'e', 'a', 't', 'e'] cs
  let cs ← skipWhite? cs
  skipWord? ['t', 'a', 'b', 'l', 'e'] ((skipReplace? cs).getD cs)

/-- The text from the first place on where a statement starts. -/
def fromCreateTable? : List Char → Option (List Char)
  | [] => none
  | c :: rest =>
      if (skipCreateTable? (c :: rest)).isSome then some (c :: rest) else fromCreateTable? rest

/-- A statement starts inside the text. -/
theorem length_le_of_fromCreateTable? {cs start : List Char}
    (h : fromCreateTable? cs = some start) : start.length ≤ cs.length := by
  induction cs with
  | nil => simp [fromCreateTable?] at h
  | cons c rest ih =>
      rw [fromCreateTable?] at h
      split at h
      · cases h; exact Nat.le_refl _
      · exact Nat.le_succ_of_le (ih h)

/-! ## The end of a statement -/

/-- How far a text takes a statement. -/
inductive Reach where
  /-- The statement goes on, with this many parentheses opened and closed so far. -/
  | goesOn (opened closed : Nat)
  /-- The statement ends with `taken`, and `rest` follows it. -/
  | ends (taken rest : List Char)
  deriving DecidableEq, Repr

/-- The number of a given parenthesis after a character. -/
def countAfter (paren c : Char) (n : Nat) : Nat := if c = paren then n + 1 else n

/-- Whether a statement ends with a character, given the parentheses with it. -/
def endsWith (c : Char) (opened closed : Nat) : Bool :=
  (c == '(' || c == ')') && decide (0 < opened) && opened == closed

/-- Read a statement on, with `opened` and `closed` parentheses so far. -/
def reach (opened closed : Nat) : List Char → Reach
  | [] => .goesOn opened closed
  | c :: rest =>
      if endsWith c (countAfter '(' c opened) (countAfter ')' c closed) then .ends [c] rest
      else
        match reach (countAfter '(' c opened) (countAfter ')' c closed) rest with
        | .goesOn opened closed => .goesOn opened closed
        | .ends taken rest => .ends (c :: taken) rest

/-- A statement that ends takes its part of the text and leaves the rest. -/
theorem reach_eq_ends {opened closed : Nat} {cs taken rest : List Char}
    (h : reach opened closed cs = .ends taken rest) : cs = taken ++ rest ∧ taken ≠ [] := by
  induction cs generalizing opened closed taken with
  | nil => simp [reach] at h
  | cons c tail ih =>
      rw [reach] at h
      split at h
      · cases h; simp
      · split at h
        · cases h
        · rename_i hr
          cases h
          simp [(ih hr).1]

/-! ## The scanner -/

/-- Where a scanner stands with respect to statements. -/
inductive Position where
  /-- Between statements. -/
  | outside
  /-- Inside a statement of which `read` has been read, with this many parentheses opened and
  closed. -/
  | inside (read : List Char) (opened closed : Nat)
  deriving DecidableEq, Repr

/-- The statements that a text between statements holds, and where it ends. -/
def scanOutside (cs : List Char) : List (List Char) × Position :=
  match _h : fromCreateTable? cs with
  | none => ([], .outside)
  | some start =>
      match _h' : reach 0 0 start with
      | .goesOn opened closed => ([], .inside start opened closed)
      | .ends taken rest =>
          let (more, position) := scanOutside rest
          (taken :: more, position)
termination_by cs.length
decreasing_by
  have hle := length_le_of_fromCreateTable? _h
  obtain ⟨heq, hne⟩ := reach_eq_ends _h'
  have := List.length_pos_iff.2 hne
  rw [heq, List.length_append] at hle
  omega

/-- The statements that a cleaned line ends or holds, and where it leaves the scanner. A line that
goes on with a statement is set off by a blank. -/
def scanLine (position : Position) (cs : List Char) : List (List Char) × Position :=
  match position with
  | .outside => scanOutside cs
  | .inside read opened closed =>
      -- The blank stands for the line end between what was read before and this line.
      let read := if read.isEmpty then read else read ++ [' ']
      match reach opened closed cs with
      | .goesOn opened closed => ([], .inside (read ++ cs) opened closed)
      | .ends taken rest =>
          let (more, position) := scanOutside rest
          ((read ++ taken) :: more, position)

/-- The state of a scanner between lines. -/
structure Scanner where
  /-- Whether a block comment is open. -/
  inBlock : Bool
  /-- Where the scanner stands with respect to statements. -/
  position : Position
  deriving DecidableEq, Repr

namespace Scanner

/-- The scanner before the first line. -/
def start : Scanner := ⟨false, .outside⟩

/-- The statements that end on a line, and the scanner after it. Lines without text and lines that
only separate batches are passed over. -/
def feed (s : Scanner) (line : List Char) : List (List Char) × Scanner :=
  let (kept, inBlock) := strip s.inBlock line
  let line := clean kept
  if line.isEmpty || isBatchEnd line then ([], ⟨inBlock, s.position⟩)
  else
    let (found, position) := scanLine s.position line
    (found, ⟨inBlock, position⟩)

/-- The statements that end on some lines, and the scanner after them. -/
def run (s : Scanner) : List (List Char) → List (List Char) × Scanner
  | [] => ([], s)
  | line :: rest =>
      let (found, s) := s.feed line
      let (more, s) := s.run rest
      (found ++ more, s)

end Scanner

/-- The statements of a text given in lines. One that does not end is left out. -/
def statements (lines : List (List Char)) : List (List Char) := (Scanner.start.run lines).1

end Schemata.Ddl
