import Schemata.Ddl.Scan

/-! # A scanner that keeps its registers

A loop over lines that keeps all it works with at any time: whether a block comment is open, whether
a statement is open, the text of the statement and its parentheses. Between statements the text and
the counters are still there, and it is for the loop to leave them empty and zero. The loop runs in
step with the scanner, which has them inside a statement only, so it does. -/

namespace Schemata.Ddl

/-- What a loop over lines works with. -/
structure Registers where
  /-- Whether a block comment is open. -/
  inBlock : Bool
  /-- What has been read of a statement. -/
  buffer : List Char
  /-- Whether a statement is open. -/
  inStatement : Bool
  /-- The number of parentheses that have been opened. -/
  opened : Nat
  /-- The number of parentheses that have been closed. -/
  closed : Nat
  deriving DecidableEq, Repr

namespace Registers

/-! ## The loop -/

/-- The registers before the first line. -/
def start : Registers := ⟨false, [], false, 0, 0⟩

/-- Go on with the statement that is open, set off by a blank, or else open the next one where its
first words stand. With the registers comes the text that is to be read then. -/
def enter? (r : Registers) (rest : List Char) : Option (Registers × List Char) :=
  if r.inStatement then
    some ({ r with buffer := if r.buffer.isEmpty then r.buffer else r.buffer ++ [' '] }, rest)
  else (fromCreateTable? rest).map fun text => ({ r with inStatement := true }, text)

/-- What is read of a line is not longer than what is left of it. -/
theorem length_le_of_enter? {r entered : Registers} {rest text : List Char}
    (h : r.enter? rest = some (entered, text)) : text.length ≤ rest.length := by
  rw [enter?] at h
  split at h
  · cases h
    exact Nat.le_refl _
  · obtain ⟨found, hfound, heq⟩ := Option.map_eq_some_iff.1 h
    cases heq
    exact length_le_of_fromCreateTable? hfound

/-- Leave the statement that has ended. -/
def leave (r : Registers) : Registers :=
  { r with buffer := [], inStatement := false, opened := 0, closed := 0 }

/-- The statements that the rest of a cleaned line ends or holds, and the registers after it. -/
def scanRest (r : Registers) (rest : List Char) : List (List Char) × Registers :=
  if rest.isEmpty then ([], r)
  else
    match _h : r.enter? rest with
    | none => ([], r)
    | some (entered, text) =>
        match _h' : reach entered.opened entered.closed text with
        | .goesOn opened closed =>
            ([], { entered with buffer := entered.buffer ++ text, opened, closed })
        | .ends taken after =>
            let (more, last) := entered.leave.scanRest after
            ((entered.buffer ++ taken) :: more, last)
termination_by rest.length
decreasing_by
  have hle := length_le_of_enter? _h
  obtain ⟨heq, hne⟩ := reach_eq_ends _h'
  have := List.length_pos_iff.2 hne
  rw [heq, List.length_append] at hle
  omega

/-- One round of the loop. -/
theorem scanRest_eq (r : Registers) (rest : List Char) :
    r.scanRest rest
      = if rest.isEmpty then ([], r)
        else
          match r.enter? rest with
          | none => ([], r)
          | some (entered, text) =>
              match reach entered.opened entered.closed text with
              | .goesOn opened closed =>
                  ([], { entered with buffer := entered.buffer ++ text, opened, closed })
              | .ends taken after =>
                  ((entered.buffer ++ taken) :: (entered.leave.scanRest after).1,
                    (entered.leave.scanRest after).2) := by
  rw [scanRest]
  split
  · rfl
  · split
    · rename_i hnone
      rw [hnone]
    · rename_i henter
      rw [henter]
      split
      · rename_i hreach
        simp only [hreach]
      · rename_i hreach
        simp only [hreach]

/-- The statements that end on a line, and the registers after it. -/
def feed (r : Registers) (line : List Char) : List (List Char) × Registers :=
  let (kept, inBlock) := strip r.inBlock line
  let line := clean kept
  if line.isEmpty || isBatchEnd line then ([], { r with inBlock })
  else scanRest { r with inBlock } line

/-- The statements that end on some lines, and the registers after them. -/
def run (r : Registers) : List (List Char) → List (List Char) × Registers
  | [] => ([], r)
  | line :: rest =>
      let (found, r) := r.feed line
      let (more, r) := r.run rest
      (found ++ more, r)

/-! ## In step with the scanner -/

/-- The registers of a scanner: between statements there is no text, and nothing is counted. -/
def ofScanner (s : Scanner) : Registers :=
  match s.position with
  | .outside => ⟨s.inBlock, [], false, 0, 0⟩
  | .inside read opened closed => ⟨s.inBlock, read, true, opened, closed⟩

/-- A statement starts in a text only if there is some. -/
theorem ne_nil_of_fromCreateTable? {cs start : List Char} (h : fromCreateTable? cs = some start) :
    cs ≠ [] := by
  rintro rfl
  cases h

/-- The loop finds in a text between statements what the scanner finds. -/
theorem scanRest_outside (inBlock : Bool) (cs : List Char) :
    (ofScanner ⟨inBlock, .outside⟩).scanRest cs
      = ((scanOutside cs).1, ofScanner ⟨inBlock, (scanOutside cs).2⟩) := by
  have hleave : leave ⟨inBlock, [], true, 0, 0⟩ = ofScanner ⟨inBlock, .outside⟩ := rfl
  fun_induction scanOutside cs with
  | case1 cs hnone => simp [scanRest_eq, enter?, ofScanner, hnone]
  | case2 cs text htext opened closed hreach =>
      have hne := ne_nil_of_fromCreateTable? htext
      simp [scanRest_eq, enter?, ofScanner, hne, htext, hreach]
  | case3 cs text htext taken rest hreach more position hrest ih =>
      have hne := ne_nil_of_fromCreateTable? htext
      have henter : (ofScanner ⟨inBlock, .outside⟩).enter? cs
          = some (⟨inBlock, [], true, 0, 0⟩, text) := by
        simp [enter?, ofScanner, htext]
      rw [hrest] at ih
      -- Leaving a statement gives the registers between statements, so the rest is read from these.
      simp [scanRest_eq _ cs, henter, hne, hreach, hleave, ih]

/-- The loop finds in a cleaned line what the scanner finds. -/
theorem scanRest_ofScanner (s : Scanner) {cs : List Char} (hcs : cs ≠ []) :
    (ofScanner s).scanRest cs
      = ((scanLine s.position cs).1, ofScanner ⟨s.inBlock, (scanLine s.position cs).2⟩) := by
  obtain ⟨inBlock, position⟩ := s
  cases position with
  | outside => exact scanRest_outside inBlock cs
  | inside read opened closed =>
      let entered : Registers :=
        ⟨inBlock, if read.isEmpty then read else read ++ [' '], true, opened, closed⟩
      have henter : (ofScanner ⟨inBlock, .inside read opened closed⟩).enter? cs
          = some (entered, cs) := rfl
      have hleave : entered.leave = ofScanner ⟨inBlock, .outside⟩ := rfl
      cases hreach : reach opened closed cs with
      | goesOn opened' closed' =>
          have hentered : reach entered.opened entered.closed cs = .goesOn opened' closed' := hreach
          simp only [scanRest_eq, henter, hentered, scanLine, hreach]
          simp [hcs, ofScanner, entered]
      | ends taken rest =>
          have hentered : reach entered.opened entered.closed cs = .ends taken rest := hreach
          simp only [scanRest_eq _ cs, henter, hentered, scanLine, hreach, hleave, scanRest_outside]
          simp [hcs, entered]

/-- One line takes the loop and the scanner to the same registers, and they find the same
statements. -/
theorem feed_ofScanner (s : Scanner) (line : List Char) :
    (ofScanner s).feed line = ((s.feed line).1, ofScanner (s.feed line).2) := by
  have hinBlock : (ofScanner s).inBlock = s.inBlock := by
    obtain ⟨_, _ | _⟩ := s <;> rfl
  have hset : ∀ inBlock, { ofScanner s with inBlock } = ofScanner ⟨inBlock, s.position⟩ := by
    obtain ⟨_, _ | _⟩ := s <;> exact fun _ => rfl
  simp only [feed, Scanner.feed, hinBlock, hset]
  split
  · rfl
  · rename_i hline
    have hne : clean (strip s.inBlock line).1 ≠ [] := fun hnil => hline (by simp [hnil])
    exact scanRest_ofScanner ⟨_, s.position⟩ hne

/-- Any lines take the loop and the scanner to the same registers, and they find the same
statements. -/
theorem run_ofScanner (s : Scanner) (lines : List (List Char)) :
    (ofScanner s).run lines = ((s.run lines).1, ofScanner (s.run lines).2) := by
  induction lines generalizing s with
  | nil => rfl
  | cons line lines ih => simp only [run, Scanner.run, feed_ofScanner, ih]

/-- The loop finds the statements of a text, and its registers are those of the scanner. -/
theorem run_start (lines : List (List Char)) :
    start.run lines = (statements lines, ofScanner (Scanner.start.run lines).2) :=
  run_ofScanner Scanner.start lines

/-- Whether neither of the two flags is set. -/
structure Idle (r : Registers) : Prop where
  /-- No block comment is open. -/
  inBlock : r.inBlock = false
  /-- No statement is open. -/
  inStatement : r.inStatement = false

/-- Where the flags of a scanner are not set, its registers are those before the first line. -/
theorem Idle.ofScanner_eq_start {s : Scanner} (h : (ofScanner s).Idle) : ofScanner s = start := by
  obtain ⟨inBlock, _ | _⟩ := s
  · obtain rfl : inBlock = false := h.inBlock
    rfl
  · cases h.inStatement

end Registers

end Schemata.Ddl
