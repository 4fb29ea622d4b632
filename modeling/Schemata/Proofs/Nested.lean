import Schemata.Ddl.Field
import Schemata.Ddl.Scan

/-! # Nested parentheses

Text whose parentheses close one another takes a statement on without ending it, and is not taken
apart at the commas inside them. Items with such text, listed with commas between them, are what the
fields of the list are. -/

namespace Schemata.Ddl

/-! ## Reading a statement on -/

/-- How far a statement is taken by a text in front of another, which takes it on. -/
def Reach.behind (cs : List Char) : Reach → Reach
  | .goesOn opened closed => .goesOn opened closed
  | .ends taken rest => .ends (cs ++ taken) rest

/-- A text in two parts is read part by part. -/
theorem reach_append (opened closed : Nat) (xs ys : List Char) :
    reach opened closed (xs ++ ys)
      = match reach opened closed xs with
        | .goesOn opened closed => (reach opened closed ys).behind xs
        | .ends taken rest => .ends taken (rest ++ ys) := by
  induction xs generalizing opened closed with
  | nil =>
      rw [reach]
      cases h : reach opened closed ys <;> simp [Reach.behind, h]
  | cons x xs ih =>
      rw [List.cons_append, reach, reach]
      -- A statement that ends in the first part leaves the second part over.
      split
      · rfl
      · rw [ih]
        cases reach (countAfter '(' x opened) (countAfter ')' x closed) xs with
        | ends taken rest => rfl
        | goesOn opened closed =>
            show (match (reach opened closed ys).behind xs with
              | .goesOn opened closed => Reach.goesOn opened closed
              | .ends taken rest => .ends (x :: taken) rest) = _
            cases h : reach opened closed ys <;> simp [Reach.behind, h]

/-- A text without parentheses takes a statement on without counting. -/
theorem reach_of_forall {cs : List Char} (h : ∀ c ∈ cs, c ≠ '(' ∧ c ≠ ')') (opened closed : Nat) :
    reach opened closed cs = .goesOn opened closed := by
  induction cs with
  | nil => rfl
  | cons c cs ih =>
      obtain ⟨hopen, hclose⟩ := h c (by simp)
      have hend : endsWith c opened closed = false := by simp [endsWith, hopen, hclose]
      rw [reach, countAfter, countAfter, if_neg hopen, if_neg hclose, hend,
        ih fun d hd => h d (by simp [hd])]
      rfl

/-- Whether a text inside parentheses opens and closes as many more, and never closes the outer
ones. -/
def Nested (count : Nat) (cs : List Char) : Prop :=
  ∀ opened closed, closed < opened →
    reach opened closed cs = .goesOn (opened + count) (closed + count)

/-- A text without parentheses is nested. -/
theorem nested_of_forall {cs : List Char} (h : ∀ c ∈ cs, c ≠ '(' ∧ c ≠ ')') : Nested 0 cs :=
  fun opened closed _ => reach_of_forall h opened closed

/-- Nested texts make a nested text. -/
theorem Nested.append {n m : Nat} {xs ys : List Char} (hx : Nested n xs) (hy : Nested m ys) :
    Nested (n + m) (xs ++ ys) := by
  intro opened closed h
  rw [reach_append, hx opened closed h]
  show (reach (opened + n) (closed + n) ys).behind xs = _
  rw [hy _ _ (by omega), Nat.add_assoc, Nat.add_assoc]
  rfl

/-- A nested text in parentheses is nested. -/
theorem Nested.paren {n : Nat} {cs : List Char} (h : Nested n cs) :
    Nested (n + 1) ('(' :: cs ++ [')']) := by
  -- The parenthesis that closes here is never the last one, as an outer one is open.
  intro opened closed hlt
  have hopen : endsWith '(' (opened + 1) closed = false := by simp [endsWith]; omega
  have hclose : endsWith ')' (opened + 1 + n) (closed + n + 1) = false := by
    simp [endsWith]; omega
  have hlast : reach (opened + 1 + n) (closed + n) [')']
      = .goesOn (opened + 1 + n) (closed + n + 1) := by
    simp [reach, countAfter, hclose]
  rw [List.cons_append, reach]
  simp only [countAfter, if_true, Char.reduceEq, if_false, hopen, Bool.false_eq_true]
  rw [reach_append, h _ _ (by omega)]
  simp only [hlast, Reach.behind]
  rw [Nat.add_right_comm opened 1 n]
  rfl

/-! ## Taking a list apart -/

/-- Pieces with a text in front of the first. -/
def inFront (cs : List Char) : List (List Char) → List (List Char)
  | [] => [cs]
  | piece :: more => (cs ++ piece) :: more

/-- A text has at least one piece. -/
theorem pieces_ne_nil (depth : Nat) (cs : List Char) : pieces depth cs ≠ [] := by
  cases cs with
  | nil => simp [pieces]
  | cons c cs =>
      rw [pieces]
      split
      · simp
      · split <;> simp

/-- Nothing in front of the pieces of a text. -/
theorem inFront_nil (depth : Nat) (cs : List Char) :
    inFront [] (pieces depth cs) = pieces depth cs := by
  cases h : pieces depth cs with
  | nil => exact absurd h (pieces_ne_nil depth cs)
  | cons piece more => rfl

/-- A text in front of a text in front of pieces. -/
theorem inFront_append (xs ys : List Char) (more : List (List Char)) :
    inFront (xs ++ ys) more = inFront xs (inFront ys more) := by
  cases more <;> simp [inFront]

/-- Whether a text has no comma outside parentheses, which close one another in it: it stays in
front of the first piece of what follows it. -/
def Whole (cs : List Char) : Prop :=
  ∀ depth rest, pieces depth (cs ++ rest) = inFront cs (pieces depth rest)

/-- Whole texts make a whole text. -/
theorem Whole.append {xs ys : List Char} (hx : Whole xs) (hy : Whole ys) : Whole (xs ++ ys) := by
  intro depth rest
  rw [List.append_assoc, hx, hy, inFront_append]

/-- A character that is no comma outside parentheses stays in front of what follows it. -/
theorem pieces_cons {depth : Nat} {c : Char} (h : ¬ (c = ',' ∧ depth = 0)) (cs : List Char) :
    pieces depth (c :: cs) = inFront [c] (pieces (depthAfter depth c) cs) := by
  rw [pieces, if_neg h]
  cases pieces (depthAfter depth c) cs <;> rfl

/-- A text without parentheses stays in front of what follows it, if it has no commas either or
stands inside parentheses. -/
theorem pieces_append {depth : Nat} {cs : List Char} (h : ∀ c ∈ cs, c ≠ '(' ∧ c ≠ ')')
    (hcomma : ∀ c ∈ cs, ¬ (c = ',' ∧ depth = 0)) (rest : List Char) :
    pieces depth (cs ++ rest) = inFront cs (pieces depth rest) := by
  induction cs with
  | nil => exact (inFront_nil depth rest).symm
  | cons c cs ih =>
      obtain ⟨hopen, hclose⟩ := h c (by simp)
      have hdepth : depthAfter depth c = depth := by simp [depthAfter, hopen, hclose]
      rw [List.cons_append, pieces_cons (hcomma c (by simp)), hdepth,
        ih (fun d hd => h d (by simp [hd])) fun d hd => hcomma d (by simp [hd]), ← inFront_append]
      rfl

/-- A text without parentheses and commas is whole. -/
theorem whole_of_forall {cs : List Char} (h : ∀ c ∈ cs, c ≠ '(' ∧ c ≠ ')' ∧ c ≠ ',') :
    Whole cs := fun _ rest =>
  pieces_append (fun c hc => ⟨(h c hc).1, (h c hc).2.1⟩) (fun c hc he => (h c hc).2.2 he.1) rest

/-- A text without parentheses is whole in parentheses. -/
theorem whole_paren {cs : List Char} (h : ∀ c ∈ cs, c ≠ '(' ∧ c ≠ ')') :
    Whole ('(' :: cs ++ [')']) := by
  intro depth rest
  -- Between the parentheses the depth is not zero, so a comma there separates nothing.
  have hdeep : ∀ c ∈ cs, ¬ (c = ',' ∧ depth + 1 = 0) := fun _ _ he => by omega
  rw [List.append_assoc, List.cons_append, pieces_cons (by simp), List.singleton_append]
  show inFront ['('] (pieces (depth + 1) (cs ++ ')' :: rest)) = _
  rw [pieces_append h hdeep, pieces_cons (by simp)]
  show inFront ['('] (inFront cs (inFront [')'] (pieces depth rest))) = _
  rw [← inFront_append, ← inFront_append]
  rfl

/-! ## The fields of a list of items -/

/-- The text of items that have been read line by line: a blank before every line, and a comma
before every item but the first. -/
def listText : List (List Char) → List Char
  | [] => []
  | first :: rest => ' ' :: first ++ rest.flatMap fun item => ' ' :: ',' :: item

/-- The pieces of a list of whole items. -/
theorem pieces_list {first : List Char} {items : List (List Char)} (hfirst : Whole first)
    (h : ∀ item ∈ items, Whole item) :
    pieces 0 (first ++ items.flatMap (fun item => ' ' :: ',' :: item) ++ [' '])
      = (first ++ [' ']) :: items.map (· ++ [' ']) := by
  -- The blank before a comma goes with the item before it.
  induction items generalizing first with
  | nil =>
      rw [List.flatMap_nil, List.append_nil, hfirst]
      rfl
  | cons item items ih =>
      have hitem : Whole item := h item List.mem_cons_self
      have hitems : ∀ i ∈ items, Whole i := fun i hi => h i (List.mem_cons_of_mem _ hi)
      have hrest := ih hitem hitems
      rw [List.append_assoc, hfirst, List.flatMap_cons]
      simp only [List.cons_append, List.append_assoc] at hrest ⊢
      rw [pieces_cons (by simp)]
      show inFront first (inFront [' '] (pieces 0 (',' :: _))) = _
      rw [pieces, if_pos ⟨rfl, rfl⟩, hrest]
      rfl

/-- The fields of a list are its items, if these are whole and have something else than white space
at both ends. -/
theorem fields_listText {items : List (List Char)} (hne : ∀ item ∈ items, item ≠ [])
    (hwhole : ∀ item ∈ items, Whole item)
    (hfirst : ∀ item ∈ items, ∀ c ∈ item.head?, Text.isWhite c = false)
    (hlast : ∀ item ∈ items, ∀ c ∈ item.getLast?, Text.isWhite c = false) :
    fields (listText items ++ [' ']) = items := by
  have hblank : ∀ c ∈ [' '], Text.isWhite c = true := by decide
  have htrim : ∀ item ∈ items, Text.trim (item ++ [' ']) = item := by
    intro item hitem
    have hnone : ∀ c ∈ ([] : List Char), Text.isWhite c = true := by simp
    exact Text.trim_append hnone hblank (hfirst item hitem) (hlast item hitem)
  have hkeep : ∀ item ∈ items, (!item.isEmpty) = true := by
    intro item hitem
    simpa using hne item hitem
  cases items with
  | nil => rfl
  | cons first items =>
      -- The first item has a blank before it as well as behind it.
      have hpieces : pieces 0 (listText (first :: items) ++ [' '])
          = ([' '] ++ first ++ [' ']) :: items.map (· ++ [' ']) := by
        have hw : Whole ([' '] ++ first) :=
          Whole.append (whole_of_forall (by decide)) (hwhole first (by simp))
        exact pieces_list hw fun item hitem => hwhole item (by simp [hitem])
      have hhead : Text.trim ([' '] ++ first ++ [' ']) = first :=
        Text.trim_append hblank hblank (hfirst first (by simp)) (hlast first (by simp))
      have htail : items.map (Text.trim ∘ (· ++ [' '])) = items := by
        conv => rhs; rw [← List.map_id items]
        exact List.map_congr_left fun item hitem => htrim item (by simp [hitem])
      rw [fields, hpieces, List.map_cons, List.map_map, hhead, htail]
      exact List.filter_eq_self.2 hkeep

end Schemata.Ddl
