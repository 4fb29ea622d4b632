import Schemata.Toml.Document

/-! # The words of a TOML text

Blanks, comments, line ends, strings, keys, numbers and dates. Every reader takes a text and answers
with what it has read and the rest. -/

namespace Schemata.Toml

/-- A reader of a text. -/
abbrev Read (α : Type) := List Char → Except Fault (α × List Char)

/-- The fault of a text that does not go on as it should. -/
def stuck : List Char → Fault
  | [] => .ended
  | c :: _ => .unexpected c

/-! ## Blanks and line ends -/

/-- A blank or a tab. -/
def isGap (c : Char) : Bool := c == ' ' || c == '\t'

/-- A text without the blanks it starts with. -/
def skipGap (cs : List Char) : List Char := cs.dropWhile isGap

/-- A character that may stand in a comment: a tab, or anything but a control character. -/
def isCommentChar (c : Char) : Bool := c == '\t' || (0x20 ≤ c.toNat && c.toNat != 0x7F)

/-- A text without the comment it starts with, if it does. -/
def skipComment : List Char → List Char
  | '#' :: rest => rest.dropWhile isCommentChar
  | cs => cs

/-- The text after a line end, which may have a carriage return. -/
def skipNewline? : List Char → Option (List Char)
  | '\n' :: rest => some rest
  | '\r' :: '\n' :: rest => some rest
  | _ => none

/-- The text after the end of a line, with blanks and a comment before it. The end of the text ends
a line too. -/
def endLine (cs : List Char) : Except Fault (List Char) :=
  match skipComment (skipGap cs) with
  | [] => .ok []
  | rest =>
      match skipNewline? rest with
      | some after => .ok after
      | none => .error (stuck rest)

/-- A text without the blanks and line ends it starts with. -/
def skipBlankLines : List Char → List Char
  | [] => []
  | ' ' :: rest => skipBlankLines rest
  | '\t' :: rest => skipBlankLines rest
  | '\n' :: rest => skipBlankLines rest
  | '\r' :: '\n' :: rest => skipBlankLines rest
  | cs => cs

/-- A text without the blanks, line ends and comments it starts with, as they may stand between the
items of an array. The flag says whether a comment is being passed over. -/
def skipFiller (inComment : Bool) : List Char → List Char
  | [] => []
  | c :: rest =>
      if inComment then
        if isCommentChar c then skipFiller true rest
        else if c = '\n' then skipFiller false rest
        else if c = '\r' && rest.head? == some '\n' then skipFiller false rest
        else c :: rest
      else if c = '#' then skipFiller true rest
      else if isGap c || c = '\n' then skipFiller false rest
      else if c = '\r' && rest.head? == some '\n' then skipFiller false rest
      else c :: rest

/-! ## Strings -/

/-- The value of a hexadecimal digit. -/
def hexValue? (c : Char) : Option Nat :=
  if c.isDigit then some (c.toNat - 48)
  else if 'a' ≤ c ∧ c ≤ 'f' then some (c.toNat - 87)
  else if 'A' ≤ c ∧ c ≤ 'F' then some (c.toNat - 55)
  else none

/-- The number that `count` hexadecimal digits spell, after `n`. -/
def readHex (n : Nat) : Nat → Read Nat
  | 0, cs => .ok (n, cs)
  | count + 1, c :: rest =>
      match hexValue? c with
      | some digit => readHex (16 * n + digit) count rest
      | none => .error .badEscape
  | _ + 1, [] => .error .ended

/-- The character of a code point, which must be one. -/
def scalar (n : Nat) : Except Fault Char :=
  if n.isValidChar then .ok (Char.ofNat n) else .error .badEscape

/-- The character that an escape names, after the backslash. -/
def readEscape : Read Char
  | 'b' :: rest => .ok ('\x08', rest)
  | 't' :: rest => .ok ('\t', rest)
  | 'n' :: rest => .ok ('\n', rest)
  | 'f' :: rest => .ok ('\x0c', rest)
  | 'r' :: rest => .ok ('\r', rest)
  | '"' :: rest => .ok ('"', rest)
  | '\\' :: rest => .ok ('\\', rest)
  | 'u' :: rest => do
      let (n, rest) ← readHex 0 4 rest
      return (← scalar n, rest)
  | 'U' :: rest => do
      let (n, rest) ← readHex 0 8 rest
      return (← scalar n, rest)
  | [] => .error .ended
  | _ => .error .badEscape

/-- A basic string after its opening quote. The fuel bounds the number of characters. -/
def readBasic : Nat → Read (List Char)
  | 0, _ => .error .ended
  | _, [] => .error .ended
  | fuel + 1, c :: rest =>
      if c = '"' then .ok ([], rest)
      else if c = '\\' then do
        let (d, rest) ← readEscape rest
        let (more, rest) ← readBasic fuel rest
        return (d :: more, rest)
      else if isCommentChar c then do
        let (more, rest) ← readBasic fuel rest
        return (c :: more, rest)
      else .error (.unexpected c)

/-- A literal string after its opening quote. -/
def readLiteral : Read (List Char)
  | [] => .error .ended
  | c :: rest =>
      if c = '\'' then .ok ([], rest)
      else if isCommentChar c then do
        let (more, rest) ← readLiteral rest
        return (c :: more, rest)
      else .error (.unexpected c)

/-- The text after a backslash at the end of a line, if there is one: line ends and blanks are
passed over up to the next character. -/
def skipContinuation? (cs : List Char) : Option (List Char) :=
  (skipNewline? (skipGap cs)).map skipBlankLines

/-- A string of several lines after its opening quotes, with `quote` around it. Up to two quotes may
stand in it, also right before the closing ones. Escapes are read in basic strings only. -/
def readLong (quote : Char) : Nat → Read (List Char)
  | 0, _ => .error .ended
  | _, [] => .error .ended
  | fuel + 1, c :: rest =>
      if c = quote then
        let quotes := (c :: rest).takeWhile (· == quote)
        if 3 ≤ quotes.length then
          -- The last three quotes close the string; at most two more can belong to it.
          let closing := min 5 quotes.length
          .ok (List.replicate (closing - 3) quote, (c :: rest).drop closing)
        else do
          let (more, rest) ← readLong quote fuel rest
          return (c :: more, rest)
      else if c = '\\' && quote = '"' then
        match skipContinuation? rest with
        | some rest => readLong quote fuel rest
        | none => do
            let (d, rest) ← readEscape rest
            let (more, rest) ← readLong quote fuel rest
            return (d :: more, rest)
      else
        match skipNewline? (c :: rest) with
        | some rest => do
            let (more, rest) ← readLong quote fuel rest
            return ('\n' :: more, rest)
        | none =>
            if isCommentChar c then do
              let (more, rest) ← readLong quote fuel rest
              return (c :: more, rest)
            else .error (.unexpected c)

/-- A string of several lines after its opening quotes; a line end right after them is left out. -/
def readLongFrom (quote : Char) (cs : List Char) : Except Fault (List Char × List Char) :=
  readLong quote (cs.length + 1) ((skipNewline? cs).getD cs)

/-- A string of one line. -/
def readShortString : Read String
  | '"' :: rest => do
      let (s, rest) ← readBasic (rest.length + 1) rest
      return (String.ofList s, rest)
  | '\'' :: rest => do
      let (s, rest) ← readLiteral rest
      return (String.ofList s, rest)
  | cs => .error (stuck cs)

/-- A string of any kind. -/
def readString : Read String
  | '"' :: '"' :: '"' :: rest => do
      let (s, rest) ← readLongFrom '"' rest
      return (String.ofList s, rest)
  | '\'' :: '\'' :: '\'' :: rest => do
      let (s, rest) ← readLongFrom '\'' rest
      return (String.ofList s, rest)
  | cs => readShortString cs

/-! ## Keys -/

/-- A character of a bare key. -/
def isBareKeyChar (c : Char) : Bool :=
  c.isAlphanum || c == '_' || c == '-'

/-- One part of a key. -/
def readKeyPart : Read String
  | c :: rest =>
      if c = '"' || c = '\'' then readShortString (c :: rest)
      else if isBareKeyChar c then
        .ok (String.ofList ((c :: rest).takeWhile isBareKeyChar),
          (c :: rest).dropWhile isBareKeyChar)
      else .error (.unexpected c)
  | [] => .error .ended

/-- The most parts that a key may have. -/
def maxKeyParts : Nat := 79

/-- A key of at most `fuel` parts with dots and blanks between them: the parts before the last, and
the last. -/
def readKey : Nat → Read (List String × String)
  | 0, _ => .error .tooDeep
  | fuel + 1, cs => do
      let (part, rest) ← readKeyPart (skipGap cs)
      match skipGap rest with
      | '.' :: rest => do
          let ((path, last), rest) ← readKey fuel rest
          return ((part :: path, last), rest)
      | rest => return (([], part), rest)

/-! ## Numbers and dates -/

/-- Whether a text is digits of a class with single underscores between them. -/
def isDigitRun (isDigit : Char → Bool) : List Char → Bool
  | [] => false
  | [c] => isDigit c
  | c :: '_' :: rest => isDigit c && isDigitRun isDigit rest
  | c :: rest => isDigit c && isDigitRun isDigit rest

/-- A text without a sign, and whether the sign was a minus. -/
def splitSign : List Char → Bool × List Char
  | '-' :: rest => (true, rest)
  | '+' :: rest => (false, rest)
  | cs => (false, cs)

/-- Whether a text is a whole number without a sign: no leading zero stands before other digits. -/
def isWhole (cs : List Char) : Bool :=
  isDigitRun Char.isDigit cs && (cs.head? != some '0' || cs == ['0'])

/-- The number that digits in a base spell; underscores are passed over. -/
def digitsValue (base : Nat) (cs : List Char) : Nat :=
  cs.foldl (fun n c => ((hexValue? c).map (base * n + ·)).getD n) 0

/-- The largest and, with a minus, the smallest whole number lie this far from zero. -/
def wholeLimit (negative : Bool) : Nat := if negative then Nat.pow 2 63 else Nat.pow 2 63 - 1

/-- The whole number that a word spells in decimal, or, without a sign, in base 16, 8 or 2. -/
def integer? (word : List Char) : Option Int :=
  let based (base : Nat) (isDigit : Char → Bool) (cs : List Char) : Option Int :=
    if isDigitRun isDigit cs && digitsValue base cs ≤ wholeLimit false then
      some (digitsValue base cs)
    else none
  match word with
  | '0' :: 'x' :: cs => based 16 (fun c => (hexValue? c).isSome) cs
  | '0' :: 'o' :: cs => based 8 (fun c => c.isDigit && c.toNat < 56) cs
  | '0' :: 'b' :: cs => based 2 (fun c => c == '0' || c == '1') cs
  | _ =>
      let (negative, cs) := splitSign word
      let n := digitsValue 10 cs
      if isWhole cs && n ≤ wholeLimit negative then some (if negative then -(n : Int) else n)
      else none

/-- Whether the decimal `mantissa · 10 ^ exponent` is too large for a double precision number, which
is so from halfway between the largest one and the power of two after it. -/
def overflows (mantissa : Nat) (exponent : Int) : Bool :=
  let limit := Nat.pow 2 1024 - Nat.pow 2 970
  let digits : Int := (Nat.toDigits 10 mantissa).length
  if mantissa = 0 || digits + exponent < 300 then false
  else if 320 < digits + exponent then true
  else if 0 ≤ exponent then limit ≤ mantissa * Nat.pow 10 exponent.toNat
  else limit * Nat.pow 10 (-exponent).toNat ≤ mantissa

/-- Whether a word is a number with a fraction, an exponent or both, or one of the special numbers.
A positive number that is too large is refused. -/
def isFloat (word : List Char) : Bool :=
  let (negative, cs) := splitSign word
  if cs == ['i', 'n', 'f'] || cs == ['n', 'a', 'n'] then true
  else
    let isE (c : Char) : Bool := c == 'e' || c == 'E'
    let (front, back) := (cs.takeWhile fun c => !isE c, cs.dropWhile fun c => !isE c)
    let (whole, rest) := (front.takeWhile (· != '.'), front.dropWhile (· != '.'))
    let fraction := rest.drop 1
    let (down, power) := splitSign (back.drop 1)
    let exponent : Int := digitsValue 10 power
    let places : Int := (fraction.filter (· != '_')).length
    isWhole whole && (rest.isEmpty || isDigitRun Char.isDigit fraction)
      && (back.isEmpty || isDigitRun Char.isDigit power)
      && !(rest.isEmpty && back.isEmpty)
      && (negative
        || !overflows (digitsValue 10 (whole ++ fraction))
          ((if down then -exponent else exponent) - places))

/-- The number that exactly two digits spell, if it lies in a range. -/
def twoDigits? (low high : Nat) : List Char → Option Nat
  | [a, b] =>
      let n := digitsValue 10 [a, b]
      if a.isDigit && b.isDigit && low ≤ n && n ≤ high then some n else none
  | _ => none

/-- The number of days of a month. -/
def daysIn (year month : Nat) : Nat :=
  if month = 2 then
    if year % 4 = 0 ∧ (year % 100 ≠ 0 ∨ year % 400 = 0) then 29 else 28
  else if month = 4 ∨ month = 6 ∨ month = 9 ∨ month = 11 then 30
  else 31

/-- Whether a word is a date of the calendar. -/
def isDate : List Char → Bool
  | [y₁, y₂, y₃, y₄, '-', m₁, m₂, '-', d₁, d₂] =>
      [y₁, y₂, y₃, y₄].all Char.isDigit
        && ((twoDigits? 1 12 [m₁, m₂]).any fun month =>
          (twoDigits? 1 (daysIn (digitsValue 10 [y₁, y₂, y₃, y₄]) month) [d₁, d₂]).isSome)
  | _ => false

/-- Whether a text is an offset from universal time. -/
def isOffset : List Char → Bool
  | [] => true
  | ['Z'] => true
  | ['z'] => true
  | [sign, h₁, h₂, ':', m₁, m₂] =>
      (sign == '+' || sign == '-') && (twoDigits? 0 23 [h₁, h₂]).isSome
        && (twoDigits? 0 59 [m₁, m₂]).isSome
  | _ => false

/-- Whether a text is a time of day. With `offset`, an offset from universal time may follow. -/
def isTime (offset : Bool) : List Char → Bool
  | h₁ :: h₂ :: ':' :: m₁ :: m₂ :: ':' :: s₁ :: s₂ :: rest =>
      let digits := (rest.drop 1).takeWhile Char.isDigit
      let after :=
        if rest.head? == some '.' && !digits.isEmpty then (rest.drop 1).dropWhile Char.isDigit
        else rest
      (twoDigits? 0 23 [h₁, h₂]).isSome && (twoDigits? 0 59 [m₁, m₂]).isSome
        && (twoDigits? 0 60 [s₁, s₂]).isSome
        && if offset then isOffset after else after.isEmpty
  | _ => false

/-- Whether a word is a date, a time of day, or a date and a time with the letter `T` or a blank
between them. -/
def isMoment (word : List Char) : Bool :=
  isDate word || isTime false word
    || (isDate (word.take 10) && (word[10]?.any fun c => c == 'T' || c == 't' || c == ' ')
      && isTime true (word.drop 11))

/-- A character of a word that is no string. -/
def isWordChar (c : Char) : Bool :=
  c.isAlphanum || c == '+' || c == '-' || c == '_' || c == '.' || c == ':'

/-- The word that a text starts with. A date takes a time of day after a blank with it. -/
def readWord (cs : List Char) : List Char × List Char :=
  let (word, rest) := (cs.takeWhile isWordChar, cs.dropWhile isWordChar)
  match rest with
  | ' ' :: c :: after =>
      if isDate word && c.isDigit then
        (word ++ ' ' :: (c :: after).takeWhile isWordChar, (c :: after).dropWhile isWordChar)
      else (word, rest)
  | _ => (word, rest)

/-- The value that a word stands for. -/
def wordValue (word : List Char) : Except Fault Value :=
  if word = ['t', 'r', 'u', 'e'] then .ok (.boolean true)
  else if word = ['f', 'a', 'l', 's', 'e'] then .ok (.boolean false)
  else if isMoment word then .ok (.moment (String.ofList word))
  else if isFloat word then .ok (.float (String.ofList word))
  else
    match integer? word with
    | some n => .ok (.integer n)
    | none => .error (.unreadable (String.ofList word))

end Schemata.Toml
