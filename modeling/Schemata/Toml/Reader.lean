import Schemata.Toml.Lexeme

/-! # Reading TOML

Values, and the lines of a document: assignments, headers and repeated headers. -/

namespace Schemata.Toml

/-- The deepest that arrays and inline tables may be nested. -/
def maxNesting : Nat := 79

mutual

/-- A value. `depth` is how much deeper values may be nested, and the fuel bounds the number of
characters. -/
def readValue : Nat → Nat → Read Value
  | 0, _, _ => .error .ended
  | _, _, [] => .error .ended
  | fuel + 1, depth, c :: rest =>
      if c = '"' || c = '\'' then do
        let (s, rest) ← readString (c :: rest)
        return (.string s, rest)
      else if c = '[' then
        if depth = 0 then .error .tooDeep
        else do
          let (items, rest) ← readItems fuel (depth - 1) rest
          return (.array items, rest)
      else if c = '\x7b' then
        if depth = 0 then .error .tooDeep
        else
          match skipGap rest with
          | '\x7d' :: rest => .ok (.table .inline [], rest)
          | rest => do
              let (entries, rest) ← readMembers fuel (depth - 1) [] rest
              return (.table .inline (sealedEntries entries), rest)
      else
        let (word, after) := readWord (c :: rest)
        if word.isEmpty then .error (.unexpected c)
        else do return (← wordValue word, after)

/-- The items of an array after its opening bracket or a comma. -/
def readItems : Nat → Nat → Read (List Value)
  | 0, _, _ => .error .ended
  | fuel + 1, depth, cs =>
      match skipFiller false cs with
      | ']' :: rest => .ok ([], rest)
      | cs => do
          let (item, rest) ← readValue fuel depth cs
          match skipFiller false rest with
          | ']' :: rest => return ([item], rest)
          | ',' :: rest => do
              let (items, rest) ← readItems fuel depth rest
              return (item :: items, rest)
          | rest => throw (stuck rest)

/-- The members of an inline table after its opening brace or a comma, added to those before. -/
def readMembers : Nat → Nat → Entries → Read Entries
  | 0, _, _, _ => .error .ended
  | fuel + 1, depth, entries, cs => do
      let ((path, key), rest) ← readKey maxKeyParts cs
      match rest with
      | '=' :: rest => do
          let (value, rest) ← readValue fuel depth (skipGap rest)
          let entries ← entries.assign path key value
          match skipGap rest with
          | '\x7d' :: rest => return (entries, rest)
          | ',' :: rest => readMembers fuel depth entries rest
          | rest => throw (stuck rest)
      | rest => throw (stuck rest)

end

/-- A document as far as it has been read: its entries and the header of the current table. -/
structure Progress where
  /-- The entries so far. -/
  entries : Entries
  /-- The current header. -/
  header : List String

/-- A header after its opening brackets: the path of its table. -/
def readHeader (closing cs : List Char) : Except Fault ((List String × String) × List Char) := do
  let (key, rest) ← readKey maxKeyParts cs
  if closing.isPrefixOf rest then return (key, ← endLine (rest.drop closing.length))
  else throw (stuck rest)

/-- Read one line that is neither blank nor a comment. -/
def readLine (p : Progress) : List Char → Except Fault (Progress × List Char)
  | '[' :: '[' :: rest => do
      let ((path, key), rest) ← readHeader [']', ']'] rest
      return (⟨← p.entries.startRepeated path key, path ++ [key]⟩, rest)
  | '[' :: rest => do
      let ((path, key), rest) ← readHeader [']'] rest
      return (⟨← p.entries.startTable path key, path ++ [key]⟩, rest)
  | cs => do
      let ((path, key), rest) ← readKey maxKeyParts cs
      match rest with
      | '=' :: rest => do
          let (value, rest) ← readValue (rest.length + 1) maxNesting (skipGap rest)
          let rest ← endLine rest
          return (⟨← p.entries.assignUnder p.header path key value, p.header⟩, rest)
      | rest => throw (stuck rest)

/-- Read the lines of a document. The fuel bounds the number of lines. -/
def readLines : Nat → Progress → List Char → Except Fault Entries
  | 0, _, _ => .error .ended
  | fuel + 1, p, cs =>
      match skipGap cs with
      | [] => .ok p.entries
      | c :: rest =>
          if c = '#' || c = '\n' || c = '\r' then do
            readLines fuel p (← endLine (c :: rest))
          else do
            let (p, rest) ← readLine p (c :: rest)
            readLines fuel p rest

/-- The entries of a document. A byte order mark at its start is left out. -/
def parse (text : String) : Except Fault Entries :=
  let cs := text.toList
  let cs := if cs.head? == some '\ufeff' then cs.drop 1 else cs
  readLines (cs.length + 1) ⟨[], []⟩ cs

end Schemata.Toml
