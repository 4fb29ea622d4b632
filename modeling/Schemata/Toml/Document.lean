/-! # TOML documents

A document is a tree of tables. Every table remembers how it came to be, which decides what may
still be added to it: a table under a header is complete with its section, a table that a dotted
key or the path of a header brought along may grow, and an inline table is closed. -/

namespace Schemata.Toml

/-- Why a text is not a TOML document, or not the document that is wanted. -/
inductive Fault where
  /-- The text ends too early. -/
  | ended
  /-- A character stands where it may not. -/
  | unexpected (c : Char)
  /-- A word is neither a number nor a date nor a truth value. -/
  | unreadable (word : String)
  /-- An escape names no character. -/
  | badEscape
  /-- A key is given twice, or its table may not be added to. -/
  | duplicate (key : String)
  /-- A key leads through something that is no table. -/
  | notTable (key : String)
  /-- Values are nested, or keys are dotted, too deep. -/
  | tooDeep
  /-- A value is of another kind than is wanted. -/
  | wrongKind (wanted : String)
  deriving DecidableEq, Repr

/-- The wording of a fault. -/
def Fault.message : Fault → String
  | .ended => "unexpected end of text"
  | .unexpected c => "unexpected character " ++ String.singleton c
  | .unreadable word => "invalid value " ++ word
  | .badEscape => "invalid escape"
  | .duplicate key => "duplicate key " ++ key
  | .notTable key => "not a table: " ++ key
  | .tooDeep => "nested too deep"
  | .wrongKind wanted => "expected " ++ wanted

/-- How a table came to be. -/
inductive Origin where
  /-- A header of its own. -/
  | header
  /-- The path of another table's header. -/
  | implied
  /-- A dotted key. -/
  | dotted
  /-- Braces. -/
  | inline
  deriving DecidableEq, Repr

/-- A value of a document. -/
inductive Value where
  /-- A string. -/
  | string (s : String)
  /-- A whole number. -/
  | integer (n : Int)
  /-- A number with a fraction or an exponent, as it is written. -/
  | float (word : String)
  /-- A truth value. -/
  | boolean (b : Bool)
  /-- A date, a time of day or both, as it is written. -/
  | moment (word : String)
  /-- An array. -/
  | array (items : List Value)
  /-- A table. -/
  | table (origin : Origin) (entries : List (String × Value))
  /-- The tables under repeated headers. -/
  | tables (items : List (List (String × Value)))

/-- The entries of a table, in order. -/
abbrev Entries := List (String × Value)

namespace Entries

/-- Entries with the value of a key replaced. -/
def set (entries : Entries) (key : String) (value : Value) : Entries :=
  entries.map fun entry => if entry.1 = key then (key, value) else entry

/-- Edit the table that a path of keys leads to, and bring along the tables that are missing.
`dotted` says whether the path is a dotted key or belongs to a header. The edit is told how the
last table on the path came to be, or nothing when the path is empty. Under repeated headers the
path leads to the last table. -/
def editAt (dotted : Bool) (edit : Option Origin → Entries → Except Fault Entries) :
    Option Origin → List String → Entries → Except Fault Entries
  | here, [], entries => edit here entries
  | _, key :: path, entries =>
      match entries.lookup key with
      | none => do
          let origin := if dotted then .dotted else .implied
          let inner ← editAt dotted edit (some origin) path []
          return entries ++ [(key, .table origin inner)]
      | some (.table .inline _) => throw (.notTable key)
      | some (.table origin inner) => do
          if dotted && origin == .header then throw (.duplicate key)
          let inner ← editAt dotted edit (some origin) path inner
          return set entries key (.table origin inner)
      | some (.tables items) => do
          let last ← editAt dotted edit (some .header) path (items.getLast?.getD [])
          return set entries key (.tables (items.dropLast ++ [last]))
      | some _ => throw (.notTable key)

/-- Give a key a value. A dotted key may only end in a table that dotted keys made. -/
def assign (entries : Entries) (path : List String) (key : String) (value : Value) :
    Except Fault Entries :=
  editAt true
    (fun origin entries =>
      if origin != none && origin != some .dotted then .error (.duplicate key)
      else if (entries.lookup key).isSome then .error (.duplicate key)
      else .ok (entries ++ [(key, value)]))
    none path entries

/-- Start the table under a header. A table that other headers' paths brought along is completed. -/
def startTable (entries : Entries) (path : List String) (key : String) : Except Fault Entries :=
  editAt false
    (fun _ entries =>
      match entries.lookup key with
      | none => .ok (entries ++ [(key, .table .header [])])
      | some (.table .implied inner) => .ok (set entries key (.table .header inner))
      | some _ => .error (.duplicate key))
    none path entries

/-- Start one more table under a repeated header. -/
def startRepeated (entries : Entries) (path : List String) (key : String) : Except Fault Entries :=
  editAt false
    (fun _ entries =>
      match entries.lookup key with
      | none => .ok (entries ++ [(key, .tables [[]])])
      | some (.tables items) => .ok (set entries key (.tables (items ++ [[]])))
      | some _ => .error (.duplicate key))
    none path entries

/-- Give a key a value in the table under the current header. -/
def assignUnder (entries : Entries) (header path : List String) (key : String) (value : Value) :
    Except Fault Entries :=
  editAt false (fun _ entries => entries.assign path key value) none header entries

end Entries

mutual

/-- A value inside braces: tables that dotted keys made are closed like the braces around them. -/
def Value.sealed : Value → Value
  | .table .dotted entries => .table .inline (sealedEntries entries)
  | value => value

/-- The entries of an inline table. -/
def sealedEntries : List (String × Value) → List (String × Value)
  | [] => []
  | (key, value) :: rest => (key, value.sealed) :: sealedEntries rest

end

end Schemata.Toml
