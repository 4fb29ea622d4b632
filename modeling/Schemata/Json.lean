/-! # JSON text

A JSON value without fractions, and its two layouts: on one line without blanks, and indented by two
blanks a level. Members of an object stand in the order given. -/

namespace Schemata

/-- A JSON value. -/
inductive Json where
  /-- The value without content. -/
  | null
  /-- A truth value. -/
  | bool (b : Bool)
  /-- A natural number. -/
  | num (n : Nat)
  /-- A string. -/
  | str (s : String)
  /-- An array. -/
  | arr (items : List Json)
  /-- An object, with its members in order. -/
  | obj (members : List (String × Json))

namespace Json

/-- A digit of a code point below U+0020 in an escape. -/
def hexDigit (n : Nat) : Char := if n < 10 then Char.ofNat (48 + n) else Char.ofNat (87 + n)

/-- A character of a string: only the double quote, the backslash and the control characters below
U+0020 are escaped. -/
def escapeChar (c : Char) : List Char :=
  if c = '"' then ['\\', '"']
  else if c = '\\' then ['\\', '\\']
  else if c = '\x08' then ['\\', 'b']
  else if c = '\x0c' then ['\\', 'f']
  else if c = '\n' then ['\\', 'n']
  else if c = '\r' then ['\\', 'r']
  else if c = '\t' then ['\\', 't']
  else if c.toNat < 0x20 then
    ['\\', 'u', '0', '0', hexDigit (c.toNat / 16), hexDigit (c.toNat % 16)]
  else [c]

/-- A string between double quotes. -/
def quoted (s : String) : String :=
  String.ofList ('"' :: s.toList.flatMap escapeChar ++ ['"'])

/-- An array of strings. -/
def strings (list : List String) : Json := .arr (list.map .str)

mutual

/-- A value on one line. -/
def compact : Json → String
  | .null => "null"
  | .bool b => if b then "true" else "false"
  | .num n => toString n
  | .str s => quoted s
  | .arr items => "[" ++ compactItems items ++ "]"
  | .obj members => "\x7b" ++ compactMembers members ++ "\x7d"

/-- The items of an array on one line. -/
def compactItems : List Json → String
  | [] => ""
  | [item] => item.compact
  | item :: rest => item.compact ++ "," ++ compactItems rest

/-- The members of an object on one line. -/
def compactMembers : List (String × Json) → String
  | [] => ""
  | [(key, value)] => quoted key ++ ":" ++ value.compact
  | (key, value) :: rest => quoted key ++ ":" ++ value.compact ++ "," ++ compactMembers rest

end

/-- The start of a line at a depth. -/
def indent (depth : Nat) : String := "\n" ++ String.ofList (List.replicate (2 * depth) ' ')

mutual

/-- A value at a depth, one item or member to a line. An empty array or object stays on its line. -/
def prettyAt (depth : Nat) : Json → String
  | .null => "null"
  | .bool b => if b then "true" else "false"
  | .num n => toString n
  | .str s => quoted s
  | .arr [] => "[]"
  | .arr (item :: rest) =>
      "[" ++ prettyItems (depth + 1) (item :: rest) ++ indent depth ++ "]"
  | .obj [] => "\x7b\x7d"
  | .obj (member :: rest) =>
      "\x7b" ++ prettyMembers (depth + 1) (member :: rest) ++ indent depth ++ "\x7d"

/-- The items of an array, each on a line of its own. -/
def prettyItems (depth : Nat) : List Json → String
  | [] => ""
  | [item] => indent depth ++ item.prettyAt depth
  | item :: rest => indent depth ++ item.prettyAt depth ++ "," ++ prettyItems depth rest

/-- The members of an object, each on a line of its own. -/
def prettyMembers (depth : Nat) : List (String × Json) → String
  | [] => ""
  | [(key, value)] => indent depth ++ quoted key ++ ": " ++ value.prettyAt depth
  | (key, value) :: rest =>
      indent depth ++ quoted key ++ ": " ++ value.prettyAt depth ++ ","
        ++ prettyMembers depth rest

end

/-- A value in the indented layout. -/
def pretty (j : Json) : String := j.prettyAt 0

end Json

end Schemata
