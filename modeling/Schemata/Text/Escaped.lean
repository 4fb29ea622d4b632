import Schemata.Text.GlyphData

/-! # Names in messages

A message that lists names shows each in double quotes, with characters that would not show on a
page replaced by escapes, so that the list reads unambiguously. -/

namespace Schemata.Text

/-- Lower case hexadecimal digits of a code point. -/
def hexDigits (code : Nat) : List Char := Nat.toDigits 16 code

/-- A code point in hexadecimal, as it stands in an escape. -/
def codeEscape (code : Nat) : List Char :=
  ['\\', 'u', '\x7b'] ++ hexDigits code ++ ['\x7d']

/-- A character as it is shown between double quotes. -/
def escapeChar (c : Char) : List Char :=
  if c = '\x00' then ['\\', '0']
  else if c = '\t' then ['\\', 't']
  else if c = '\r' then ['\\', 'r']
  else if c = '\n' then ['\\', 'n']
  else if c = '\\' then ['\\', '\\']
  else if c = '"' then ['\\', '"']
  else if c.toNat < 0x20 || inRanges glyphlessRanges c.toNat then codeEscape c.toNat
  else [c]

/-- A name in double quotes. -/
def escaped (s : String) : String :=
  String.ofList ('"' :: s.toList.flatMap escapeChar ++ ['"'])

/-- A list of names, each in double quotes, in square brackets. -/
def escapedList (names : List String) : String :=
  "[" ++ String.intercalate ", " (names.map escaped) ++ "]"

end Schemata.Text
