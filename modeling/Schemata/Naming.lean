import Schemata.Error
import Schemata.Text.Casing

/-! # Identifiers in output

The case style that is applied to identifiers, and the double quotes around them. -/

namespace Schemata

/-- How the case of identifiers is changed. -/
inductive CaseStyle where
  /-- Identifiers are left as they are. -/
  | unchanged
  /-- All upper case. -/
  | upper
  /-- All lower case. -/
  | lower
  /-- Words run together, each with a capital. -/
  | camel
  deriving DecidableEq, Repr, Inhabited

namespace CaseStyle

/-- The word for a style. -/
def label : CaseStyle → String
  | .unchanged => "unchanged"
  | .upper => "upper"
  | .lower => "lower"
  | .camel => "camel"

/-- The style that a word names; the case of the word does not count. -/
def ofText (text : String) : Except Error CaseStyle :=
  match Text.lowercase text with
  | "unchanged" | "none" => .ok .unchanged
  | "upper" | "uppercase" => .ok .upper
  | "lower" | "lowercase" => .ok .lower
  | "camel" | "camelcase" => .ok .camel
  | other => .error (.unknownCase other)

end CaseStyle

namespace Naming

/-- A name without the underscores at its ends. -/
def trimUnderscores (cs : List Char) : List Char :=
  ((cs.dropWhile (· == '_')).reverse.dropWhile (· == '_')).reverse

/-- The rest of a name in camel case: an underscore goes, and the character after it, whatever it
is, becomes a capital. -/
def camelRest : List Char → List Char
  | [] => []
  | [c] => if c = '_' then [] else [c]
  | c :: d :: rest =>
      if c = '_' then Text.upperChar d ++ camelRest rest else c :: camelRest (d :: rest)

/-- A name in camel case. -/
def camelChars (cs : List Char) : List Char :=
  match trimUnderscores cs with
  | [] => []
  | c :: rest => Text.upperChar c ++ camelRest rest

/-- A name in camel case. -/
def toCamel (text : String) : String := String.ofList (camelChars text.toList)

/-- A name in a case style. The name of the default schema is left as it is. -/
def applyCase (style : CaseStyle) (defaultSchema text : String) : String :=
  if text = defaultSchema then text
  else
    match style with
    | .unchanged => text
    | .upper => Text.uppercase text
    | .lower => Text.lowercase text
    | .camel => toCamel text

/-- Leaving names unchanged leaves them unchanged. -/
@[simp] theorem applyCase_unchanged (defaultSchema text : String) :
    applyCase .unchanged defaultSchema text = text := by
  simp [applyCase]

/-- The default schema keeps its name in every style. -/
@[simp] theorem applyCase_defaultSchema (style : CaseStyle) (defaultSchema : String) :
    applyCase style defaultSchema defaultSchema = defaultSchema := by
  simp [applyCase]

/-- A name between double quotes. A double quote inside the name is kept as it is. -/
def quote (text : String) : String := "\"" ++ text ++ "\""

/-- Names between double quotes, with a comma and a space between them. -/
def quoteList (names : List String) : String := String.intercalate ", " (names.map quote)

end Naming

end Schemata
