import Schemata.Text.Search

/-! # Paths

A path is a text of parts with slashes between them. Slashes in a row count as one, and a part that
is a single dot counts only at the start. -/

namespace Schemata.Path

/-- The parts between the slashes of a path, those without content left out. -/
def parts (path : String) : List String :=
  ((Text.splitOn (· == '/') path.toList).filter fun part => !part.isEmpty).map String.ofList

/-- Whether a path starts at the root. -/
def isAbsolute (path : String) : Bool := path.toList.head? == some '/'

/-- Whether a path ends with a slash. -/
def endsWithSlash (path : String) : Bool := path.toList.getLast? == some '/'

/-- The parts of a path that tell it from others: single dots are left out unless one starts the
path. -/
def components (path : String) : List String :=
  match parts path with
  | [] => []
  | first :: rest =>
      let rest := rest.filter (· != ".")
      if first == "." && isAbsolute path then rest else first :: rest

/-- Whether a path stands for the standard streams: a single dash. -/
def isDash (path : String) : Bool := !isAbsolute path && components path == ["-"]

/-- Parts without those at the front that tell nothing: empty ones and single dots. -/
def dropSilent (parts : List (List Char)) : List (List Char) :=
  parts.dropWhile fun part => part.isEmpty || part == ['.']

/-- The directory that the last component of a path is in, written as in the path; `none` when there
is no last component. The directory of a path with a single component is the empty path. -/
def parent? (path : String) : Option String :=
  match Text.splitOn (· == '/') path.toList with
  | [] => none
  | first :: rest =>
      match dropSilent rest.reverse with
      | [] => if first.isEmpty then none else some ""
      | _ :: before =>
          match (dropSilent before).reverse with
          | [] => some (if first.isEmpty then "/" else String.ofList first)
          | kept => some (String.intercalate "/" ((first :: kept).map String.ofList))

end Schemata.Path
