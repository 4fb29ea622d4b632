import Schemata.Error

/-! # Reports of failure

What the program says when it fails: what it was doing, and below it the causes, each the cause of
the one before. -/

namespace Schemata.Cli

/-- A failure: the outermost message, then its causes. -/
structure Failure where
  /-- What failed. -/
  message : String
  /-- Why, from the nearest cause to the farthest. -/
  causes : List String
  deriving DecidableEq, Repr

namespace Failure

/-- The messages of an error: a failure of the system is its own cause. -/
def messages (e : Error) : List String :=
  match e with
  | .io cause => [e.message, cause.message]
  | _ => [e.message]

/-- The failure of something that an error stopped. -/
def during (doing : String) (e : Error) : Failure := ⟨doing, messages e⟩

/-- An error by itself. -/
def ofError (e : Error) : Failure := ⟨e.message, (messages e).drop 1⟩

/-- A text whose lines but the first are set in. -/
def hang (margin text : String) : String :=
  String.ofList
    (text.toList.flatMap fun c => if c = '\n' then '\n' :: margin.toList else [c])

/-- A cause among several, with its number before it. -/
def numbered (number : Nat) (text : String) : String :=
  let digits := toString number
  "\n" ++ String.ofList (List.replicate (5 - digits.length) ' ') ++ digits ++ ": "
    ++ hang "       " text

/-- Causes with their numbers, from a number on. -/
def numberedFrom (number : Nat) : List String → String
  | [] => ""
  | text :: rest => numbered number text ++ numberedFrom (number + 1) rest

/-- The text of a failure. A single cause has no number. -/
def text (f : Failure) : String :=
  "Error: " ++ f.message
    ++ (match f.causes with
      | [] => ""
      | [cause] => "\n\nCaused by:\n    " ++ hang "    " cause
      | causes => "\n\nCaused by:" ++ numberedFrom 0 causes)
    ++ "\n"

end Failure

end Schemata.Cli
