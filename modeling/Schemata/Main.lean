import Schemata.Cli.Run

/-! # The program

The command line on a real host: files of the file system and the standard streams. -/

namespace Schemata

/-- The cause of a failure of the system. -/
def SystemError.ofIO : IO.Error → SystemError
  | .noFileOrDirectory .. => .notFound
  | .alreadyExists .. => .exists
  | e => .other (toString e)

/-- The answer of an action that may fail. -/
def answer {α : Type} (act : IO α) : IO (Except SystemError α) := do
  match ← act.toBaseIO with
  | .ok a => return .ok a
  | .error e => return .error (.ofIO e)

/-- The system is a host. -/
instance : Cli.Host IO where
  readFile path := answer (IO.FS.readBinFile path)
  writeFile path text := answer (IO.FS.writeFile path text)
  openLog path := answer do
    if let some parent := Path.parent? path then
      unless parent.isEmpty do IO.FS.createDirAll parent
    IO.FS.writeFile path ""
  readInput := do (← IO.getStdin).readBinToEnd
  print text := IO.print text
  printError text := IO.eprint text

end Schemata

/-- Run the program with the arguments of its command line. -/
def main (args : List String) : IO UInt32 := do
  return (← (Schemata.Cli.run args : IO Nat)).toUInt32
