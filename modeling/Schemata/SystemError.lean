/-! # Refusals of the operating system

The ways in which reading or writing a file fails, with the wording of Linux. -/

namespace Schemata

/-- Why the operating system, or the reading of what it delivered, failed. -/
inductive SystemError where
  /-- There is nothing at the path. -/
  | notFound
  /-- Something stands where a directory is to be made. -/
  | exists
  /-- A part of the path that is not the last is no directory. -/
  | notDirectory
  /-- The path names a directory where a file is wanted. -/
  | isDirectory
  /-- A part of the path is too long. -/
  | nameTooLong
  /-- The path holds a NUL character. -/
  | nulInPath
  /-- What was read is not UTF-8. -/
  | invalidUtf8
  /-- Any other failure, in the system's words. -/
  | other (text : String)
  deriving DecidableEq, Repr

/-- The wording of a failure. -/
def SystemError.message : SystemError → String
  | .notFound => "No such file or directory (os error 2)"
  | .exists => "File exists (os error 17)"
  | .notDirectory => "Not a directory (os error 20)"
  | .isDirectory => "Is a directory (os error 21)"
  | .nameTooLong => "File name too long (os error 36)"
  | .nulInPath => "file name contained an unexpected NUL byte"
  | .invalidUtf8 => "stream did not contain valid UTF-8"
  | .other text => text

end Schemata
