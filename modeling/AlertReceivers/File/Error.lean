/-
# Files that cannot be read

Key definitions: `FileError`, `FileError.message`.
-/

namespace AlertReceivers

/-- Why a file cannot be read as text. -/
inductive FileError where
  /-- There is nothing of that name. -/
  | absent
  /-- The name leads through something that is no directory. -/
  | notDirectory
  /-- The name is that of a directory. -/
  | directory
  /-- The name, or a part of it, is too long. -/
  | tooLong
  /-- A zero character stands in the name. -/
  | zeroInName
  /-- The octets are no text. -/
  | notText
  /-- Another reason, in words. -/
  | other (words : String)
deriving DecidableEq

/-- What is said of a file that cannot be read. -/
def FileError.message : FileError → String
  | absent => "No such file or directory (os error 2)"
  | notDirectory => "Not a directory (os error 20)"
  | directory => "Is a directory (os error 21)"
  | tooLong => "File name too long (os error 36)"
  | zeroInName => "file name contained an unexpected NUL byte"
  | notText => "stream did not contain valid UTF-8"
  | other words => words

end AlertReceivers
