namespace ApiTree.Files

/-!
# Faults of file operations

The faults are those of the operating system, with its texts and numbers, and
two of our own: a path holds a zero, or a file that was to be read as text is
not UTF-8.
-/

/-- Why a file operation failed. -/
inductive FileFault where
  | missing
  | badFormat
  | denied
  | busy
  | notDirectory
  | isDirectory
  | nameTooLong
  | zeroInName
  | notText
  /-- A fault that is only known by its text. -/
  | other (text : String)
  deriving Repr, DecidableEq

/-- The text of a fault. -/
def FileFault.text : FileFault → String
  | .missing => "No such file or directory (os error 2)"
  | .badFormat => "Exec format error (os error 8)"
  | .denied => "Permission denied (os error 13)"
  | .busy => "Device or resource busy (os error 16)"
  | .notDirectory => "Not a directory (os error 20)"
  | .isDirectory => "Is a directory (os error 21)"
  | .nameTooLong => "File name too long (os error 36)"
  | .zeroInName => "file name contained an unexpected NUL byte"
  | .notText => "stream did not contain valid UTF-8"
  | .other text => text

end ApiTree.Files
