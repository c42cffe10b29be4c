/-!
# File errors

Why a file cannot be read or written, and how the operating system words it.
-/

namespace LayoutParity

/-- Why reading or writing a file failed. -/
inductive FileError where
  /-- No file or directory has the path. -/
  | notFound
  /-- The path leads through something that is no directory. -/
  | notDirectory
  /-- The path is a directory, where a file is needed. -/
  | isDirectory
  /-- A part of the path has more bytes than a name may have. -/
  | nameTooLong
  /-- The path has a NUL character. -/
  | nulInPath
  /-- The bytes of the file are not UTF-8. -/
  | notText
  /-- Any other reason, in the words of the system. -/
  | other (reason : String)
deriving DecidableEq, Repr

/-- The wording of a file error. -/
def FileError.message : FileError → String
  | notFound => "No such file or directory (os error 2)"
  | notDirectory => "Not a directory (os error 20)"
  | isDirectory => "Is a directory (os error 21)"
  | nameTooLong => "File name too long (os error 36)"
  | nulInPath => "file name contained an unexpected NUL byte"
  | notText => "stream did not contain valid UTF-8"
  | other reason => reason

end LayoutParity
