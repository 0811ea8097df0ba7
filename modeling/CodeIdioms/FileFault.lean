/-! # Faults of the file system

The reasons for which a file or directory cannot be read, or a stream cannot be written, with the
texts that users know. -/

namespace CodeIdioms

/-- Why a file cannot be read, or a stream cannot be written. -/
inductive FileFault where
  | notFound
  | denied
  | notDirectory
  | isDirectory
  | tooManyLinks
  | nameTooLong
  | noSpace
  | badName
  | notText
  | other (description : String)
deriving DecidableEq, Repr

/-- The text of a fault. -/
def FileFault.message : FileFault → String
  | notFound => "No such file or directory (os error 2)"
  | denied => "Permission denied (os error 13)"
  | notDirectory => "Not a directory (os error 20)"
  | isDirectory => "Is a directory (os error 21)"
  | nameTooLong => "File name too long (os error 36)"
  | noSpace => "No space left on device (os error 28)"
  | tooManyLinks => "Too many levels of symbolic links (os error 40)"
  | badName => "file name contained an unexpected NUL byte"
  | notText => "stream did not contain valid UTF-8"
  | other description => description

end CodeIdioms
