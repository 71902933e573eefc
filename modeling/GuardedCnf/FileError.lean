/-! # Why a file cannot be used -/

namespace GuardedCnf

/-- What the file system answers instead of a file. -/
inductive FileError where
  | notFound
  | notDirectory
  | isDirectory
  | permissionDenied
  /-- The path follows too many links. -/
  | tooManyLinks
  /-- There is a file already. -/
  | exists
  | notEmpty
  /-- A part of the path, or the whole path, is too long. -/
  | nameTooLong
  /-- The path holds a zero character. -/
  | zeroInName
  /-- A command or an argument of it holds a zero character. -/
  | zeroInArgument
  /-- There is no room for more bytes. -/
  | noSpace
  /-- The device is not there. -/
  | noDevice
  /-- The content is no UTF-8. -/
  | notText
  /-- Any other answer, in the words of the system. -/
  | other (text : String)

/-- The wording of an answer. -/
def FileError.message : FileError → String
  | .notFound => "No such file or directory (os error 2)"
  | .notDirectory => "Not a directory (os error 20)"
  | .isDirectory => "Is a directory (os error 21)"
  | .permissionDenied => "Permission denied (os error 13)"
  | .nameTooLong => "File name too long (os error 36)"
  | .tooManyLinks => "Too many levels of symbolic links (os error 40)"
  | .exists => "File exists (os error 17)"
  | .notEmpty => "Directory not empty (os error 39)"
  | .zeroInName => "file name contained an unexpected NUL byte"
  | .zeroInArgument => "nul byte found in provided data"
  | .noSpace => "No space left on device (os error 28)"
  | .noDevice => "No such device or address (os error 6)"
  | .notText => "stream did not contain valid UTF-8"
  | .other text => text

/-- The bytes of an open file, or why they cannot be read. -/
abbrev Source := Except FileError (List UInt8)

end GuardedCnf
