/-!
# Input and output errors

Why a file operation failed, with the text of the operating system.
-/

namespace InstrumentBench

/-- A failure of a file operation. -/
inductive IoError where
  | notFound
  | busy
  | alreadyExists
  | notADirectory
  | isADirectory
  | invalidMove
  | nameTooLong
  | directoryNotEmpty
  | nulInPath
  /-- The contents of a file are not text in UTF-8. -/
  | notText
  /-- A failure known only by its text. -/
  | other (text : String)
  deriving DecidableEq, Repr

namespace IoError

/-- The text of the operating system for a failure. -/
def message : IoError → String
  | notFound => "No such file or directory (os error 2)"
  | busy => "Device or resource busy (os error 16)"
  | alreadyExists => "File exists (os error 17)"
  | notADirectory => "Not a directory (os error 20)"
  | isADirectory => "Is a directory (os error 21)"
  | invalidMove => "Invalid argument (os error 22)"
  | nameTooLong => "File name too long (os error 36)"
  | directoryNotEmpty => "Directory not empty (os error 39)"
  | nulInPath => "file name contained an unexpected NUL byte"
  | notText => "stream did not contain valid UTF-8"
  | other text => text

end IoError

/-- Why a file cannot be read or written as a document. -/
inductive FileError where
  | io (error : IoError)
  /-- The contents are not JSON, or not of the expected shape. -/
  | json
  deriving DecidableEq, Repr

namespace FileError

/-- The reason given for contents that cannot be decoded. -/
def jsonReason : String := "not a document of the expected form"

def message : FileError → String
  | io error => "I/O error: " ++ error.message
  | json => "JSON error: " ++ jsonReason

end FileError

end InstrumentBench
