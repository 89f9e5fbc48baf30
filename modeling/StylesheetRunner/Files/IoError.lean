/-!
Reasons for which the operating system refuses to read, write, connect or launch.
-/

namespace StylesheetRunner

inductive IoError where
  | notFound
  | permissionDenied
  | alreadyExists
  | notADirectory
  | isADirectory
  | addressInUse
  | nameTooLong
  | notUtf8
  | nulByte
  | nulInName
  | other (text : String)
deriving DecidableEq, Repr

def IoError.message : IoError → String
  | .notFound => "No such file or directory (os error 2)"
  | .permissionDenied => "Permission denied (os error 13)"
  | .alreadyExists => "File exists (os error 17)"
  | .notADirectory => "Not a directory (os error 20)"
  | .isADirectory => "Is a directory (os error 21)"
  | .nameTooLong => "File name too long (os error 36)"
  | .addressInUse => "Address already in use (os error 98)"
  | .notUtf8 => "stream did not contain valid UTF-8"
  | .nulByte => "nul byte found in provided data"
  | .nulInName => "file name contained an unexpected NUL byte"
  | .other text => text

end StylesheetRunner
