import CallScript.Text.Quoted

/-!
# Errors of files and processes

What can go wrong between the compiler and the machine it runs on, with the text of each.
-/

namespace CallScript

/-- The errors that the operating system reports by number. -/
inductive OsError where
  | notPermitted
  | noEntry
  | badFormat
  | badDescriptor
  | permission
  | busy
  | exists
  | notDirectory
  | isDirectory
  | invalid
  | noSpace
  | nameTooLong
  | notEmpty
  | tooManyLinks
deriving DecidableEq

namespace OsError

def code : OsError → Nat
  | .notPermitted => 1
  | .noEntry => 2
  | .badFormat => 8
  | .badDescriptor => 9
  | .permission => 13
  | .busy => 16
  | .exists => 17
  | .notDirectory => 20
  | .isDirectory => 21
  | .invalid => 22
  | .noSpace => 28
  | .nameTooLong => 36
  | .notEmpty => 39
  | .tooManyLinks => 40

def text : OsError → String
  | .notPermitted => "Operation not permitted"
  | .noEntry => "No such file or directory"
  | .badFormat => "Exec format error"
  | .badDescriptor => "Bad file descriptor"
  | .permission => "Permission denied"
  | .busy => "Device or resource busy"
  | .exists => "File exists"
  | .notDirectory => "Not a directory"
  | .isDirectory => "Is a directory"
  | .invalid => "Invalid argument"
  | .noSpace => "No space left on device"
  | .nameTooLong => "File name too long"
  | .notEmpty => "Directory not empty"
  | .tooManyLinks => "Too many levels of symbolic links"

def message (error : OsError) : String :=
  error.text ++ " (os error " ++ toString error.code ++ ")"

end OsError

inductive IoError where
  | os (error : OsError)
  | nulInPath
  | nulInCommand
  | notUtf8
  | emptyPath
  | notRegularFile
  | other (text : String)
  /-- The path is an octet text. -/
  | making (path : String) (cause : IoError)
deriving DecidableEq

namespace IoError

def message : IoError → String
  | .os error => error.message
  | .nulInPath => "file name contained an unexpected NUL byte"
  | .nulInCommand => "nul byte found in provided data"
  | .notUtf8 => "stream did not contain valid UTF-8"
  | .emptyPath => "cannot make an empty path absolute"
  | .notRegularFile => "the source path is neither a regular file nor a symlink to a regular file"
  | .other text => text
  | .making path cause => cause.message ++ " at path " ++ Text.quoteOctets path

end IoError
end CallScript
