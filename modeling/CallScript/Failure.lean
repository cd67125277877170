import CallScript.IoError
import CallScript.Reading
import CallScript.Target

/-!
# Failures of the compiler

Each cause holds what its message needs. A cause that comes from the machine also gives the error of
the machine as its source.
-/

namespace CallScript

/-- How a process ended: with an exit code, or by a signal. -/
inductive ExitStatus where
  | exited (code : Int)
  | signalled
deriving DecidableEq

namespace ExitStatus

def success : ExitStatus := .exited 0

def describe : ExitStatus → String
  | .exited code => "status " ++ toString code
  | .signalled => "a signal"

end ExitStatus

inductive Failure where
  | unreadable (path : String) (cause : IoError)
  | unparsable (error : ParseError)
  | unsupportedTarget (name : String)
  | scratch (cause : IoError)
  | toolchainUnavailable (program : String) (cause : IoError)
  | toolchainFailed (program : String) (status : ExitStatus)
  | programUnavailable (cause : IoError)
  | programFailed (status : ExitStatus)
deriving DecidableEq

namespace Failure

def message : Failure → String
  | .unreadable path cause => "failed to read source file " ++ path ++ ": " ++ cause.message
  | .unparsable error =>
      "parse error at line " ++ toString error.line ++ ": expected " ++ error.expected
  | .unsupportedTarget name => "unsupported target: " ++ name
  | .scratch cause => "build file I/O failed: " ++ cause.message
  | .toolchainUnavailable program cause =>
      "toolchain `" ++ program ++ "` could not be started: " ++ cause.message
  | .toolchainFailed program status =>
      "compilation failed: `" ++ program ++ "` exited with " ++ status.describe
  | .programUnavailable cause => "failed to start compiled program: " ++ cause.message
  | .programFailed status => "program exited with " ++ status.describe

def source? : Failure → Option IoError
  | .unreadable _ cause => some cause
  | .scratch cause => some cause
  | .toolchainUnavailable _ cause => some cause
  | .programUnavailable cause => some cause
  | _ => none

end Failure

/-- The target of a name; without a name it is the default one. -/
def Target.choose : Option String → Except Failure Target
  | none => .ok default
  | some name => (Target.ofName? name).elim (.error (.unsupportedTarget name)) .ok

end CallScript
