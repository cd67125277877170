import CallScript.Text.ControlSequence

/-!
# Log records

A record has a level, an origin and a message. It is written on a line of its own; the lines of a
longer message are indented, and what a terminal would take for commands is left out.
-/

namespace CallScript.Log

inductive Level where
  | error
  | warn
  | info
  | debug
  | trace
deriving DecidableEq

namespace Level

def rank : Level → Nat
  | .error => 1
  | .warn => 2
  | .info => 3
  | .debug => 4
  | .trace => 5

def column : Level → String
  | .error => "ERROR"
  | .warn => "WARN "
  | .info => "INFO "
  | .debug => "DEBUG"
  | .trace => "TRACE"

end Level

structure Record where
  level : Level
  origin : String
  message : String
deriving DecidableEq

/-- A text whose lines but the first are indented. -/
def indent (text : List Char) : List Char :=
  text.flatMap fun c => if c = '\n' then "\n    ".toList else [c]

def Record.line (record : Record) : String :=
  Text.withoutControls
    ("[" ++ record.level.column ++ " " ++ record.origin ++ "] " ++
      String.ofList (indent record.message.toList) ++ "\n")

end CallScript.Log
