/-!
# Built-in functions

The names that a call can use. A call of any other name is kept in the host source as a comment.
-/

namespace CallScript

inductive Builtin where
  /-- Writes its arguments to standard output, separated by spaces and followed by a line break. -/
  | print
deriving DecidableEq

namespace Builtin

def name : Builtin → String
  | .print => "print"

def all : List Builtin := [.print]

def find? (name : String) : Option Builtin := all.find? fun builtin => builtin.name == name

end Builtin

def unknownCall (name : String) : String := "// unknown function: " ++ name

end CallScript
