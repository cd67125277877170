import CallScript.Failure
import CallScript.FileTree.Operation

/-!
# Starting programs

A command names a program and its arguments, all of them octet texts. What happens when it is
started is up to the machine: a launcher says, for every command and every file tree, that the
program could not be started, or how it left the tree, what it wrote and how it ended.
-/

namespace CallScript

structure Command where
  program : String
  args : List String
deriving DecidableEq

/-- The command as one line, each part quoted; the program's name goes by bytes. -/
def Command.describe (command : Command) : String :=
  " ".intercalate (Text.quoteMixed command.program :: command.args.map Text.quoteOctets)

inductive Stream where
  | out
  | err
deriving DecidableEq

/-- How a program that was started came to its end. -/
structure Completion where
  tree : FileTree
  status : ExitStatus
  written : List (Stream × ByteArray)

abbrev Launcher := Command → FileTree → Except IoError Completion

end CallScript
