import CallScript.Shell.State

/-!
# The search path

A program is found by its name in the directories of a list, which is a parameter of the script.
-/

namespace CallScript.Shell

def State.hasFile (state : State) (path : String) (fits : Inode → Bool) : Bool :=
  match state.tree.find state.directory path with
  | .ok (_, node) => fits node
  | .error _ => false

/-- The path of a file that is found by its name in the directories of a search path. -/
def State.findPath? (state : State) (searchPath name : String) (fits : Inode → Bool) :
    Option String :=
  let directories := Text.pieces ':' searchPath.toList
  (directories.map fun directory =>
    Path.push (if directory.isEmpty then "." else String.ofList directory) name).find? fun path =>
      state.hasFile path fits

def State.searchPath (state : State) : String := (state.value? "PATH").getD ""

def State.hasProgram (state : State) (name : String) : Bool :=
  if name.toList.contains '/' then state.hasFile name Inode.isProgram
  else (state.functions.lookup name).isNone &&
    (state.findPath? state.searchPath name Inode.isProgram).isSome

end CallScript.Shell
