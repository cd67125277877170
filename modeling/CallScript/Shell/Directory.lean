import CallScript.Shell.State

/-!
# The current directory

A script knows its directory by the path on which it came there, and two dots in a path take the
last name of that path away, wherever a link may have led. Asked for the physical way, it goes by
the tree instead.
-/

namespace CallScript.Shell

/-- The path that a script has taken when it goes on from one path by another one. -/
def nextPath (path target : String) : String :=
  let start := if Path.isAbsolute target then [] else Path.names path
  let names := (Path.names target).foldl
    (fun names name => if name = ".." then names.dropLast else names ++ [name]) start
  Path.root (if Path.isAbsolute target then target else path) ++ "/".intercalate names

def State.enter? (state : State) (isPhysical : Bool) (target : String) : Option State := do
  let path := if isPhysical then target else nextPath state.path target
  let (place, node) ← (state.tree.find state.directory path).toOption
  guard (node.isDirectory && node.allows .execute)
  let path := if isPhysical then place.path else path
  let state := { state.assign "OLDPWD" state.path with directory := place, path := path }
  let state := state.assign "PWD" path
  let names := ["OLDPWD", "PWD"]
  return { state with
    status := 0, found := state.found.map fun other => { other with isStale := true }
    exported := names ++ state.exported.filter fun name => !names.contains name }

def State.directoryPath (state : State) (target : String) : List String :=
  let isBound := Path.isAbsolute target || target = "." || target = ".." ||
    target.startsWith "./" || target.startsWith "../"
  if isBound then [""]
  else
    ((state.value? "CDPATH").map fun text => (Text.pieces ':' text.toList).map String.ofList).getD
      [] ++ [""]

/-- Changes the current directory. A dash goes back to the one before, and shows it. -/
def State.changeDirectory (state : State) (isPhysical : Bool) (args : List String) : State :=
  let asked := args.headD ((state.value? "HOME").getD "")
  let target := if asked = "-" then (state.value? "OLDPWD").getD "" else asked
  let found? := (state.directoryPath target).findSome? fun directory => do
    let path := if directory.isEmpty then target else Path.push directory target
    let moved ← state.enter? isPhysical (if path.isEmpty then "." else path)
    return (moved, !directory.isEmpty)
  match found? with
  | none => state.complain ("can't cd to " ++ target) 2
  | some (moved, isSearched) =>
      if asked = "-" || isSearched then moved.writeText 1 (moved.path ++ "\n") else moved

end CallScript.Shell
