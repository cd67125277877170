import CallScript.Shell.Utility.Mode

/-!
# Making and removing names

The utilities that make directories and take files and directories away.
-/

namespace CallScript.Shell.Invocation

/-! ## Directories -/

def mkdirOptions : OptionSpec where
  flags := "pvZ"
  valued := "m"
  names := [⟨"context", "Z", .optional⟩, .valued "mode" "m", .flag "parents" "p",
    .flag "verbose" "v"]

/-- Makes the directories of a path that are not there, and gives the paths that were made. The
error comes with the path that could not be made. -/
def makeDirectories (tree : FileTree) (directory : Location) (path : String) (mode : Nat) :
    Except (String × OsError) (FileTree × List String) :=
  let pieces := Path.pieces path
  let steps := (List.range pieces.length).map fun n => "/".intercalate (pieces.take (n + 1))
  (steps.filter fun step => !step.isEmpty).foldlM
    (fun ((tree, made) : FileTree × List String) step =>
      match tree.find directory step with
      | .ok (_, node) =>
          if node.isDirectory then .ok (tree, made)
          else .error (step, if step = Path.trimSlashes path then .exists else .notDirectory)
      | .error _ =>
          match tree.makeDirectory directory step mode with
          | .ok tree => .ok (tree, made ++ [step])
          | .error e => .error (step, e)) (tree, [])

def setMode (tree : FileTree) (directory : Location) (path : String) (mode : Nat) : FileTree :=
  match tree.find directory path with
  | .ok (place, _) =>
      match tree.number? place with
      | some number => tree.update number fun node => { node with mode := mode }
      | none => tree
  | .error _ => tree

def mkdir (call : Invocation) (arguments : Arguments) : Reply :=
  let refuse (path : String) (e : OsError) : String :=
    "cannot create directory " ++ quoted path ++ ": " ++ e.text
  let say (path : String) : String :=
    if arguments.has "v" then call.name ++ ": created directory " ++ quoted path ++ "\n" else ""
  let make (mode? : Option Nat) (tree : FileTree) (path : String) :
      Except String (FileTree × String) :=
    let finish (tree : FileTree) : FileTree :=
      match mode? with
      | some mode => setMode tree call.directory path mode
      | none => tree
    if arguments.has "p" then
      match makeDirectories tree call.directory path call.directoryMode with
      | .ok (tree, []) => .ok (tree, "")
      | .ok (tree, made) => .ok (finish tree, String.join (made.map say))
      | .error (step, e) => .error (refuse step e)
    else
      match tree.makeDirectory call.directory path call.directoryMode with
      | .ok tree => .ok (finish tree, say path)
      | .error e => .error (refuse path e)
  if arguments.operands.isEmpty then call.misuse "missing operand" 1
  else
    match arguments.value? "m" with
    | none => call.each arguments.operands (make none)
    | some text =>
        match ModeSpec.ofText? text with
        | none => call.fail ("invalid mode " ++ quoted text) 1
        | some spec =>
            call.each arguments.operands (make (some (spec.apply 0 true 0o777)))

def rmdirOptions : OptionSpec where
  flags := "pv"
  names := [.alone "ignore-fail-on-non-empty", .flag "parents" "p", .flag "path" "p",
    .flag "verbose" "v"]

/-- A path and those of the directories that it leads through, the longest first. -/
def pathAndParents (path : String) : List String :=
  let pieces := Path.pieces (Path.trimSlashes path)
  let fronts := (List.range pieces.length).reverse.map fun n =>
    Path.trimSlashes ("/".intercalate (pieces.take (n + 1)))
  fronts.filter fun front => !front.isEmpty

def removeEmpty (call : Invocation) (arguments : Arguments) :
    List (String × String) → Reply → Reply
  | [], reply => reply
  | (path, kind) :: others, reply =>
      let reply := if arguments.has "v" then
        reply.out (call.name ++ ": removing directory, " ++ quoted path ++ "\n") else reply
      match reply.tree.removeDirectory call.directory path with
      | .ok tree => removeEmpty call arguments others { reply with tree := tree }
      | .error e =>
          if e = .notEmpty && arguments.has "ignore-fail-on-non-empty" then reply
          else call.warn reply ("failed to remove " ++ kind ++ quoted path ++ ": " ++ e.text)

def rmdir (call : Invocation) (arguments : Arguments) : Reply :=
  if arguments.operands.isEmpty then call.misuse "missing operand" 1
  else
    arguments.operands.foldl
      (fun reply path =>
        let parents := if arguments.has "p" then (pathAndParents path).tail else []
        removeEmpty call arguments ((path, "") :: parents.map fun path => (path, "directory "))
          reply)
      call.done

/-! ## Files -/

def rmOptions : OptionSpec where
  flags := "dfirvIR"
  names := [.flag "force" "f", ⟨"interactive", "i", .optional⟩, .alone "one-file-system",
    .alone "no-preserve-root", ⟨"preserve-root", "preserve-root", .optional⟩,
    .flag "recursive" "r", .flag "dir" "d", .flag "verbose" "v"]

/-- What is left of the work of removing: a node that is not looked at yet, or the directory that is
empty by now. -/
inductive Removal where
  | node (place : Location) (path : String)
  | emptied (place : Location) (path : String)

/-- Removes nodes and all that is in them, the contents of a directory before itself. -/
def removeNodes (call : Invocation) (verbose : Bool) : Nat → List Removal → Reply → Reply
  | 0, _, reply => reply
  | _, [], reply => reply
  | fuel + 1, removal :: others, reply =>
      let refuse (path : String) (e : OsError) : Reply :=
        call.warn reply ("cannot remove " ++ quoted path ++ ": " ++ e.text)
      let erase (place : Location) (kind path : String) : Reply :=
        if reply.tree.isChangeable place then
          let reply := { reply with tree := reply.tree.erase place }
          if verbose then reply.out ("removed " ++ kind ++ quoted path ++ "\n") else reply
        else refuse path .permission
      match removal with
      | .emptied place path =>
          let reply :=
            if reply.tree.hasChildren place then reply else erase place "directory " path
          removeNodes call verbose fuel others reply
      | .node place path =>
          match reply.tree.get? place with
          | none => removeNodes call verbose fuel others reply
          | some node =>
              if !node.isDirectory then
                removeNodes call verbose fuel others (erase place "" path)
              else if !(node.allows .read) && reply.tree.hasChildren place then
                removeNodes call verbose fuel others (refuse path .permission)
              else
                let inner := (reply.tree.children place).map fun other =>
                  Removal.node (place ++ [other.1]) (Path.push path other.1)
                removeNodes call verbose fuel (inner ++ .emptied place path :: others) reply

def rm (call : Invocation) (arguments : Arguments) : Reply :=
  let isForced := arguments.last? ["f", "i"] = some "f"
  let isWhole := arguments.hasAny ["r", "R"]
  let verbose := arguments.has "v"
  if arguments.operands.isEmpty then
    if isForced then call.done else call.misuse "missing operand" 1
  else
    arguments.operands.foldl
      (fun reply path =>
        let refuse (e : OsError) : Reply :=
          call.warn reply ("cannot remove " ++ quoted path ++ ": " ++ e.text)
        let remove (removal : Removal) : Reply :=
          removeNodes call verbose (2 * reply.tree.names.length + 4) [removal] reply
        match reply.tree.findNamed call.directory path with
        | .error e =>
            if isForced && (e = .noEntry || e = .notDirectory) then reply else refuse e
        | .ok (place, node) =>
            if !node.isDirectory then remove (.node place path)
            else if !isWhole && !arguments.has "d" then refuse .isDirectory
            else if FileTree.endsInDots path && place ≠ [] then
              call.warn reply ("refusing to remove '.' or '..' directory: skipping " ++ quoted path)
            else if isWhole then remove (.node place (Path.trimSlashes path))
            else if reply.tree.hasChildren place then refuse .notEmpty
            else remove (.emptied place path))
      call.done

def unlink (call : Invocation) (arguments : Arguments) : Reply :=
  match arguments.operands with
  | [] => call.misuse "missing operand" 1
  | [path] =>
      match call.tree.unlink call.directory path with
      | .ok tree => { call.done with tree := tree }
      | .error e => call.fail ("cannot unlink " ++ quoted path ++ ": " ++ e.text) 1
  | _ :: extra :: _ => call.misuse ("extra operand " ++ quoted extra) 1

end CallScript.Shell.Invocation
