import CallScript.FileTree
import CallScript.Path

/-!
# Following paths

A path is followed name by name from a directory, or from the root if it is absolute. Two dots lead
to the directory above; a link on the way is replaced by the path that it holds. The errors are
those of the operating system.
-/

namespace CallScript.FileTree

def nameLimit : Nat := 255

/-- The least size of a path that is too long for the system. -/
def pathLimit : Nat := 4096

def linkLimit : Nat := 40

/-- Follows names from a location. A link is left to `jump`, which gets the location that the link
is seen from and the names that are still to be followed; the link that is the last name is followed
only if `follows` says so. -/
def steps (tree : FileTree) (follows : Bool)
    (jump : Location → List String → Except OsError Location) :
    Location → List String → Except OsError Location
  | here, [] => .ok here
  | here, name :: rest =>
      match tree.get? here with
      | none => .error .noEntry
      | some node =>
          if !node.isDirectory then .error .notDirectory
          else if name = "" then steps tree follows jump here rest
          else if !node.allows .execute then .error .permission
          else if name = "." then steps tree follows jump here rest
          else if name = ".." then steps tree follows jump here.dropLast rest
          else if nameLimit < name.length then .error .nameTooLong
          else
            match (tree.get? (here ++ [name])).bind Inode.linkTarget? with
            | none => steps tree follows jump (here ++ [name]) rest
            | some target =>
                if rest.isEmpty && !follows then .ok (here ++ [name])
                else jump (if Path.isAbsolute target then [] else here) (Path.pieces target ++ rest)

def walk (tree : FileTree) (follows : Bool) :
    Nat → Location → List String → Except OsError Location
  | 0 => tree.steps follows fun _ _ => .error .tooManyLinks
  | links + 1 => tree.steps follows (tree.walk follows links)

/-- The location that a path leads to. There need be no node there, but there is a directory to hold
it. -/
def resolve (tree : FileTree) (directory : Location) (path : String) (follows : Bool) :
    Except OsError Location :=
  if path.isEmpty then .error .noEntry
  else if pathLimit ≤ path.length then .error .nameTooLong
  else
    tree.walk follows linkLimit (if Path.isAbsolute path then [] else directory) (Path.pieces path)

def at? (tree : FileTree) (place : Location) : Except OsError (Location × Inode) :=
  match tree.get? place with
  | some node => .ok (place, node)
  | none => .error .noEntry

def find (tree : FileTree) (directory : Location) (path : String) :
    Except OsError (Location × Inode) :=
  tree.resolve directory path true >>= tree.at?

def findNamed (tree : FileTree) (directory : Location) (path : String) :
    Except OsError (Location × Inode) :=
  tree.resolve directory path false >>= tree.at?

/-- The location at which a path makes a name. Slashes at the end of the path are ignored. -/
def resolveNew (tree : FileTree) (directory : Location) (path : String) :
    Except OsError Location :=
  if path.isEmpty then .error .noEntry
  else if pathLimit ≤ path.length then .error .nameTooLong
  else
    let trimmed := Path.trimSlashes path
    if trimmed.isEmpty then .ok [] else tree.resolve directory trimmed false

def endsInDots (path : String) : Bool :=
  [some "", some ".", some ".."].contains (Path.pieces (Path.trimSlashes path)).getLast?

end CallScript.FileTree
