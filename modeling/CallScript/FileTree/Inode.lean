import CallScript.IoError

/-!
# Nodes of a file tree

What a name in a file tree stands for: a directory, a file, a link to another path or the null file,
each with its mode. The mode has three bits for the owner, three for the owner's group and three for
all others, and above them the bits for special treatment.
-/

namespace CallScript

inductive Entry where
  | directory
  | file (content : ByteArray)
  | link (target : String)
  | null

/-- What can be allowed by a mode. -/
inductive Access where
  | read
  | write
  | execute
deriving DecidableEq

def Access.bit : Access → Nat
  | .read => 4
  | .write => 2
  | .execute => 1

structure Inode where
  entry : Entry
  mode : Nat
  /-- Whether the user who runs everything is the owner. -/
  isOwn : Bool
  /-- When the content was changed, in nanoseconds. -/
  time : Nat

namespace Inode

def isDirectory (node : Inode) : Bool :=
  match node.entry with
  | .directory => true
  | _ => false

def isFile (node : Inode) : Bool :=
  match node.entry with
  | .file _ => true
  | _ => false

def linkTarget? (node : Inode) : Option String :=
  match node.entry with
  | .link target => some target
  | _ => none

def rights (node : Inode) : Nat := if node.isOwn then node.mode / 64 % 8 else node.mode % 8

def allows (node : Inode) (access : Access) : Bool := node.rights.land access.bit != 0

def isExecutable (node : Inode) : Bool := node.mode.land 0o111 != 0

def isProgram (node : Inode) : Bool := node.isFile && node.allows .execute

/-- The content of a file; all else is empty. -/
def content (node : Inode) : ByteArray :=
  match node.entry with
  | .file content => content
  | _ => .empty

end Inode
end CallScript
