import CallScript.FileTree.Walk

/-!
# Operations on files

The operations of the file system. They take a path, follow it from a current directory and report
the errors of the operating system. Those at the end are what a program calls: their errors are
those of a program that reads and writes texts, and they refuse a path with a NUL byte.

All is one file system, so moving by name never leads to another device. The user is not the
superuser, and every directory is treated as one that is not sticky: whoever may change it may take
away any name in it. There is room for everything but the content of a copy, which can break off.
-/

namespace CallScript.FileTree

def fileMode : Nat := 0o666

def directoryMode : Nat := 0o777

def standardMask : Nat := 0o022

def masked (mode mask : Nat) : Nat := mode - mode.land mask

/-- Whether names can be made and taken away in the directory that holds a location. -/
def isChangeable (tree : FileTree) (place : Location) : Bool :=
  (tree.get? place.dropLast).all fun node => node.allows .write && node.allows .execute

def checkChangeable (tree : FileTree) (place : Location) : Except OsError Unit :=
  if tree.isChangeable place then .ok () else .error .permission

def newNode (tree : FileTree) (entry : Entry) (mode : Nat) : Inode := ⟨entry, mode, true, tree.now⟩

/-! ## Content -/

def contentOf (node : Inode) : Except OsError ByteArray :=
  if !node.allows .read then .error .permission
  else if node.isDirectory then .error .isDirectory
  else .ok node.content

def readBytes (tree : FileTree) (directory : Location) (path : String) :
    Except OsError ByteArray := do
  contentOf (← tree.find directory path).2

/-- The location of a file that can be written to, which need not exist. -/
def resolveFile (tree : FileTree) (directory : Location) (path : String) :
    Except OsError Location := do
  if !path.isEmpty && Path.endsInSlash path then
    let _ ← tree.resolveNew directory path
    throw .isDirectory
  let place ← tree.resolve directory path true
  match tree.get? place with
  | some node =>
      if node.isDirectory then throw .isDirectory
      else if node.allows .write then return place
      else throw .permission
  | none =>
      tree.checkChangeable place
      return place

/-- Gives the node of a number a content. The null file stays as it is. -/
def setContent (tree : FileTree) (number : Nat) (content : ByteArray) : FileTree :=
  tree.update number fun node =>
    if node.isFile then { node with entry := .file content, time := tree.now } else node

/-- Writes the content of a file at a location. A file that is not there is made with the mode. -/
def overwrite (tree : FileTree) (place : Location) (content : ByteArray) (mode : Nat) : FileTree :=
  match tree.number? place with
  | some number => tree.setContent number content
  | none => tree.put place (tree.newNode (.file content) mode)

def writeBytes (tree : FileTree) (directory : Location) (path : String) (content : ByteArray)
    (mode : Nat) : Except OsError FileTree := do
  return tree.overwrite (← tree.resolveFile directory path) content mode

/-! ## Names -/

def makeDirectory (tree : FileTree) (directory : Location) (path : String) (mode : Nat) :
    Except OsError FileTree := do
  let place ← tree.resolveNew directory path
  if (tree.get? place).isSome then throw .exists
  tree.checkChangeable place
  return tree.put place (tree.newNode .directory mode)

def makeLink (tree : FileTree) (directory : Location) (target path : String) :
    Except OsError FileTree := do
  let place ← tree.resolveNew directory path
  if (tree.get? place).isSome then throw .exists
  if Path.endsInSlash path then throw .noEntry
  tree.checkChangeable place
  return tree.put place (tree.newNode (.link target) 0o777)

def unlink (tree : FileTree) (directory : Location) (path : String) : Except OsError FileTree := do
  let (place, node) ← tree.findNamed directory path
  if node.isDirectory then throw .isDirectory
  tree.checkChangeable place
  return tree.erase place

def removeDirectory (tree : FileTree) (directory : Location) (path : String) :
    Except OsError FileTree := do
  let (place, node) ← tree.findNamed directory path
  if (Path.pieces (Path.trimSlashes path)).getLast? = some "." then throw .invalid
  if !node.isDirectory then throw .notDirectory
  if tree.hasChildren place then throw .notEmpty
  tree.checkChangeable place
  return tree.erase place

def isRemovable (tree : FileTree) (place : Location) : Bool :=
  tree.isChangeable place && tree.names.all fun other =>
    !place.isPrefixOf other.1 || (tree.nodes[other.2]?).all fun node =>
      !node.isDirectory || [Access.read, .write, .execute].all node.allows

/-- Takes a directory with all that is in it away; of a link only the link itself goes. -/
def removeAll (tree : FileTree) (directory : Location) (path : String) : FileTree :=
  match tree.findNamed directory path with
  | .ok (place, node) =>
      if node.isDirectory && tree.isRemovable place ||
          node.linkTarget?.isSome && tree.isChangeable place then tree.erase place
      else tree
  | .error _ => tree

/-- Moves a node by name. A directory goes to a free place or replaces an empty directory, all else
goes to a free place or replaces what is no directory. Between two names of one file nothing is
moved. -/
def rename (tree : FileTree) (directory : Location) (source target : String) :
    Except OsError FileTree := do
  let old ← tree.resolveNew directory source
  let new ← tree.resolveNew directory target
  if endsInDots source || endsInDots target then throw .busy
  let (_, node) ← tree.at? old
  if !node.isDirectory && (Path.endsInSlash source || Path.endsInSlash target) then
    throw .notDirectory
  if node.isDirectory && old ≠ new && old.isPrefixOf new then throw .invalid
  if new ≠ old && new.isPrefixOf old then throw .notEmpty
  if tree.number? old = tree.number? new then return tree
  tree.checkChangeable old
  tree.checkChangeable new
  match tree.get? new with
  | some other =>
      if node.isDirectory && !other.isDirectory then throw .notDirectory
      if !node.isDirectory && other.isDirectory then throw .isDirectory
  | none => pure ()
  if node.isDirectory && old.dropLast ≠ new.dropLast && !node.allows .write then throw .permission
  if tree.hasChildren new then throw .notEmpty
  return tree.move old new

/-- Gives a file one more name. A link is not followed. -/
def makeName (tree : FileTree) (directory : Location) (source target : String) :
    Except OsError FileTree := do
  let (old, node) ← tree.findNamed directory source
  let new ← tree.resolveNew directory target
  if (tree.get? new).isSome then throw .exists
  if node.isDirectory then throw .notPermitted
  if Path.endsInSlash target then throw .noEntry
  tree.checkChangeable new
  match tree.number? old with
  | some number => return tree.link new number
  | none => throw .notPermitted

/-! ## Calls of a program -/

/-- The path for the file system. A path with a NUL byte reaches none. -/
def pathOf (path : String) : Except IoError String :=
  if path.toList.contains '\x00' then .error .nulInPath else .ok path

def readText (tree : FileTree) (directory : Location) (path : String) :
    Except IoError String := do
  let content ← (tree.readBytes directory (← pathOf path)).mapError .os
  match String.fromUTF8? content with
  | some text => return text
  | none => throw .notUtf8

def writeText (tree : FileTree) (directory : Location) (path text : String) :
    Except IoError FileTree := do
  let mode := masked fileMode standardMask
  (tree.writeBytes directory (← pathOf path) text.toUTF8 mode).mapError .os

/-! ## Copying -/

/-- How much of a content is copied when the copy breaks off, and why it does. -/
structure Break where
  size : Nat
  cause : OsError

/-- Where the copy to a location breaks off, if it does. -/
abbrev Breaks := FileTree → Location → Option Break

/-- The file to be copied, with its location, and the location that it is copied to. -/
def openCopy (tree : FileTree) (directory : Location) (source target : String) :
    Except IoError (Location × Inode × Location) := do
  let (taken, node) ← (tree.find directory (← pathOf source)).mapError .os
  if !node.allows .read then throw (.os .permission)
  if !node.isFile then throw .notRegularFile
  let place ← (tree.resolveFile directory (← pathOf target)).mapError .os
  return (taken, node, place)

/-- Gives the file at a location a mode. The null file stays as it is. -/
def setMode (tree : FileTree) (place : Location) (mode : Nat) : FileTree :=
  match tree.number? place with
  | some number =>
      tree.update number fun node => if node.isFile then { node with mode := mode } else node
  | none => tree

/-- Copies a file with its mode. What stands at the target is emptied first, and only its owner can
give it the mode. A copy that fails leaves what it has come to. -/
def copyFile (tree : FileTree) (breaks : Breaks) (directory : Location) (source target : String) :
    EStateM.Result IoError FileTree Unit :=
  match tree.openCopy directory source target with
  | .error cause => .error cause tree
  | .ok (taken, node, place) =>
      let emptied := tree.overwrite place .empty node.mode
      if (emptied.get? place).any fun file => file.isFile && !file.isOwn then
        .error (.os .notPermitted) emptied
      else
        let ready := emptied.setMode place node.mode
        let content := ((ready.get? taken).map Inode.content).getD .empty
        match breaks ready place with
        | none => .ok () (ready.overwrite place content node.mode)
        | some stop =>
            .error (.os stop.cause) (ready.overwrite place (content.extract 0 stop.size) node.mode)

/-- Moves a file by name, or copies it where that is refused. The error is that of the copy. -/
def moveFile (tree : FileTree) (breaks : Breaks) (directory : Location) (source target : String) :
    EStateM.Result IoError FileTree Unit :=
  match pathOf source, pathOf target with
  | .ok old, .ok new =>
      match tree.rename directory old new with
      | .ok moved => .ok () moved
      | .error _ => tree.copyFile breaks directory source target
  | _, _ => tree.copyFile breaks directory source target

end CallScript.FileTree
