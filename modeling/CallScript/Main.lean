import CallScript.CommandLine
import CallScript.Shell.Run

/-!
# The program

The program works on a snapshot. The files that the arguments name are read into a file tree, the
request is carried out on that tree, and the files that it has changed are written back. Toolchains
and compiled programs are the scripts and utilities that `Shell` can run.
-/

namespace CallScript.Main

/-- The texts of the arguments that can be paths: the arguments and what stands behind an equals
sign in them. -/
def mentioned (args : List String) : List String :=
  args.flatMap fun arg =>
    match arg.toList.dropWhile (· ≠ '=') with
    | [] => [arg]
    | _ :: value => [arg, String.ofList value]

def placeOf (directory : Location) (path : String) : Location :=
  let octets := Octets.ofText path
  (Path.names octets).foldl
    (fun place name => if name = ".." then place.dropLast else place ++ [name])
    (if Path.isAbsolute octets then [] else directory)

def program (content : ByteArray) : Inode := ⟨.file content, 0o755, true, 0⟩

def directoryNode : Inode := ⟨.directory, 0o755, true, 0⟩

def load (directory : Location) (tree : FileTree) (paths : List String) : IO FileTree := do
  let mut tree := tree
  for path in paths do
    unless path.isEmpty || path.toList.contains '\x00' do
      try
        let content ← IO.FS.readBinFile path
        tree := tree.place (placeOf directory path) (program content)
      catch _ => pure ()
  return tree

/-- The files that differ from those read, each with whether it can be executed. -/
def changes (before after : FileTree) : List (String × ByteArray × Bool) :=
  (after.listing []).filterMap fun (path, node) =>
    let old? := (before.get? (Path.names path)).map fun node => node.content.data
    if node.isFile && old? ≠ some node.content.data then
      some ("/" ++ (Octets.toText? path).getD path, node.content, node.isExecutable)
    else none

def store (before after : FileTree) : IO Unit := do
  for (path, content, isExecutable) in changes before after do
    IO.FS.writeBinFile path content
    if isExecutable then
      IO.setAccessRights path ⟨⟨true, true, true⟩, ⟨true, false, true⟩, ⟨true, false, true⟩⟩

def newSuffix : IO String := do
  let letters := "abcdefghijklmnopqrstuvwxyzABCDEFGHIJKLMNOPQRSTUVWXYZ0123456789".toList
  let mut suffix := []
  for _ in List.range 6 do
    let n ← IO.rand 0 (letters.length - 1)
    suffix := letters.getD n 'a' :: suffix
  return String.ofList suffix

end CallScript.Main

open CallScript in
def main (args : List String) : IO UInt32 := do
  let directory := Main.placeOf [] (toString (← IO.currentDir))
  let scratchRoot := (← IO.getEnv "TMPDIR").getD "/tmp"
  let bindings := [("PATH", (← IO.getEnv "PATH").getD "")]
  let terminal : CommandLine.Terminal :=
    { host :=
        { directory := directory
          scratchRoot := scratchRoot
          rustCompiler? := ← IO.getEnv "RUSTC"
          suffix := ← Main.newSuffix
          launch := Shell.launch ⟨directory, bindings⟩ }
      logFilter? := ← IO.getEnv "RUST_LOG"
      platform := "linux/x86_64" }
  let start := Shell.install (fun _ => "") (FileTree.empty.place directory Main.directoryNode)
  let start := start.place (Main.placeOf directory scratchRoot) Main.directoryNode
  let before ← Main.load directory start (Main.mentioned args)
  let (outcome, after) := CommandLine.run terminal args before
  Main.store before after
  let out ← IO.getStdout
  out.write outcome.out
  out.flush
  let err ← IO.getStderr
  err.write outcome.err
  err.flush
  return UInt32.ofNat outcome.code
