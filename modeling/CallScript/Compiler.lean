import CallScript.HostSource
import CallScript.Toolchain

/-!
# Compiling

A source file is read, written out for the target and built by the toolchain in a temporary
directory. Compiling then moves the executable to its place, and running starts it where it is. The
temporary directory goes away however the job ends, and nothing is moved unless all went well.
-/

namespace CallScript

structure Options where
  target : Target
  toolchain? : Option String
  scratch? : Option String
deriving DecidableEq

instance : Inhabited Options := ⟨⟨default, none, none⟩⟩

/-- A temporary directory, by its path in octets. -/
structure BuildDirectory where
  path : String
deriving DecidableEq

namespace BuildDirectory

def mode : Nat := 0o700

def entry (directory : BuildDirectory) (name : String) : String := Path.join directory.path name

def make (host : Host) (path : String) (tree : FileTree) :
    Except IoError (BuildDirectory × FileTree) := do
  let made : Except IoError (BuildDirectory × FileTree) := do
    let tree ← (tree.makeDirectory host.directory (← FileTree.pathOf path) mode).mapError .os
    return (⟨path⟩, tree)
  made.mapError (.making path)

def remove (directory : BuildDirectory) (host : Host) (tree : FileTree) : FileTree :=
  match FileTree.pathOf directory.path with
  | .ok path => tree.removeAll host.directory path
  | .error _ => tree

end BuildDirectory

namespace Compiler

def origin : String := "mob_core::compiler"

def readerOrigin : String := "mob_core::parser"

def binaryName : String := "program"

def toolchain (host : Host) (options : Options) : Toolchain :=
  .choose host options.target options.toolchain?

def emitFile (host : Host) (options : Options) (path : String) : Job String := do
  Job.log .debug origin ("reading " ++ path)
  let source ← Job.query (.unreadable path) fun tree =>
    tree.readText host.directory (Octets.ofText path)
  let tokens := Token.scan source
  Job.log .debug origin ("lexed " ++ toString tokens.length ++ " token(s)")
  let reading := Reading.ofTokens tokens
  Job.logAll (reading.droppedLines.map fun line =>
    ⟨.debug, readerOrigin,
      "dropping statement without a leading identifier at line " ++ toString line⟩)
  match reading.program with
  | .error e => throw (.unparsable e)
  | .ok program =>
      Job.log .debug readerOrigin
        ("parsed " ++ toString program.statements.length ++ " statement(s)")
      return program.render options.target

def scratchRoot (host : Host) (options : Options) : String :=
  Octets.ofText (options.scratch?.getD host.scratchRoot)

def temporaryPath (host : Host) (options : Options) (kind : String) : String :=
  Path.join (Path.join host.directory.path (scratchRoot host options)) (kind ++ host.suffix)

/-- Makes a temporary directory. The path of the current directory must be known for a root that is
relative to it. -/
def makeDirectory (host : Host) (options : Options) (kind : String) (tree : FileTree) :
    Except IoError (BuildDirectory × FileTree) := do
  unless Path.isAbsolute (scratchRoot host options) do
    let _ ← host.current
  BuildDirectory.make host (temporaryPath host options kind) tree

/-- Does a job in a new temporary directory, which is taken away at the end. -/
def withDirectory {α : Type} (host : Host) (options : Options) (kind : String)
    (job : BuildDirectory → Job α) : Job α := fun world =>
  match makeDirectory host options kind world.tree with
  | .error cause => .error (.scratch cause) world
  | .ok (directory, tree) =>
      let body : Job α := do
        Job.log .debug origin ("created build directory " ++ Octets.shown directory.path)
        job directory
      match body { world with tree := tree } with
      | .ok value after => .ok value { after with tree := directory.remove host after.tree }
      | .error failure after =>
          .error failure { after with tree := directory.remove host after.tree }

/-- Writes the host source into a directory and builds it there; the path of the executable. -/
def buildIn (host : Host) (options : Options) (source : String) (directory : BuildDirectory) :
    Job String := do
  let code ← emitFile host options source
  let generated := directory.entry options.target.sourceFileName
  Job.change .scratch fun tree => tree.writeText host.directory generated code
  Job.log .debug origin ("wrote generated source to " ++ Octets.shown generated)
  let binary := directory.entry binaryName
  (toolchain host options).buildAt host generated binary
  return binary

def compile (host : Host) (options : Options) (source output : String) : Job Unit := do
  let target ← Job.query .scratch fun _ => host.absolute output
  withDirectory host options "mob_compile_" fun directory => do
    let binary ← buildIn host options source directory
    Job.attempt .scratch fun tree => tree.moveFile host.breaks host.directory binary target
    Job.log .info origin ("built " ++ source ++ " -> " ++ Octets.shown target)

def compileAndRun (host : Host) (options : Options) (source : String) : Job Unit :=
  withDirectory host options "mob_run_" fun directory => do
    let binary ← buildIn host options source directory
    Job.log .debug origin ("executing " ++ Octets.shown binary)
    let status ← Job.start host .programUnavailable ⟨binary, []⟩
    unless status = .success do
      throw (.programFailed status)

end Compiler
end CallScript
