import CallScript.Launch
import CallScript.Log

/-!
# Jobs

A job works on a file tree, may start programs and may fail. Its world holds the tree and all that
has happened so far: what was logged, which commands were started and what was written. A job
that fails keeps the world it has reached.

What a job needs to know of its surroundings is a `Host`: the current directory, where temporary
directories go, and how programs start.
-/

namespace CallScript

structure Host where
  directory : Location
  scratchRoot : String
  /-- The program that the surroundings ask for in place of the default one for Rust. -/
  rustCompiler? : Option String
  suffix : String
  launch : Launcher
  /-- Why the path of the current directory cannot be got, if it cannot. -/
  lost? : Option OsError := none
  breaks : FileTree.Breaks := fun _ _ => none

namespace Host

/-- The path of the current directory, an octet text. -/
def current (host : Host) : Except IoError String :=
  match host.lost? with
  | none => .ok host.directory.path
  | some error => .error (.os error)

/-- The absolute form of a path, an octet text, of which the text is given. -/
def absolute (host : Host) (path : String) : Except IoError String :=
  Path.absolute host.current (Octets.ofText path)

end Host

inductive Event where
  | logged (record : Log.Record)
  | started (command : Command)
  | wrote (stream : Stream) (content : ByteArray)
  | printed (stream : Stream) (text : String)

structure World where
  tree : FileTree
  events : List Event

namespace World

def ofTree (tree : FileTree) : World := ⟨tree, []⟩

def record (world : World) (events : List Event) : World :=
  { world with events := world.events ++ events }

end World

abbrev Job := EStateM Failure World

namespace Job

def logAll (records : List Log.Record) : Job Unit :=
  modify fun world => world.record (records.map .logged)

def log (level : Log.Level) (origin message : String) : Job Unit :=
  logAll [⟨level, origin, message⟩]

def query {α : Type} (failure : IoError → Failure) (operation : FileTree → Except IoError α) :
    Job α := fun world =>
  match operation world.tree with
  | .ok value => .ok value world
  | .error cause => .error (failure cause) world

def change (failure : IoError → Failure) (operation : FileTree → Except IoError FileTree) :
    Job Unit := fun world =>
  match operation world.tree with
  | .ok tree => .ok () { world with tree := tree }
  | .error cause => .error (failure cause) world

/-- Changes the tree, also where that fails. -/
def attempt (failure : IoError → Failure)
    (operation : FileTree → EStateM.Result IoError FileTree Unit) : Job Unit := fun world =>
  match operation world.tree with
  | .ok _ tree => .ok () { world with tree := tree }
  | .error cause tree => .error (failure cause) { world with tree := tree }

def start (host : Host) (failure : IoError → Failure) (command : Command) : Job ExitStatus :=
  fun world =>
    match host.launch command world.tree with
    | .ok completion =>
        .ok completion.status
          (({ world with tree := completion.tree } : World).record
            (.started command :: completion.written.map fun part => .wrote part.1 part.2))
    | .error cause => .error (failure cause) world

/-- Starts a command without its standard streams; whether it was started and succeeded. -/
def probe (host : Host) (command : Command) : Job Bool := fun world =>
  match host.launch command world.tree with
  | .ok completion =>
      .ok (completion.status = .success)
        (({ world with tree := completion.tree } : World).record [.started command])
  | .error _ => .ok false world

end Job
end CallScript
