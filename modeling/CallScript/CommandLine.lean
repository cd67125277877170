import CallScript.CommandLine.Arguments
import CallScript.Log.Filter

/-!
# The command line

A request is carried out as a job, and what the job leaves is shown: what was written, the log
records that the filter lets through, and for a request that failed one message. The exit code is 0
for success and 1 for a failure, except that the code of a program that was run is passed on.
-/

namespace CallScript.CommandLine

def version : String := "mob 0.1.0"

def origin : String := "mob"

/-- The machine that the command line runs on. -/
structure Terminal where
  host : Host
  logFilter? : Option String
  /-- Operating system and processor. -/
  platform : String

/-- Why a request failed. -/
inductive Complaint where
  | unknownCommand (name : String)
  | failed (context : String) (failure : Failure)
deriving DecidableEq

namespace Complaint

def message : Complaint → String
  | .unknownCommand name => "unknown command: " ++ name
  | .failed context failure =>
      ": ".intercalate (context :: failure.message :: failure.source?.toList.map IoError.message)

/-- The code of a program that was run is passed on if it fits into a byte. -/
def exitCode : Complaint → Nat
  | .failed _ (.programFailed (.exited code)) =>
      if 0 ≤ code ∧ code ≤ 255 then code.toNat else 1
  | _ => 1

end Complaint

abbrev Task := EStateM Complaint World

def attempt {α : Type} (context : String) (job : Job α) : Task α :=
  job.adaptExcept (.failed context)

def log (level : Log.Level) (message : String) : Task Unit :=
  modify fun world => world.record [.logged ⟨level, origin, message⟩]

def print (text : String) : Task Unit :=
  modify fun world => world.record [.printed .out text]

def runFile (host : Host) (options : Options) (file : String) : Task Unit := do
  log .info ("running " ++ file)
  attempt ("failed to run " ++ file) (Compiler.compileAndRun host options file)

def showInfo (terminal : Terminal) (options : Options) : Task Unit := do
  let toolchain := Compiler.toolchain terminal.host options
  let available ← attempt "" (toolchain.isAvailable terminal.host)
  print (version ++ "\n")
  print ("target:    " ++ toolchain.target.name ++ "\n")
  print ("toolchain: " ++ toolchain.program ++
    (if available then " (available)\n" else " (not found)\n"))
  print ("platform:  " ++ terminal.platform ++ "\n")

def perform (terminal : Terminal) (request : Request) : Task Unit :=
  let host := terminal.host
  let options := request.options
  match request.action with
  | .run file => runFile host options file
  | .build file output => do
      log .info ("building " ++ file ++ " for " ++ options.target.name)
      attempt ("failed to build " ++ file) (Compiler.compile host options file output)
      print ("Build successful! Output: " ++ output ++ "\n")
  | .emit file => do
      print (← attempt ("failed to compile " ++ file) (Compiler.emitFile host options file))
  | .version => print (version ++ "\n")
  | .info => showInfo terminal options
  | .external name =>
      if Path.extension? name = some "mob" then runFile host options name
      else throw (.unknownCommand name)

/-- What a run of the command line shows. -/
structure Outcome where
  code : Nat
  out : ByteArray
  err : ByteArray

def shownOn (filter : Log.Filter) (stream : Stream) : Event → ByteArray
  | .logged record =>
      if stream = .err && filter.admits record then record.line.toUTF8 else .empty
  | .started _ => .empty
  | .wrote written content => if written = stream then content else .empty
  | .printed written text => if written = stream then text.toUTF8 else .empty

def shown (filter : Log.Filter) (stream : Stream) (events : List Event) : ByteArray :=
  events.foldl (fun content event => content ++ shownOn filter stream event) .empty

def filterText (terminal : Terminal) (request : Request) : String :=
  terminal.logFilter?.getD (if request.verbose then "debug" else "warn")

def execute (terminal : Terminal) (request : Request) (tree : FileTree) : Outcome × FileTree :=
  let text := filterText terminal request
  let (filter, warnings) := Log.Filter.ofText text
  let warned := warnings.map fun warning =>
    Event.printed .err ("warning: " ++ warning.message ++ ", ignoring it\n")
  match perform terminal request ⟨tree, warned⟩ with
  | .ok _ world => (⟨0, shown filter .out world.events, shown filter .err world.events⟩, world.tree)
  | .error complaint world =>
      let events := world.events ++ [.printed .err ("Error: " ++ complaint.message ++ "\n")]
      (⟨complaint.exitCode, shown filter .out events, shown filter .err events⟩, world.tree)

def usageLine : Option CommandName → String
  | none => "Usage: mob [OPTIONS] <COMMAND>\n"
  | some .run => "Usage: mob run [OPTIONS] <FILE>\n"
  | some .build => "Usage: mob build [OPTIONS] <FILE>\n"
  | some .emit => "Usage: mob emit [OPTIONS] <FILE>\n"
  | some .version => "Usage: mob version [OPTIONS]\n"
  | some .info => "Usage: mob info [OPTIONS]\n"

def generalOptions : String :=
  "      --target <TARGET>    Host language to generate: rust, go [default: rust]\n" ++
  "      --toolchain <PATH>   Toolchain program to use instead of the target's default\n" ++
  "      --scratch-dir <DIR>  Directory for temporary build files\n" ++
  "      --verbose            Show detailed compilation information\n" ++
  "  -h, --help               Print help\n"

def commandList : String :=
  "Commands:\n" ++
  "  run      Compile and execute a .mob file; the binary is removed afterwards\n" ++
  "  build    Compile a .mob file to a native binary\n" ++
  "  emit     Print the generated host source for a .mob file\n" ++
  "  version  Show version information\n" ++
  "  info     Show version, target toolchain and platform information\n" ++
  "  help     Print this message or the help of the given command\n"

def helpText (command? : Option CommandName) : String :=
  let commands := if command?.isNone then "\n" ++ commandList else ""
  let output :=
    if command? = some .build then
      "  -o, --output <OUTPUT>    Output binary name [default: main]\n"
    else ""
  let version := if command?.isNone then "  -v, --version            Print version\n" else ""
  usageLine command? ++ commands ++ "\nOptions:\n" ++ output ++ generalOptions ++ version

def Refusal.outcome : Refusal → Outcome
  | .help command? => ⟨0, (helpText command?).toUTF8, .empty⟩
  | .version => ⟨0, (CommandLine.version ++ "\n").toUTF8, .empty⟩
  | .nothing => ⟨2, .empty, (helpText none).toUTF8⟩
  | .usage problem => ⟨2, .empty, ("error: " ++ problem ++ "\n\n" ++ usageLine none).toUTF8⟩

def run (terminal : Terminal) (args : List String) (tree : FileTree) : Outcome × FileTree :=
  match Request.ofArguments args with
  | .ok request => execute terminal request tree
  | .error refusal => (refusal.outcome, tree)

end CallScript.CommandLine
