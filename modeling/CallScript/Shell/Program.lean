import CallScript.Shell.Job
import CallScript.Shell.Redirect
import CallScript.Shell.Utility

/-!
# Programs

An executable file is one of the utilities, the shell, or a script, which is handed to the program
that its first line names. A program runs as a process of its own: only what processes share comes
back.
-/

namespace CallScript.Shell

/-- A program ready to run: its name, what it shows about itself and its arguments, of which the
first is the name it was started by. -/
structure Program where
  name : String
  about : String
  args : List String

/-! ## Finding programs -/

def headSize : Nat := 256

def headOf (content : ByteArray) : List Char :=
  let head := (Octets.ofBytes (content.extract 0 headSize)).toList
  head ++ List.replicate (headSize - head.length) '\x00'

def isBlank (c : Char) : Bool := c = ' ' || c = '\t'

def trimBlanks (line : List Char) : List Char := (line.reverse.dropWhile isBlank).reverse

/-- Interpreter and argument on the first line of a script. The line ends at a line break or a zero.
Where no line break is found, the argument may be cut off but not the interpreter. -/
def interpreterLine? (content : ByteArray) : Option (String × Option String) := do
  let head := headOf content
  guard (head.take 2 = ['#', '!'])
  let line := head.takeWhile fun c => c ≠ '\n' && c ≠ '\x00'
  let isWhole := head[line.length]? = some '\n'
  let names := (head.drop 2).dropWhile isBlank
  guard (isWhole || names.any fun c => isBlank c || c = '\x00')
  let text := if isWhole then line.drop 2 else (head.take (headSize - 1)).drop 2
  let start := (trimBlanks text).dropWhile isBlank
  guard (!start.isEmpty)
  let program := start.takeWhile fun c => !isBlank c && c ≠ '\x00'
  let argument? :=
    match start.drop program.length with
    | [] => none
    | c :: rest =>
        if c = '\x00' then none
        else some (String.ofList ((rest.dropWhile isBlank).takeWhile (· ≠ '\x00')))
  return (String.ofList program, argument?)

def scriptLimit : Nat := 5

/-- Looks into the executable file at a path; a script is handed to its interpreter. -/
def load (tree : FileTree) (directory : Location) :
    Nat → String → String → List String → Except OsError Program
  | depth, path, name, args => do
      let (_, node) ← tree.find directory path
      if !node.isProgram then throw .permission
      match depth, programOf? node.content with
      | _, some (program, about) => return ⟨program, about, name :: args⟩
      | depth + 1, none =>
          match interpreterLine? node.content with
          | some (interpreter, argument?) =>
              load tree directory depth (if interpreter.isEmpty then "." else interpreter)
                interpreter (argument?.toList ++ path :: args)
          | none => throw .badFormat
      | 0, none => throw .tooManyLinks

/-- Searches the directories of a list for a program. A file that may not be executed is passed
over, but is the reason if nothing else is found. -/
def search (tree : FileTree) (directory : Location) (name : String) (args : List String) :
    List String → OsError → Except OsError Program
  | [], reason => .error reason
  | first :: others, reason =>
      let path := Path.push (if first.isEmpty then "." else first) name
      match load tree directory scriptLimit path name args with
      | .ok program => .ok program
      | .error .noEntry | .error .notDirectory => search tree directory name args others reason
      | .error .permission => search tree directory name args others .permission
      | .error e => .error e

/-- Finds a program by path or, if its name has no slash, in the directories of a search path. -/
def locate (tree : FileTree) (directory : Location) (searchPath name : String)
    (args : List String) : Except OsError Program :=
  if name.toList.contains '/' then load tree directory scriptLimit name name args
  else search tree directory name args
    ((Text.pieces ':' searchPath.toList).map String.ofList) .noEntry

/-! ## What a shell is asked to run -/

/-- Where the commands of a shell come from, with its name and arguments and the letters of its
options. -/
inductive Task where
  | command (text : String) (name : String) (args : List String) (options : List Char)
  | file (path : String) (args : List String) (options : List Char)
  | input (args : List String) (options : List Char)
  | refused (reason : String)

def Task.ofOperands (name : String) (options : List Char) (operands : List String) : Task :=
  if options.contains 'c' then
    match operands with
    | [] => .refused "-c requires an argument"
    | [text] => .command text name [] options
    | text :: name :: args => .command text name args options
  else if options.contains 's' then .input operands options
  else
    match operands with
    | [] => .input [] ('s' :: options)
    | path :: args => .file path args options

def Task.ofArgs (name : String) : List Char → List String → Task
  | options, [] => .ofOperands name options []
  | options, arg :: args =>
      let known := ['c', 'l', 'o'] ++ optionNames.map (·.1)
      let switch (isOn : Bool) (letters : List Char) : List Char :=
        let others := options.filter fun c => !letters.contains c
        if isOn then others ++ letters else others
      match arg.toList with
      | ['-'] | ['-', '-'] => .ofOperands name options args
      | sign :: letters =>
          if sign ≠ '-' && sign ≠ '+' then .ofOperands name options (arg :: args)
          else
            match letters.find? fun c => !known.contains c with
            | some c => .refused ("Illegal option " ++ String.ofList [sign, c])
            | none =>
                let isOn := sign = '-'
                match letters.contains 'o', args with
                | true, long :: args =>
                    match optionNames.find? fun option => option.2 = long with
                    | some option => ofArgs name (switch isOn (option.1 :: letters)) args
                    | none => .refused ("Illegal option " ++ String.ofList [sign, 'o', ' '] ++ long)
                | _, args => ofArgs name (switch isOn letters) args
      | [] => .ofOperands name options (arg :: args)

/-! ## Running programs -/

def State.exitStatus (state : State) : ExitStatus :=
  match state.flow with
  | .killed _ => .signalled
  | _ => .exited (state.status % 256)

def State.environment (state : State) : Bindings :=
  state.bindings.filter fun binding => state.exported.contains binding.1

/-- The path by which a shell knows its directory: the one that it is told, if that leads there. -/
def State.knownPath (state : State) : String :=
  let isHere (path : String) : Bool :=
    Path.isAbsolute path &&
      match state.tree.find [] path with
      | .ok (place, _) => place = state.directory
      | .error _ => false
  ((state.environment.lookup "PWD").filter isHere).getD state.directory.path

def standardPath : String := "/usr/local/sbin:/usr/local/bin:/usr/sbin:/usr/bin:/sbin:/bin"

def standardBindings : Bindings :=
  [("IFS", String.ofList standardSeparators), ("OPTIND", "1"), ("PATH", standardPath),
    ("PS1", "$ "), ("PS2", "> "), ("PS4", "+ ")]

/-- The state in which a shell starts. Of what it is given it takes what has a name, but some
parameters it sets itself. -/
def State.fresh (state : State) (name : String) (args : List String) (options : List Char) :
    State :=
  let path := state.knownPath
  let given := state.environment.filter fun binding => isName binding.1.toList
  let own := [("IFS", String.ofList standardSeparators), ("OPTIND", "1"),
    ("PPID", toString state.parent), ("PWD", path)]
  let bindings := (standardBindings ++ given ++ own).foldl
    (fun (bindings : Bindings) (name, value) => bindings.put name value) []
  { state with
    shell := state.number, path := path, bindings := bindings
    exported := "PWD" :: (given.map (·.1)).filter (· ≠ "PWD"), constants := [], functions := []
    aliases := [], found := [], name := name, args := args, status := 0, outputStatus? := none
    line := 0, lastLine := 1, command? := none, loops := 0, kept := [], isScoped := false
    foundStatus? := none, isCutOff := false, traps := state.innerTraps, options := options
    optionPlace? := none, lastJob? := none, jobTable := [], guarded := false, flow := .next }

def State.refuse (state : State) (text : String) (status : Nat) : State :=
  { state.writeText 2 text with status := status, flow := .exit }

/-- How often a shell that does not leave at the end of its text asks for another way. -/
def stayCount : Nat := 50

def State.stay (state : State) : State :=
  if state.isActive && state.options.contains 'I' then
    state.writeText 2 (String.join (List.replicate stayCount "\nUse \"exit\" to leave shell.\n"))
  else state

def runShell (run : Interpreter) (name : String) (args : List String) (state : State) : State :=
  let start (shown : Bool) (text : List Char) (state : State) : State :=
    let ended := runText run shown text { state.leaveControl with line := 1 }
    runFinally run (if shown then ended.stay else ended)
  match Task.ofArgs name [] args with
  | .refused reason => state.refuse (name ++ ": 0: " ++ reason ++ "\n") 2
  | .command text name args options => start false text.toList (state.fresh name args options)
  | .input args options =>
      let input := (state.input 0).toOption.getD .empty
      start true (Octets.ofBytes input).toList
        ((state.consume 0 input.size).fresh name args options)
  | .file path args options =>
      match state.openInput path with
      | .error e =>
          state.refuse (name ++ ": 0: cannot open " ++ path ++ ": " ++ openingProblem e ++ "\n") 2
      | .ok _ =>
          let content := (state.tree.readBytes state.directory path).toOption.getD .empty
          start true (Octets.ofBytes content).toList (state.fresh path args options)

def State.canWrite (state : State) (descriptor : Nat) : Bool :=
  (state.file? descriptor).any fun file => file.2.writes

def State.target? (state : State) (descriptor : Nat) : Option Target :=
  (state.file? descriptor).map fun file => file.2.target

def blockSize : Nat := 8192

def State.usedSize (state : State) (use : Use) : Nat :=
  let size := ((state.input 0).toOption.getD .empty).size
  match use, state.target? 0 with
  | .nothing, _ => 0
  | .exactly count, _ => min size count
  | .front count, some (.node _) => count
  | .front count, some (.buffer _ _) =>
      min size ((count + blockSize - 1) / blockSize * blockSize)
  | _, _ => size

def lostOutput (program name : String) : String × Nat :=
  let reason := OsError.badDescriptor.text ++ "\n"
  match program with
  | "cat" => (name ++ ": standard output: " ++ reason, 1)
  | "sort" => (name ++ ": write failed: 'standard output': " ++ reason, 2)
  | "ls" | "grep" | "cmp" => (name ++ ": write error: " ++ reason, 2)
  | _ => (name ++ ": write error: " ++ reason, 1)

def State.fileOf? (state : State) (descriptor : Nat) : Option Nat :=
  match state.target? descriptor with
  | some (.node number) =>
      if (state.tree.node? number).any Inode.isFile then some number else none
  | _ => none

def State.inputSize? (state : State) : Option Nat := do
  let number ← state.fileOf? 0
  return (← state.tree.node? number).content.size

def State.invocation (state : State) (name about : String) (args : List String) : Invocation where
  name := name
  args := args
  input := state.input 0
  inputSize? := state.inputSize?
  inputFile? := state.fileOf? 0
  outputFile? := state.fileOf? 1
  directory := state.directory
  tree := state.tree
  about := about
  mask := state.mask
  environment := state.environment

def State.adopt (state : State) (reply : Reply) : State :=
  let used := state.consume 0 (state.usedSize reply.use)
  reply.parts.foldl
    (fun state part =>
      if state.isActive then state.writeText (if part.1 = .out then 1 else 2) part.2 else state)
    { used with tree := reply.tree, status := reply.code }

def runUtility (utility : Invocation → Reply) (program : Program) (name : String) (state : State) :
    State :=
  let reply := utility (state.invocation name program.about program.args.tail)
  let ended := state.adopt reply
  let ended := if ended.isActive then { ended with flow := .exit } else ended
  if reply.parts.any (fun part => part.1 = .out) && !state.canWrite 1 then
    let (text, code) := lostOutput program.name name
    ended.refuse text code
  else ended

def runSleep (run : Interpreter) (program : Program) (name : String) (state : State) : State :=
  let ended := runUtility (Invocation.withOptions {} 1 Invocation.sleep) program name state
  let times := program.args.tail.filterMap interval?
  if ended.status = 0 then ended.sleep run (times.foldl (· + ·) 0) else ended

/-- Goes on behind a process that has ended, with its status. Of a process that a signal has ended,
the script says so. -/
def State.leaveBehind (state ended : State) : State :=
  let state := state.share ended
  match ended.flow with
  | .killed signal =>
      let state := { state with status := 128 + signal }
      if quietSignals.contains signal then state
      else state.writeText 2 (signalText signal ++ "\n")
  | _ => { state with status := ended.status % 256 }

end CallScript.Shell
