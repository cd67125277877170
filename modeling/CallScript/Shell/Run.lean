import CallScript.Shell.Call
import CallScript.Shell.Redirect

/-!
# Running shell scripts

Simple and compound commands, and the launcher of a machine whose programs are shell scripts and
utilities. Running is bounded by a number of steps, and a script that takes more ends as if it had
been killed.
-/

namespace CallScript.Shell

/-! ## Simple commands -/

/-- Expands a text as if it stood in a document. What makes no sense stays as it is. -/
def expandLoose (run : Interpreter) (text : String) (state : State) : String × State :=
  let chars := text.toList
  let nested := Nested.within state.aliases (chars.length + 1)
  match splitParts nested none (chars.length + 1) 1 .document chars with
  | .ok (word, _) => expandText run .text word state
  | .error _ => (text, state)

/-- Shows a command before it is run. What stands in front of it is expanded without being shown. -/
def traceCommand (run : Interpreter) (channels : Channels) (values : List (String × String))
    (words : List String) (state : State) : State :=
  let shown := values.map fun (name, value) => name ++ "=" ++ value
  let (front, after) := expandLoose run ((state.value? "PS4").getD "+ ")
    { state with channels := channels, options := state.options.erase 'x' }
  let line := front ++ " ".intercalate (shown ++ words) ++ "\n"
  { after.writeText 2 line with channels := state.channels, options := state.options }

/-- Runs a call under its assignments, which are taken back unless it is one of a special command,
and so is what has been kept meanwhile. -/
def runAssigned (run : Interpreter) (outer : State) (values : List (String × String)) (call : Call)
    (state : State) : State :=
  let names := values.map (·.1)
  let isReplacing := call.words.head? = some "exec" && 1 < call.words.length
  if call.isSpecial && !isReplacing then call.run run state
  else
    let ended := call.run run
      { state with
        exported := names ++ state.exported
        kept := names.reverse.map outer.snapshot ++ state.kept, isScoped := true }
    if ended.goesOn then ended.unwind outer else ended

def runSimple (run : Interpreter) (line : Nat) (assignments : List (String × Word))
    (words : List Word) (redirections : List Redirection) (state : State) : State :=
  let (expanded, call?, outer) := expandCall run words []
    { state with line := line, outputStatus? := none }
  if !outer.isActive then outer
  else
    let (isOpen, state) := redirect run redirections outer
    let (values, state) :=
      if isOpen && state.isActive then assignAll run assignments state else ([], state)
    let close (state : State) : State := state.takeBack redirections outer
    if !state.isActive then close state
    else if !isOpen then
      if call?.any Call.isSpecial then { close state with flow := .failed } else close state
    else
      let state :=
        if outer.isTraced then traceCommand run outer.channels values expanded state else state
      match call? with
      | none => { close state with status := state.outputStatus?.getD 0 }
      | some call =>
          let ended := runAssigned run outer values call state
          if call.words = ["exec"] then ended else close ended

/-! ## Compound commands -/

def runGuarded (run : Interpreter) (script : Script) (state : State) : State :=
  { run script { state with guarded := true } with guarded := state.guarded }

/-- Runs a script; doing nothing is a success. -/
def runOrSucceed (run : Interpreter) (script : Script) (state : State) : State :=
  match script with
  | .nothing => { state with status := 0 }
  | _ => run script state

/-- What a loop makes of the flow behind its body: whether it goes on, and the state behind. -/
def afterBody (state : State) : Bool × State :=
  match state.flow with
  | .next => (true, state)
  | .again (n + 2) => (false, { state with flow := .again (n + 1) })
  | .again _ => (true, { state with flow := .next })
  | .leave (n + 2) => (false, { state with flow := .leave (n + 1) })
  | .leave _ => (false, { state with flow := .next })
  | _ => (false, state)

def runInLoop (run : Interpreter) (script : Script) (state : State) : Bool × State :=
  let ended := run script { state with loops := state.loops + 1 }
  afterBody { ended with loops := state.loops }

def runEach (run : Interpreter) (name : String) (body : Script) : List String → State → State
  | [], state => state
  | value :: values, state =>
      let (goesOn, state) := runInLoop run body (state.assign name value)
      if goesOn then runEach run name body values state else state

/-- Whether one of several patterns fits a text. Those behind it are not looked at. -/
def anyFits (run : Interpreter) (text : String) : List Word → State → Bool × State
  | [], state => (false, state)
  | pattern :: patterns, state =>
      if !state.isActive then (false, state)
      else
        let (pieces, state) := expandParts run .text pattern state
        let chars := pieces.flatMap Piece.chars
        if Pattern.fits (.ofChars chars) text.toList then (true, state)
        else anyFits run text patterns state

def runArms (run : Interpreter) (text : String) : Script → State → State
  | .arm patterns body otherwise, state =>
      let (isMeant, state) := anyFits run text patterns state
      if !state.isActive then state
      else if isMeant then runOrSucceed run body state
      else runArms run text otherwise state
  | _, state => if state.isActive then { state with status := 0 } else state

/-- Runs a script as a process of its own. It can be asked to wait for all that the script has
started. -/
def runIsolated (run : Interpreter) (waits : Bool) (script : Script) (state : State) : State :=
  let state := state.passPlace
  let start := state.divide
  let ended := runFinally run (run script start)
  let ended := if waits then ended.awaitOwn run start.number else ended
  state.leaveBehind ended

/-- How much is written to a pipe as long as it is not known that anybody reads more. -/
def pipeSize : Nat := 65536

def runPipe (run : Interpreter) (size? : Option Nat) (first second : Script) (state : State) :
    State :=
  let (index, inner) := state.openPipe 1 size?
  let left := runIsolated run true first inner
  runIsolated run false second { left with channels := state.channels.put 0 index }

/-- Runs one construct of the language; its parts are run by `run`. -/
def runConstruct (run : Interpreter) : Interpreter
  | .simple line assignments words redirections, state =>
      runSimple run line assignments words redirections state
  | .sequence first second, state =>
      let state := run first state
      if state.isActive then run second state else state
  | .both first second, state =>
      let state := runGuarded run first state
      if state.isActive && state.status = 0 then run second state else state
  | .either first second, state =>
      let state := runGuarded run first state
      if state.isActive && state.status ≠ 0 then run second state else state
  | .negate script, state =>
      let state := runGuarded run script state
      if state.isActive then { state with status := if state.status = 0 then 1 else 0 } else state
  | .pipe first second, state =>
      let ended := runPipe run (some pipeSize) first second state
      let ended :=
        if ended.hasDrained state.opened.length pipeSize then runPipe run none first second state
        else ended
      { ended with channels := state.channels }
  | .branch condition body otherwise, state =>
      let state := runGuarded run condition state
      if !state.isActive then state
      else if state.status = 0 then run body state
      else runOrSucceed run otherwise state
  | .loop success status condition body, state =>
      let (goesOn, state) := runInLoop (runGuarded run) condition state
      if !goesOn || !state.isActive then state
      else if (state.status = 0) = success then
        let (goesOn, state) := runInLoop run body state
        if goesOn then run (.loop success state.status condition body) state else state
      else { state with status := status }
  | .each line name words? body, state =>
      let (values, state) :=
        match words? with
        | some words => expandWords run words { state with line := line }
        | none => (state.args, state)
      if !state.isActive then state
      else if values.isEmpty then { state with status := 0 }
      else runEach run name body values state
  | .select line word arms, state =>
      let (text, state) := expandText run .text word { state with line := line }
      runArms run text arms state
  | .arm _ _ _, state => state
  | .group line body redirections, state =>
      match redirect run redirections { state with line := line } with
      | (false, ended) => ended.takeBack redirections state
      | (true, inner) => (run body inner).takeBack redirections state
  | .isolated line body redirections, state =>
      match redirect run redirections { state with line := line } with
      | (false, ended) => { ended with channels := state.channels }
      | (true, inner) => { runIsolated run false body inner with channels := state.channels }
  | .background body, state =>
      { (state.openFile 0 .silent).startJob body with channels := state.channels }
  | .define name body, state =>
      { state with functions := (name, body) :: state.functions, status := 0 }
  | .nothing, state => state

/-- Whether a failure of a construct is that of a command, and not of a part that has been looked at
already. -/
def Script.isCommand : Script → Bool
  | .simple _ _ _ _ | .pipe _ _ | .isolated _ _ _ => true
  | _ => false

def enforce (script : Script) (state : State) : State :=
  if script.isCommand && state.isStrict && !state.guarded && state.status ≠ 0 && state.isActive then
    { state with flow := .exit }
  else state

/-- Runs one construct, unless commands are only read. Signals are received before and behind it. -/
def runStep (run : Interpreter) (script : Script) (state : State) : State :=
  if state.isIdle then state
  else
    let state := state.receivePending run
    if state.isActive then enforce script ((runConstruct run script state).receivePending run)
    else state

def runWithin : Nat → Interpreter
  | 0, _, state => { state with flow := .killed killSignal }
  | fuel + 1, script, state => runStep (runWithin fuel) script state

/-! ## Starting programs -/

/-- The surroundings of the programs that a machine starts. -/
structure Environment where
  directory : Location
  bindings : List (String × String)

def hasNul (text : String) : Bool := text.toList.contains '\x00'

/-- The files that a program starts with: an empty input and the two standard streams. -/
def standardFiles : List OpenFile :=
  [.silent, ⟨.stream .out, 0, false, true, true⟩, ⟨.stream .err, 0, false, true, true⟩]

def State.start (environment : Environment) (name : String) (tree : FileTree) : State where
  number := firstNumber
  shell := firstNumber
  parent := firstNumber - 1
  directory := environment.directory
  path := environment.directory.path
  bindings := environment.bindings
  exported := environment.bindings.map (·.1)
  constants := []
  functions := []
  aliases := []
  found := []
  name := name
  args := []
  status := 0
  foundStatus? := none
  outputStatus? := none
  line := 1
  lastLine := 1
  command? := none
  loops := 0
  kept := []
  isScoped := false
  channels := [(0, 0), (1, 1), (2, 2)]
  isCutOff := false
  mask := FileTree.standardMask
  limits := []
  traps := []
  options := []
  optionPlace? := none
  lastJob? := none
  jobTable := []
  guarded := false
  flow := .next
  tree := tree
  opened := standardFiles
  written := []
  jobs := []
  ended := []
  signals := []
  nextNumber := firstNumber + 1

def depthLimit : Nat := 100000

/-- How long it takes to start a program from outside, in nanoseconds. -/
def launchTime : Nat := 10000000

/-- The launcher of a machine whose programs are shell scripts and utilities. A program is over when
all that it has started is over too. -/
def launch (environment : Environment) : Launcher := fun command tree => do
  if hasNul command.program || command.args.any hasNul then throw .nulInCommand
  if command.program.isEmpty then throw (.os .noEntry)
  let bindings := environment.bindings.map fun (name, value) =>
    (Octets.ofText name, Octets.ofText value)
  let program ← (locate tree environment.directory ((bindings.lookup "PATH").getD plainSearchPath)
    command.program command.args).mapError IoError.os
  let run := runWithin depthLimit
  let start := State.start ⟨environment.directory, bindings⟩ command.program
    (tree.passTime launchTime)
  let ended := runProgram run program start
  let last := runJobs run (fun _ _ => true) wakeLimit ended
  return ⟨last.tree, ended.exitStatus, last.written⟩

end CallScript.Shell
