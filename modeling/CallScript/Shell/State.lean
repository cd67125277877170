import CallScript.Launch
import CallScript.Shell.Fields
import CallScript.Shell.Number
import CallScript.Shell.Reader

/-!
# The state of a shell

A script runs in a state, which has two sides. The process is what the script has to itself: current
directory, parameters, descriptors and the status of the last command. The machine is what all
processes share: the file tree, the open files, what has been written, and the jobs that run in the
background. A process that ends gives only the machine back.

All texts of a shell are octet texts.
-/

namespace CallScript.Shell

/-! ## Open files -/

/-- What an open file is open on. -/
inductive Target where
  | stream (stream : Stream)
  | node (number : Nat)
  /-- All that has been written to a pipe, or the text of a document. A pipe can have a size, beyond
  which nobody reads. -/
  | buffer (content : ByteArray) (size? : Option Nat)

/-- An open file: every descriptor for it reads and writes at the same offset. -/
structure OpenFile where
  target : Target
  offset : Nat
  reads : Bool
  writes : Bool
  appends : Bool

def OpenFile.ofContent (content : ByteArray) : OpenFile :=
  ⟨.buffer content none, 0, true, true, true⟩

def OpenFile.silent : OpenFile := ⟨.buffer .empty none, 0, true, false, true⟩

/-- The open files of descriptors, by index. -/
abbrev Channels := List (Nat × Nat)

def Channels.put (channels : Channels) (descriptor index : Nat) : Channels :=
  (descriptor, index) :: channels.filter fun other => other.1 ≠ descriptor

def Channels.close (channels : Channels) (descriptor : Nat) : Channels :=
  channels.filter fun other => other.1 ≠ descriptor

/-- A content with other bytes from an offset on. Where it is too short, zeros fill the gap. -/
def overwriteAt (content : ByteArray) (offset : Nat) (bytes : ByteArray) : ByteArray :=
  let gap : ByteArray := ⟨Array.replicate (offset - content.size) 0⟩
  content.extract 0 offset ++ gap ++ bytes ++ content.extract (offset + bytes.size) content.size

/-! ## Bindings -/

/-- Names with their values. -/
abbrev Bindings := List (String × String)

def rowOf (rows : Nat) (name : String) : Nat :=
  let codes := name.toList.map Char.toNat
  (16 * codes.headD 0 + codes.foldl (· + ·) 0) % rows

def firstNames : List String :=
  ["HISTSIZE", "IFS", "MAIL", "MAILPATH", "OPTIND", "PATH", "PS1", "PS2", "PS4", "TERM"]

namespace Bindings

/-- Where a name stands in a table: by its row, and within that the first names before all
others. -/
def rank (name : String) : Nat := 2 * rowOf 39 name + if firstNames.contains name then 0 else 1

/-- Gives a name a value. A new name comes to its place in the table, behind those that rank with
it. -/
def put (bindings : Bindings) (name value : String) : Bindings :=
  if (bindings.lookup name).isSome then
    bindings.map fun other => if other.1 = name then (name, value) else other
  else
    let front := bindings.takeWhile fun other => rank other.1 ≤ rank name
    front ++ (name, value) :: bindings.drop front.length

def erase (bindings : Bindings) (name : String) : Bindings :=
  bindings.filter fun other => other.1 ≠ name

end Bindings

/-! ## Processes and machines -/

/-- How a script goes on. -/
inductive Flow where
  | next
  | exit
  /-- A mistake ends the script, unless it was made for a command that is not a special one. -/
  | failed
  | killed (signal : Nat)
  | leave (loops : Nat)
  | again (loops : Nat)
  /-- Back to the caller, perhaps with a status that has been chosen. -/
  | back (isChosen : Bool)
deriving DecidableEq

def Flow.arrived : Flow → Flow
  | .back _ => .next
  | flow => flow

/-- What comes back when a command is over. -/
inductive Kept where
  | binding (name : String) (value? : Option String) (isExported isConstant : Bool)
  | options (letters : List Char)

/-- The path at which the name of a program was found, which is to be checked once the directory has
changed. -/
structure Found where
  name : String
  path : String
  isStale : Bool

/-- A job in the table of a script. -/
structure JobEntry where
  place : Nat
  number : Nat
  pipes : Nat
  isWaited : Bool

/-- What a process may use at most, and up to which value it may raise that. -/
structure Limit where
  soft? : Option Nat
  hard? : Option Nat

structure Process where
  number : Nat
  /-- The number of the process that its script believes to run in. -/
  shell : Nat
  parent : Nat
  directory : Location
  path : String
  bindings : Bindings
  exported : List String
  constants : List String
  functions : List (String × Script)
  aliases : List Alias
  found : List Found
  name : String
  args : List String
  status : Nat
  /-- The status in which a signal has found the script, while that is being received. -/
  foundStatus? : Option Nat
  /-- The status of the last script whose output the command under way has asked for. -/
  outputStatus? : Option Nat
  line : Nat
  /-- The line up to which the text of the commands has been read. -/
  lastLine : Nat
  command? : Option String
  loops : Nat
  /-- What comes back when the commands under way are over, the last first. -/
  kept : List Kept
  isScoped : Bool
  channels : Channels
  isCutOff : Bool
  mask : Nat
  limits : List (Char × Limit)
  /-- What is run when a signal arrives, and for signal 0 at the end. -/
  traps : List (Nat × String)
  options : List Char
  /-- Argument and character from which `getopts` goes on. -/
  optionPlace? : Option (Nat × Nat)
  lastJob? : Option Nat
  jobTable : List JobEntry
  /-- Whether a failure is only a condition. -/
  guarded : Bool
  flow : Flow

/-- A script in the background. It sleeps up to a time, and has commands left to run. -/
structure Job where
  number : Nat
  owner : Nat
  wake : Nat
  commands : List Script
  process : Process
  signals : List Nat

/-- How a job has ended. -/
structure Ended where
  number : Nat
  owner : Nat
  status : Nat
  signal? : Option Nat
  isTold : Bool

structure Machine where
  tree : FileTree
  opened : List OpenFile
  written : List (Stream × ByteArray)
  jobs : List Job
  ended : List Ended
  /-- The signals that are on their way, each with the number of the process that gets it. -/
  signals : List (Nat × Nat)
  nextNumber : Nat

def firstNumber : Nat := 4242

structure State extends Process, Machine

/-- The signal that ends a process that writes to a pipe from which nobody reads. -/
def pipeSignal : Nat := 13

def optionNames : List (Char × String) :=
  [('e', "errexit"), ('f', "noglob"), ('I', "ignoreeof"), ('i', "interactive"), ('m', "monitor"),
    ('n', "noexec"), ('s', "stdin"), ('x', "xtrace"), ('v', "verbose"), ('V', "vi"),
    ('E', "emacs"), ('C', "noclobber"), ('a', "allexport"), ('b', "notify"), ('u', "nounset"),
    ('p', "privileged")]

namespace State

/-- Takes over the machine from another state. A directory that has been moved stays the current
one. -/
def share (state other : State) : State :=
  let moved? := do
    let number ← state.tree.number? state.directory
    guard (other.tree.number? state.directory ≠ some number)
    other.tree.place? number
  { state with toMachine := other.toMachine, directory := moved?.getD state.directory }

/-! ## Options -/

def isStrict (state : State) : Bool := state.options.contains 'e'

def requiresValues (state : State) : Bool := state.options.contains 'u'

def isTraced (state : State) : Bool := state.options.contains 'x'

def isVerbose (state : State) : Bool := state.options.contains 'v'

def isIdle (state : State) : Bool := state.options.contains 'n'

def findsPaths (state : State) : Bool := !state.options.contains 'f'

def protectsFiles (state : State) : Bool := state.options.contains 'C'

def switch (state : State) (isOn : Bool) (c : Char) : State :=
  let others := state.options.filter (· ≠ c)
  { state with options := if isOn then others ++ [c] else others }

/-! ## Descriptors -/

def file? (state : State) (descriptor : Nat) : Option (Nat × OpenFile) := do
  let index ← state.channels.lookup descriptor
  return (index, ← state.opened[index]?)

def write? (state : State) (descriptor : Nat) (content : ByteArray) : Option State := do
  let (index, file) ← state.file? descriptor
  guard file.writes
  match file.target with
  | .stream stream => return { state with written := state.written ++ [(stream, content)] }
  | .buffer old size? =>
      let put (content : ByteArray) : State :=
        let target : Target := .buffer content size?
        { state with opened := state.opened.set index { file with target := target } }
      match size?.filter fun size => size < old.size + content.size with
      | none => return put (old ++ content)
      | some size =>
          guard (state.traps.lookup pipeSignal ≠ some "")
          return { put ((old ++ content).extract 0 size) with flow := .killed pipeSignal }
  | .node number =>
      let old := (state.tree.node? number).map Inode.content
      let offset := if file.appends then (old.map ByteArray.size).getD 0 else file.offset
      return { state with
        tree := state.tree.setContent number (overwriteAt (old.getD .empty) offset content)
        opened := state.opened.set index { file with offset := offset + content.size } }

/-- Writes to a descriptor. What cannot be written is noted. -/
def write (state : State) (descriptor : Nat) (content : ByteArray) : State :=
  if content.isEmpty then state
  else (state.write? descriptor content).getD { state with isCutOff := true }

def writeText (state : State) (descriptor : Nat) (text : String) : State :=
  state.write descriptor (Octets.toBytes text)

def input (state : State) (descriptor : Nat) : Except OsError ByteArray :=
  match state.file? descriptor with
  | none => .error .badDescriptor
  | some (_, file) =>
      if !file.reads then .error .badDescriptor
      else
        let rest (content : ByteArray) : ByteArray := content.extract file.offset content.size
        match file.target with
        | .stream _ => .ok .empty
        | .buffer content _ => .ok (rest content)
        | .node number =>
            match state.tree.node? number with
            | some node =>
                if node.isDirectory then .error .isDirectory else .ok (rest node.content)
            | none => .ok .empty

def consume (state : State) (descriptor count : Nat) : State :=
  match state.file? descriptor with
  | none => state
  | some (index, file) =>
      { state with opened := state.opened.set index { file with offset := file.offset + count } }

def openFile (state : State) (descriptor : Nat) (file : OpenFile) : State :=
  { state with
    opened := state.opened ++ [file]
    channels := state.channels.put descriptor state.opened.length }

def openPipe (state : State) (descriptor : Nat) (size? : Option Nat) : Nat × State :=
  (state.opened.length,
    state.openFile descriptor
      { OpenFile.silent with target := .buffer .empty size?, writes := true })

def pipeContent (state : State) (index : Nat) : ByteArray :=
  match state.opened[index]? with
  | some ⟨.buffer content _, _, _, _, _⟩ => content
  | _ => .empty

def hasDrained (state : State) (index size : Nat) : Bool :=
  match state.opened[index]? with
  | some ⟨.buffer content _, offset, _, _, _⟩ => size ≤ content.size && content.size ≤ offset
  | _ => false

/-! ## Parameters -/

def separators (state : State) : List Char :=
  ((state.bindings.lookup "IFS").map String.toList).getD standardSeparators

/-- What stands between arguments that are put together: the first separator. -/
def joint (state : State) : String := String.ofList (state.separators.take 1)

def value? (state : State) (name : String) : Option String :=
  match name with
  | "0" => some state.name
  | "@" | "*" => some (state.joint.intercalate state.args)
  | "#" => some (toString state.args.length)
  | "?" => some (toString state.status)
  | "$" => some (toString state.shell)
  | "-" => some (String.ofList ((optionNames.map (·.1)).reverse.filter state.options.contains))
  | "!" => state.lastJob?.map fun number => toString number
  | _ =>
      match Number.natural? name.toList with
      | some n => state.args[n - 1]?
      | none => state.bindings.lookup name

/-- What is known of programs after names have got other values: nothing, if the search path is one
of them. -/
def foundAfter (state : State) (names : List String) : List Found :=
  if names.contains "PATH" then [] else state.found

def isActive (state : State) : Bool := state.flow = .next

def heading (state : State) : String :=
  let command := (state.command?.map (· ++ ": ")).getD ""
  state.name ++ ": " ++ toString state.line ++ ": " ++ command

def complain (state : State) (text : String) (status : Nat) : State :=
  { state.writeText 2 (state.heading ++ text ++ "\n") with status := status }

def abort (state : State) (text : String) : State :=
  { state.complain text 2 with flow := .failed }

def leaveControl (state : State) : State :=
  if state.options.contains 'm' then
    let state := state.complain "can't access tty; job control turned off" state.status
    state.switch false 'm'
  else state

/-- Gives a name a value. A constant ends the script, and so does what is no name. Where all names
are for programs, this one is too. -/
def assign (state : State) (name value : String) : State :=
  if !isName name.toList then state.abort (name ++ ": bad variable name")
  else if state.constants.contains name then state.abort (name ++ ": is read only")
  else
    { state with
      bindings := state.bindings.put name value
      found := state.foundAfter [name]
      exported :=
        if state.options.contains 'a' then name :: state.exported.filter (· ≠ name)
        else state.exported }

/-! ## What comes back -/

def snapshot (state : State) (name : String) : Kept :=
  .binding name (state.bindings.lookup name) (state.exported.contains name)
    (state.constants.contains name)

/-- Makes something what it was before. What is no name ends the script. -/
def giveBack (state : State) : Kept → State
  | .options letters => { state with options := letters }
  | .binding name value? isExported isConstant =>
      let mark (isMarked : Bool) (names : List String) : List String :=
        let others := names.filter (· ≠ name)
        if isMarked then name :: others else others
      if !isName name.toList then state.abort (name ++ ": bad variable name")
      else
        { state with
          bindings :=
            match value? with
            | some value => state.bindings.put name value
            | none => state.bindings.erase name
          found := state.foundAfter [name]
          exported := mark isExported state.exported
          constants := mark isConstant state.constants }

def unwind (state earlier : State) : State :=
  let count := state.kept.length - earlier.kept.length
  let back := (state.kept.take count).foldl giveBack state
  { back with kept := state.kept.drop count, isScoped := earlier.isScoped }

def goesOn (state : State) : Bool :=
  match state.flow with
  | .exit | .failed | .killed _ => false
  | _ => true

end State

/-- Runs a script in a state. -/
abbrev Interpreter := Script → State → State

def runScripts (run : Interpreter) : List Script → State → State
  | [], state => state
  | script :: scripts, state =>
      if state.isActive then runScripts run scripts (run script state) else state

def shownLines (source : Source) (mistake? : Option Mistake) (behind : Source) : String :=
  let read :=
    match mistake? with
    | none => source.text.take (source.text.length - behind.text.length)
    | some mistake =>
        let lines := Text.pieces '\n' source.text
        List.intercalate ['\n'] (lines.take (mistake.line + 1 - source.line)) ++ ['\n']
  String.ofList read

/-- Reads and runs what is left of a text, command by command. A text that is `shown` can be seen as
it is read. -/
def runSource (run : Interpreter) (shown : Bool) : Nat → Source → State → State
  | 0, _, state => state
  | fuel + 1, source, state =>
      if !state.isActive then state
      else
        let display (state : State) (text : String) : State :=
          if shown && state.isVerbose then state.writeText 2 text else state
        match source.take state.aliases with
        | none => display state (String.ofList source.text)
        | some (.ok scripts, behind) =>
            let state := display state (shownLines source none behind)
            runSource run shown fuel behind
              (runScripts run scripts { state with lastLine := behind.line })
        | some (.error mistake, behind) =>
            let state := display state (shownLines source (some mistake) behind)
            { state with line := mistake.line }.abort mistake.message

def runText (run : Interpreter) (shown : Bool) (text : List Char) (state : State) : State :=
  { runSource run shown (text.length + 1) (.ofText text 1) state with
    lastLine := state.lastLine }

/-- Reads and runs a text for a command, which succeeds if there is nothing to run. -/
def runTextOrSucceed (run : Interpreter) (shown : Bool) (text : List Char) (state : State) :
    State :=
  if ((Source.ofText text 1).take state.aliases).isNone then { state with status := 0 }
  else runText run shown text state

/-- Runs what a script has set up for its end. The status stays, unless it is changed there. -/
def runFinally (run : Interpreter) (state : State) : State :=
  match state.flow, state.traps.lookup 0 with
  | .killed _, _ | _, none => state
  | _, some action =>
      let ended := runTextOrSucceed run false action.toList
        { state with
          flow := .next, foundStatus? := some state.status
          traps := state.traps.filter fun trap => trap.1 ≠ 0 }
      match ended.flow with
      | .next | .back _ => { ended with status := state.status, flow := .exit }
      | _ => ended

/-- What a shell within a shell keeps of the traps: signals that are ignored. -/
def State.innerTraps (state : State) : List (Nat × String) :=
  state.traps.filter fun trap => trap.1 ≠ 0 && trap.2.isEmpty

def State.divide (state : State) : State :=
  { state with
    number := state.nextNumber, nextNumber := state.nextNumber + 1, traps := state.innerTraps
    jobTable := [] }

end CallScript.Shell
