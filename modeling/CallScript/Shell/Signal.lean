import CallScript.Shell.JobTable

/-!
# Signals

Signals by number and name, what they do to a script and to a job, and the commands `trap` and
`kill`.
-/

namespace CallScript.Shell

/-- The names of the signals, from number zero on, which stands for the end of the script. -/
def signalNames : List String :=
  ["EXIT", "HUP", "INT", "QUIT", "ILL", "TRAP", "ABRT", "BUS", "FPE", "KILL", "USR1", "SEGV",
    "USR2", "PIPE", "ALRM", "TERM", "16", "CHLD", "CONT", "STOP", "TSTP", "TTIN", "TTOU", "URG",
    "XCPU", "XFSZ", "VTALRM", "PROF", "WINCH", "IO", "PWR", "SYS", "32", "33", "RTMIN"] ++
    (List.range 15).map (fun n => "RTMIN+" ++ toString (n + 1)) ++
    (List.range 14).map (fun n => "RTMAX-" ++ toString (14 - n)) ++ ["RTMAX"]

def signalName? (signal : Nat) : Option String := if signal = 0 then none else signalNames[signal]?

def signalTexts : List String :=
  ["Hangup", "Interrupt", "Quit", "Illegal instruction", "Trace/breakpoint trap", "Aborted",
    "Bus error", "Floating point exception", "Killed", "User defined signal 1",
    "Segmentation fault", "User defined signal 2", "Broken pipe", "Alarm clock", "Terminated",
    "Stack fault", "Child exited", "Continued", "Stopped (signal)", "Stopped",
    "Stopped (tty input)", "Stopped (tty output)", "Urgent I/O condition",
    "CPU time limit exceeded", "File size limit exceeded", "Virtual timer expired",
    "Profiling timer expired", "Window changed", "I/O possible", "Power failure",
    "Bad system call"]

def signalText (signal : Nat) : String :=
  signalTexts.getD (signal - 1) ("Real-time signal " ++ toString (signal - 34))

def quietSignals : List Nat := [2, 13]

def signalLimit : Nat := 65

def signalOf? (text : String) : Option Nat :=
  match Number.natural? text.toList with
  | some n => if n < signalLimit then some n else none
  | none => signalNames.idxOf? (text.map Char.toUpper)

def harmlessSignals : List Nat := [0, 17, 18, 19, 20, 21, 22, 23, 28]

def killSignal : Nat := 9

def State.action? (state : State) (signal : Nat) : Option String :=
  (state.traps.lookup signal).filter fun _ => signal ≠ killSignal

def State.isEndedBy (state : State) (signal : Nat) : Bool :=
  (state.action? signal).isNone && !harmlessSignals.contains signal

/-- What a signal does: it is ignored, starts what has been set up for it, or ends the script. -/
def State.receive (run : Interpreter) (signal : Nat) (state : State) : State :=
  match state.action? signal with
  | some "" => state
  | some action =>
      let found := state.foundStatus?.getD state.status
      let ended := runTextOrSucceed run false action.toList
        { state with foundStatus? := some found, guarded := false }
      let status :=
        match ended.flow with
        | .exit | .failed | .killed _ | .back true => ended.status
        | _ => found
      { ended with foundStatus? := state.foundStatus?, guarded := state.guarded, status := status }
  | none => if state.isEndedBy signal then { state with flow := .killed signal } else state

/-- Receives signals in order, as long as the script goes on. Those for which nothing is set up any
more are forgotten, and those that are left stay on their way. -/
def State.receiveAll (run : Interpreter) : List Nat → State → State
  | [], state => state
  | signal :: signals, state =>
      if state.isActive then
        (if (state.action? signal).isSome then state.receive run signal else state).receiveAll run
          signals
      else
        let left := (signal :: signals).map fun signal => (state.number, signal)
        { state with signals := left ++ state.signals }

/-- Receives the signals that are on their way to the script, each once. One that ends the script
comes before all others, which come by their numbers. -/
def State.receivePending (run : Interpreter) (state : State) : State :=
  let isMine (sent : Nat × Nat) : Bool := sent.1 = state.number
  let mine := (state.signals.filter isMine).map (·.2)
  if mine.isEmpty then state
  else
    let state := { state with signals := state.signals.filter fun sent => !isMine sent }
    match mine.find? state.isEndedBy with
    | some signal => { state with flow := .killed signal }
    | none => state.receiveAll run (mine.mergeSort.eraseReps)

/-- What a signal does to a job: it is ignored, is kept until the job wakes up, or ends it. -/
def Job.receive (signal : Nat) (job : Job) (state : State) : State :=
  let others := state.jobs.filter fun other => other.number ≠ job.number
  match (job.process.traps.lookup signal).filter fun _ => signal ≠ killSignal with
  | some "" => state
  | some _ =>
      let changed := { job with signals := job.signals ++ [signal] }
      { state with
        jobs := state.jobs.map fun other => if other.number = job.number then changed else other }
  | none =>
      if harmlessSignals.contains signal then state
      else
        { state with
          jobs := others
          ended := ⟨job.number, job.owner, 128 + signal, some signal, false⟩ :: state.ended }

/-! ## The commands -/

/-- A text between single quotes; single quotes in it stand between double quotes. -/
def quotedParts : Nat → List Char → List Char
  | 0, _ => []
  | fuel + 1, text =>
      let plain := text.takeWhile (· ≠ '\'')
      let rest := text.drop plain.length
      let marks := rest.takeWhile (· = '\'')
      let behind := rest.drop marks.length
      '\'' :: plain ++ ['\''] ++ (if marks.isEmpty then [] else '"' :: marks ++ ['"']) ++
        if behind.isEmpty then [] else quotedParts fuel behind

def singleQuoted (text : String) : String :=
  String.ofList (quotedParts (text.length + 1) text.toList)

def trapSignals (action? : Option String) : List String → State → State
  | [], state => { state with status := 0 }
  | name :: names, state =>
      match signalOf? name with
      | none =>
          { state.writeText 2 ("trap: " ++ name ++ ": bad trap\n") with status := 1 }
      | some signal =>
          let others := state.traps.filter fun trap => trap.1 ≠ signal
          let here := (action?.map fun action => (signal, action)).toList
          trapSignals action? names { state with traps := here ++ others }

def trapListing (traps : List (Nat × String)) : String :=
  let entry (signal : Nat) : Option String := do
    let action ← traps.lookup signal
    return "trap -- " ++ singleQuoted action ++ " " ++ signalNames.getD signal (toString signal) ++
      "\n"
  String.join ((List.range signalLimit).filterMap entry)

def runTrap (args : List String) (state : State) : State :=
  match if args.head? = some "--" then args.tail else args with
  | [] => { state.writeText 1 (trapListing state.traps) with status := 0 }
  | [name] => trapSignals none [name] state
  | first :: names =>
      if (Number.natural? first.toList).isSome then trapSignals none (first :: names) state
      else trapSignals (if first = "-" then none else some first) names state

def killUsage : String :=
  "Usage: kill [-s sigspec | -signum | -sigspec] [pid | job]... or\nkill -l [exitstatus]"

/-- What `kill` is asked for: a signal for processes, or the name of a signal. -/
inductive KillRequest where
  | send (signal : Nat) (targets : List String)
  | list (numbers : List String)

/-- What options of `kill` ask for. -/
structure KillOptions where
  isList : Bool
  signal? : Option Nat
  args : List String

/-- Reads the letters of an option of `kill`; the arguments behind it may hold the name of a signal.
-/
def KillOptions.readLetters (args : List String) :
    List Char → KillOptions → Except String KillOptions
  | [], options => .ok { options with args := args }
  | 'l' :: letters, options => readLetters args letters { options with isList := true }
  | 's' :: letters, options => do
      let (name, args) ←
        match letters, args with
        | [], [] => .error "No arg for -s option"
        | [], name :: args => .ok (name, args)
        | letters, args => .ok (String.ofList letters, args)
      match signalOf? name with
      | some signal => return { options with signal? := some signal, args := args }
      | none => throw ("invalid signal number or name: " ++ name)
  | letter :: _, _ => .error ("Illegal option -" ++ String.ofList [letter])

def KillOptions.read : Nat → KillOptions → Except String KillOptions
  | 0, options => .ok options
  | fuel + 1, options =>
      match options.args with
      | [] => .ok options
      | arg :: args =>
          match arg.toList with
          | ['-', '-'] => .ok { options with args := args }
          | '-' :: letter :: letters => do
              read fuel (← readLetters args (letter :: letters) options)
          | _ => .ok options

def KillRequest.ofArgs (args : List String) : Except String KillRequest :=
  match args.head?.map String.toList with
  | none => .error killUsage
  | some ('-' :: letters) =>
      match (signalOf? (String.ofList letters)).filter fun n => n > 0 || letters = ['0'] with
      | some signal => if args.length = 1 then .error killUsage else .ok (.send signal args.tail)
      | none => do
          let options ← KillOptions.read args.length ⟨false, none, args⟩
          match options.isList, options.signal?, options.args with
          | true, none, numbers => return .list numbers
          | true, some _, [] => return .list []
          | false, signal?, target :: targets => return .send (signal?.getD 15) (target :: targets)
          | _, _, _ => throw killUsage
  | _ => .ok (.send 15 args)

/-- Sends a signal to the script itself, which receives it when the command is over, unless the
signal ends it. -/
def State.sendSelf (signal : Nat) (state : State) : State :=
  if state.isEndedBy signal then { state with flow := .killed signal }
  else { state with signals := state.signals ++ [(state.number, signal)] }

/-- Sends a signal to processes in order. A job is not a group of processes, so its name means no
process. -/
def sendSignal (signal : Nat) : List String → State → State
  | [], state => state
  | target :: targets, state =>
      if !state.isActive then state
      else
        let missing := state.complain "No such process\n" 1
        if target.startsWith "%" then
          match state.jobOf? target with
          | .ok _ => sendSignal signal targets missing
          | .error text => state.complain text 2
        else
          let isGroup := target.startsWith "-"
          let digits := if isGroup then (target.drop 1).toString else target
          match Number.small? digits with
          | none => state.complain ("Illegal number: " ++ digits) 2
          | some number =>
              if isGroup then sendSignal signal targets missing
              else if number = state.number then
                sendSignal signal targets (state.sendSelf signal)
              else
                match state.jobs.find? fun job => job.number = number with
                | some job => sendSignal signal targets (job.receive signal state)
                | none =>
                    if firstNumber ≤ number && number < state.nextNumber &&
                        !(state.ended.any fun other => other.number = number) then
                      sendSignal signal targets
                        { state with signals := state.signals ++ [(number, signal)] }
                    else sendSignal signal targets missing

def runKill (args : List String) (state : State) : State :=
  let state := { state with status := 0 }
  match KillRequest.ofArgs args with
  | .error text => state.complain text 2
  | .ok (.send signal targets) => sendSignal signal targets state
  | .ok (.list []) =>
      state.writeText 1 (String.join (("0" :: signalNames.tail).map (· ++ "\n")))
  | .ok (.list (text :: _)) =>
      match Number.small? text with
      | none => state.complain ("Illegal number: " ++ text) 2
      | some number =>
          match signalName? (if number > 128 then number - 128 else number) with
          | some name => state.writeText 1 (name ++ "\n")
          | none => state.complain ("invalid signal number or exit status: " ++ text) 2

end CallScript.Shell
