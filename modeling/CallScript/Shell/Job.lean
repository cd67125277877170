import CallScript.Shell.Interval
import CallScript.Shell.SearchPath
import CallScript.Shell.Signal

/-!
# Jobs in the background

A job runs beside the script that has started it. Commands take no time, except those that sleep: a
job runs up to its next sleep and then waits for its time to come. Time passes when the script
itself sleeps, or when it waits for a job.
-/

namespace CallScript.Shell

def sleepNames : List String := ["sleep", "/bin/sleep", "/usr/bin/sleep"]

def Script.sleepWords? : Script → Option (String × List Word)
  | .simple _ [] (name :: words) [] => do
      let name := String.ofList (← Word.bare? name)
      guard (sleepNames.contains name && !words.isEmpty)
      return (name, words)
  | _ => none

def State.plainText? (state : State) : Word → Option (List Char)
  | [] => some []
  | .literal text false :: rest => (state.plainText? rest).map (text ++ ·)
  | .parameter name _ :: rest => do return (← state.value? name).toList ++ (← state.plainText? rest)
  | _ => none

def State.sleep? (state : State) (script : Script) : Option Nat := do
  let (name, words) ← script.sleepWords?
  guard (state.hasProgram name)
  let times ← words.mapM fun word => do interval? (String.ofList (← state.plainText? word))
  return times.foldl (· + ·) 0

/-- The commands of a script that are run one after the other, as far as sleeps have to be found. -/
def Script.stages : Script → List Script
  | .sequence first second => first.stages ++ second.stages
  | .both first second =>
      if first.sleepWords?.isSome then first :: second.stages else [.both first second]
  | .nothing => []
  | script => [script]

def Script.jobStages : Script → List Script
  | .isolated _ body [] => body.stages
  | script => script.stages

def State.nextJob? (state : State) : Option Job :=
  state.jobs.foldl
    (fun first? job =>
      match first? with
      | some first => if job.wake < first.wake then some job else some first
      | none => some job)
    none

def State.endJob (run : Interpreter) (job : Job) (state : State) : State :=
  let ended := runFinally run state
  let (status, signal?) :=
    match ended.flow with
    | .killed signal => (128 + signal, some signal)
    | _ => (ended.status % 256, none)
  { ended with ended := ⟨job.number, job.owner, status, signal?, false⟩ :: ended.ended }

def runUntilSleep (run : Interpreter) (job : Job) : List Script → State → State
  | [], state => state.endJob run job
  | command :: commands, state =>
      if !state.isActive then state.endJob run job
      else
        match state.sleep? command with
        | none => runUntilSleep run job commands (run command state)
        | some time =>
            let waiting : Job :=
              { job with
                wake := state.tree.now + time, commands := commands
                process := { state.toProcess with status := 0 }, signals := [] }
            { state with jobs := state.jobs ++ [waiting] }

def State.resume (run : Interpreter) (job : Job) (state : State) : State :=
  let machine := { state.toMachine with
    jobs := state.jobs.filter fun other => other.number ≠ job.number
    tree := { state.tree with now := max state.tree.now job.wake } }
  let awake : State := { toProcess := job.process, toMachine := machine }
  let awake := job.signals.foldl (fun state signal => state.receive run signal) awake
  state.share (runUntilSleep run job job.commands awake)

def wakeLimit : Nat := 10000

def runJobs (run : Interpreter) (goesOn : State → Job → Bool) : Nat → State → State
  | 0, state => state
  | fuel + 1, state =>
      match state.nextJob? with
      | none => state
      | some job =>
          if goesOn state job then runJobs run goesOn fuel (state.resume run job) else state

/-- Sleeps; jobs whose time comes run meanwhile. -/
def State.sleep (run : Interpreter) (time : Nat) (state : State) : State :=
  let limit := state.tree.now + time
  let state := runJobs run (fun _ job => job.wake ≤ limit) wakeLimit state
  { state with tree := { state.tree with now := max state.tree.now limit } }

def State.await (run : Interpreter) (isAwaited : Job → Bool) (state : State) : State :=
  runJobs run (fun state _ => state.jobs.any isAwaited) wakeLimit state

def State.awaitOwn (run : Interpreter) (number : Nat) (state : State) : State :=
  state.await run fun job => job.owner = number

def Script.pipes : Script → Nat
  | .pipe _ second => second.pipes + 1
  | _ => 0

def State.startJob (body : Script) (state : State) : State :=
  let process := { state.toProcess with
    number := state.nextNumber, traps := state.innerTraps, guarded := false
    jobTable := [] }
  let job : Job := ⟨state.nextNumber, state.number, state.tree.now, body.jobStages, process, []⟩
  { state with
    jobs := state.jobs ++ [job], nextNumber := state.nextNumber + 1
    lastJob? := some job.number, status := 0 }.enterJob job.number body.pipes

end CallScript.Shell
