import CallScript.Shell.Job
import CallScript.Shell.OptionLetters

/-!
# Commands for jobs

Waiting for jobs, and showing them. Jobs are not controlled from a terminal, so none of them can be
brought to the front.
-/

namespace CallScript.Shell

/-! ## Waiting -/

def waitForJob (run : Interpreter) (job : JobEntry) (state : State) : State :=
  let waited := state.await run fun other =>
    other.number = job.number && other.owner = state.number
  let waited := waited.markWaited fun other => other.number = job.number
  match waited.outcome? job with
  | none => { waited with status := 127 }
  | some ended =>
      let told := ended.signal?.filter fun signal => !quietSignals.contains signal && !ended.isTold
      let text := (told.map fun signal => signalText signal ++ "\n").getD ""
      { waited.writeText 2 text with
        status := ended.status
        ended := waited.ended.map fun other =>
          if other.number = job.number then { other with isTold := true } else other }

/-- Waits for what an argument means: a job, or the process of one. -/
def waitFor (run : Interpreter) (target : String) (state : State) : State :=
  if target.startsWith "%" then
    match state.jobOf? target with
    | .ok job => waitForJob run job state
    | .error text => state.complain text 2
  else
    match Number.small? target with
    | none => state.complain ("Illegal number: " ++ target) 2
    | some number =>
        match state.jobTable.find? fun job => job.number = number with
        | some job => waitForJob run job state
        | none => { state with status := 127 }

def runWait (run : Interpreter) (args : List String) (state : State) : State :=
  match takeOptions [] args with
  | .error text => state.complain text 2
  | .ok (_, []) =>
      let waited := state.awaitOwn run state.number
      { waited.markWaited fun _ => true with status := 0 }
  | .ok (_, targets) => targets.foldl (fun state target => waitFor run target state) state

/-! ## Showing -/

def State.jobStatus (state : State) (job : JobEntry) : String :=
  match state.outcome? job with
  | none => "Running"
  | some ended =>
      match ended.signal?, ended.status with
      | some signal, _ => signalText signal
      | none, 0 => "Done"
      | none, status => "Done(" ++ toString status ++ ")"

def commandColumn : Nat := 33

def State.presentJob (state : State) (letter? : Option Char) (job : JobEntry) : State :=
  let mark :=
    if state.jobTable.head?.any fun other => other.place = job.place then "+"
    else if state.jobTable[1]?.any fun other => other.place = job.place then "-"
    else " "
  let number := if letter? = some 'l' then toString job.number ++ " " else ""
  let line := "[" ++ toString job.place ++ "] " ++ mark ++ " " ++ number ++ state.jobStatus job
  let blanks := String.ofList (List.replicate (max 1 (commandColumn - line.length)) ' ')
  let pipes := String.join (List.replicate job.pipes " | ")
  if letter? = some 'p' then state.writeText 1 (toString job.number ++ "\n")
  else
    let shown := state.writeText 1 (line ++ blanks ++ pipes ++ "\n")
    if (state.outcome? job).isSome then shown.dropJob job.place else shown

def State.presentJobs (letter? : Option Char) : List String → State → State
  | [], state => state
  | name :: names, state =>
      match state.jobOf? name with
      | .ok job => (state.presentJob letter? job).presentJobs letter? names
      | .error text => state.complain text 2

def runJobList (args : List String) (state : State) : State :=
  match takeOptions ['l', 'p'] args with
  | .error text => state.complain text 2
  | .ok (letters, []) =>
      let marked := state.jobTable
      marked.foldl (fun state job => state.presentJob letters.getLast? job)
        { state with status := 0 }
  | .ok (letters, names) => { state with status := 0 }.presentJobs letters.getLast? names

def runControl (args : List String) (state : State) : State :=
  match takeOptions [] args with
  | .error text => state.complain text 2
  | .ok (_, names) =>
      match state.jobOf? (names.headD "%") with
      | .ok _ =>
          state.complain ("job " ++ names.headD "(null)" ++ " not created under job control") 2
      | .error text => state.complain text 2

end CallScript.Shell
