import CallScript.Shell.State

/-!
# The table of jobs

A script knows the jobs that it has started by their places in a table. A job keeps its place until
it has ended and has been waited for, and then until a new process needs the place.
-/

namespace CallScript.Shell

def State.outcome? (state : State) (job : JobEntry) : Option Ended :=
  state.ended.find? fun other => other.number = job.number && other.owner = state.number

def State.isSettled (state : State) (job : JobEntry) : Bool :=
  job.isWaited && (state.outcome? job).isSome

def State.freePlace (state : State) : Nat × State :=
  let isTaken (place : Nat) : Bool :=
    state.jobTable.any fun job => job.place = place && !state.isSettled job
  let places := (List.range (state.jobTable.length + 1)).map (· + 1)
  let place := (places.find? fun place => !isTaken place).getD (state.jobTable.length + 1)
  (place, { state with jobTable := state.jobTable.filter fun job => job.place ≠ place })

def State.passPlace (state : State) : State := state.freePlace.2

def State.enterJob (state : State) (number pipes : Nat) : State :=
  let (place, state) := state.freePlace
  { state with jobTable := ⟨place, number, pipes, false⟩ :: state.jobTable }

def State.jobOf? (state : State) (name : String) : Except String JobEntry :=
  let orElse (problem : String) (job? : Option JobEntry) : Except String JobEntry :=
    match job? with
    | some job => .ok job
    | none => .error problem
  match name.toList with
  | ['%'] | ['%', '%'] | ['%', '+'] => orElse "No current job" state.jobTable.head?
  | ['%', '-'] => orElse "No previous job" state.jobTable[1]?
  | '%' :: place =>
      let found? := do
        let n ← Number.natural? place
        state.jobTable.find? fun job => job.place = n
      orElse ("No such job: " ++ name) found?
  | _ => .error ("No such job: " ++ name)

def State.markWaited (state : State) (isMeant : JobEntry → Bool) : State :=
  { state with
    jobTable := state.jobTable.map fun job => if isMeant job then { job with isWaited := true }
      else job }

def State.dropJob (state : State) (place : Nat) : State :=
  { state with jobTable := state.jobTable.filter fun job => job.place ≠ place }

end CallScript.Shell
