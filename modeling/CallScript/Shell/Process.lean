import CallScript.Shell.Delegate

/-!
# Processes

A program runs as a process of its own, of which only what processes share comes back, or in place
of the script that starts it.
-/

namespace CallScript.Shell

def runProgram (run : Interpreter) (program : Program) (state : State) : State :=
  let name := program.args.headD program.name
  match program.name with
  | "sh" | "dash" | "bash" => runShell run name program.args.tail state
  | "sleep" => runSleep run program name state
  | _ =>
      match utilities.lookup program.name, delegates.lookup program.name with
      | some utility, _ => runUtility utility program name state
      | none, some delegate => delegate run name program.args.tail state
      | none, none => { state with status := 127, flow := .exit }

def runChild (run : Interpreter) (program : Program) (state : State) : State :=
  let state := state.passPlace
  state.leaveBehind (runProgram run program { state.divide with parent := state.number })

/-- Finds the program of a command. Where there is none, the script goes on behind a message. The
status says whether a program is there but cannot be run; of those that were searched for, only one
that would replace the script is looked at so closely. -/
def findProgram (replaces : Bool) (searchPath name : String) (args : List String)
    (state : State) : Except State Program :=
  match locate state.tree state.directory searchPath name args with
  | .ok program => .ok program
  | .error .badFormat => .ok ⟨"sh", "", "sh" :: name :: args⟩
  | .error .noEntry | .error .notDirectory => .error (state.complain (name ++ ": not found") 127)
  | .error e =>
      let isSearched := !replaces && !name.toList.contains '/'
      let status := if isSearched || e = .nameTooLong || e = .tooManyLinks then 127 else 126
      .error (state.complain (name ++ ": " ++ e.text) status)

def runExternal (run : Interpreter) (searchPath name : String) (args : List String)
    (state : State) : State :=
  match findProgram false searchPath name args state with
  | .ok program => runChild run program state
  | .error state => state

def runReplacing (run : Interpreter) (name : String) (args : List String) (state : State) :
    State :=
  match findProgram true state.searchPath name args { state with command? := some "exec" } with
  | .error state => { state with flow := .exit }
  | .ok program =>
      let ended := runProgram run program state
      let flow :=
        match ended.flow with
        | .killed signal => Flow.killed signal
        | _ => .exit
      { state.share ended with status := ended.status, flow := flow, traps := [] }

end CallScript.Shell
