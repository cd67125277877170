import CallScript.Shell.Meaning
import CallScript.Shell.Process

/-!
# Calling commands

The first word of a simple command says what is called. Where that is `command`, what is called
comes from the words behind it: no function is meant then, and a mistake in a special command does
not end the script. The words are expanded one after the other until it is known what is called,
because the arguments of some commands are expanded like assignments.
-/

namespace CallScript.Shell

/-- What is called. -/
structure Call where
  words : List String
  isPlain : Bool
  isStandard : Bool

/-- What the words behind `command` ask for. -/
inductive Passed where
  | undecided
  | nothing
  | call (words : List String) (isStandard : Bool)

def Passed.ofWords (isStandard : Bool) : List String → Passed
  | [] => .undecided
  | word :: words =>
      match word.toList with
      | ['-', '-'] => if words.isEmpty then .undecided else .call words isStandard
      | '-' :: letter :: letters =>
          if (letter :: letters).all (· = 'p') then ofWords true words else .nothing
      | _ => .call (word :: words) isStandard

namespace Call

/-- Passes over `command` in front of what is called. Unless the words are all that there are, they
may not be enough for that. -/
def pass? (areAll : Bool) (functions : List (String × Script)) : Nat → Call → Option Call
  | 0, call => some call
  | fuel + 1, call =>
      let isPassing := call.words.head? = some "command" &&
        (call.isPlain || (functions.lookup "command").isNone)
      if !isPassing then some call
      else
        match Passed.ofWords false call.words.tail with
        | .undecided => if areAll then some call else none
        | .nothing => some call
        | .call words isStandard =>
            pass? areAll functions fuel ⟨words, true, call.isStandard || isStandard⟩

def ofWords? (areAll : Bool) (functions : List (String × Script)) (words : List String) :
    Option Call :=
  if words.isEmpty then none else pass? areAll functions words.length ⟨words, false, false⟩

def isSpecial (call : Call) : Bool := !call.isPlain && call.words.head?.any Shell.isSpecial

def function? (functions : List (String × Script)) (call : Call) : Option Script := do
  guard (!call.isPlain)
  functions.lookup (← call.words.head?)

def assigningNames : List String := ["alias", "export", "local", "readonly"]

def takesAssignments (functions : List (String × Script)) (call : Call) : Bool :=
  (call.function? functions).isNone && call.words.head?.any assigningNames.contains

end Call

def expandArgument (run : Interpreter) (canAssign : Bool) (word : Word) (state : State) :
    List String × State :=
  match if canAssign then Word.assignment? word else none with
  | none => expandWord run word state
  | some (name, word) =>
      let (value, state) := expandText run .value word state
      ([name ++ "=" ++ value], state)

def expandArguments (run : Interpreter) (canAssign : Bool) :
    List Word → State → List String × State
  | [], state => ([], state)
  | word :: words, state =>
      if state.isActive then
        let (first, state) := expandArgument run canAssign word state
        let (others, state) := expandArguments run canAssign words state
        (first ++ others, state)
      else ([], state)

/-- Expands the words of a command behind those that have been expanded, and finds out what is
called. -/
def expandCall (run : Interpreter) :
    List Word → List String → State → List String × Option Call × State
  | [], words, state => (words, Call.ofWords? true state.functions words, state)
  | word :: others, words, state =>
      match Call.ofWords? false state.functions words with
      | some call =>
          let canAssign := call.takesAssignments state.functions
          let (args, state) := expandArguments run canAssign (word :: others) state
          (words ++ args, some { call with words := call.words ++ args }, state)
      | none =>
          if state.isActive then
            let (first, state) := expandWord run word state
            expandCall run others (words ++ first) state
          else ([], none, state)

/-! ## Running what is called -/

def runFunction (run : Interpreter) (body : Script) (args : List String) (state : State) : State :=
  let ended := run body { state with args := args, loops := 0 }
  { ended with args := state.args, loops := state.loops, flow := ended.flow.arrived }

def runCommand (args : List String) (state : State) : State :=
  match takeOptions ['p', 'v', 'V'] args with
  | .error text => { state with command? := some "command" }.complain text 2
  | .ok (letters, names) =>
      match names, letters.contains 'v' || letters.contains 'V' with
      | name :: _, true => state.describe (letters.contains 'V') (letters.contains 'p') name
      | _, _ => { state with status := 0 }

def ownCommand? (name : String) (args : List String) :
    Option (Interpreter → List String → State → State) :=
  match name, args with
  | "command", _ => some fun _ => runCommand
  | "exec", [] => some fun _ _ state => { state with status := 0 }
  | "exec", name :: args => some fun run _ => runReplacing run name args
  | "hash", _ => some fun _ => runHash
  | "type", _ => some fun _ => runType
  | _, _ => (specialCommands ++ plainCommands).lookup name

/-- Runs a command of the shell itself, where the name is one. Output that goes nowhere makes it
fail. -/
def runOwn? (run : Interpreter) (name : String) (args : List String) (state : State) :
    Option State := do
  let command ← ownCommand? name args
  let ended := command run args { state with command? := some name, isCutOff := false }
  let ended :=
    if ended.isCutOff && !state.canWrite 1 then
      { ended with command? := some name }.complain (name ++ ": I/O error") 1
    else ended
  return { ended with command? := state.command? }

/-- Goes on behind a command of the shell itself. What fails in a special one ends the script. -/
def State.settle (state : State) (isSpecial : Bool) (ended : State) : State :=
  if ended.flow = .failed && !isSpecial then
    { ended.unwind state with flow := .next, loops := state.loops }
  else ended

def Call.run (run : Interpreter) (call : Call) (state : State) : State :=
  match call.words, call.function? state.functions with
  | [], _ => state
  | _ :: args, some body => runFunction run body args state
  | name :: args, none =>
      match runOwn? run name args state with
      | some ended => state.settle call.isSpecial ended
      | none =>
          if call.isStandard then runExternal run standardPath name args state
          else
            let state := state.lookUp name
            runExternal run state.searchPath name args state

end CallScript.Shell
