import CallScript.Shell.Directory
import CallScript.Shell.InputLine
import CallScript.Shell.JobCommand
import CallScript.Shell.Limit
import CallScript.Shell.OptionScan
import CallScript.Shell.Process

/-!
# Commands of the shell itself

The commands that a script can use without any file: they see and change the state of the script. A
mistake in one of the special commands ends the script, in any other it only ends the command.
-/

namespace CallScript.Shell

def numberArg (default : Nat) : List String → Except String Nat
  | [] => .ok default
  | arg :: _ =>
      match Number.small? arg with
      | some n => .ok n
      | none => .error ("Illegal number: " ++ arg)

def splitAssignment (arg : String) : String × Option String :=
  let name := arg.toList.takeWhile (· ≠ '=')
  let value? := if name.length < arg.length then
    some (String.ofList (arg.toList.drop (name.length + 1))) else none
  (String.ofList name, value?)

/-- Does something for each argument that names a parameter, with the value behind its equals sign.
A wrong name ends the script. -/
def forNames (change : String → State → State) : List String → State → State
  | [], state => if state.isActive then { state with status := 0 } else state
  | arg :: args, state =>
      let (name, value?) := splitAssignment arg
      if isName name.toList then
        let state := (value?.map (state.assign name)).getD state
        forNames change args (change name state)
      else state.abort (name ++ ": bad variable name")

def State.present (state : State) (text : String) : State :=
  { state.writeText 1 text with status := 0 }

/-! ## Flow -/

/-- Ends the script. A script that is receiving a signal ends as it was found. -/
def runExit (args : List String) (state : State) : State :=
  match numberArg (state.foundStatus?.getD state.status) args with
  | .ok status => { state with status := status, flow := .exit }
  | .error text => state.abort text

def runReturn (args : List String) (state : State) : State :=
  match numberArg state.status args with
  | .ok status => { state with status := status, flow := .back !args.isEmpty }
  | .error text => state.abort text

/-- Leaves loops, or goes on with the next round. Outside of a loop that is nothing. -/
def runLoopExit (flow : Nat → Flow) (args : List String) (state : State) : State :=
  match numberArg 1 args with
  | .ok 0 => state.abort ("Illegal number: " ++ args.headD "")
  | .ok count =>
      if state.loops = 0 then { state with status := 0 }
      else { state with status := 0, flow := flow (min count state.loops) }
  | .error text => state.abort text

def runEval (run : Interpreter) (args : List String) (state : State) : State :=
  runTextOrSucceed run false (" ".intercalate args).toList state

def runInclude (run : Interpreter) (args : List String) (state : State) : State :=
  match args with
  | [] => { state with status := 0 }
  | name :: _ =>
      let path? :=
        if name.toList.contains '/' then some name
        else state.findPath? state.searchPath name Inode.isFile
      match path? with
      | none => state.abort (name ++ ": not found")
      | some path =>
          match state.openInput path with
          | .error e => state.abort ("cannot open " ++ path ++ ": " ++ openingProblem e)
          | .ok _ =>
              let content := (state.tree.readBytes state.directory path).toOption.getD .empty
              let ended := runTextOrSucceed run true (Octets.ofBytes content).toList
                { state with command? := some path, guarded := false }
              { ended with flow := ended.flow.arrived, guarded := state.guarded }

/-! ## Parameters and options -/

def runShift (args : List String) (state : State) : State :=
  match numberArg 1 args with
  | .ok count =>
      if state.args.length < count then state.abort "can't shift that many"
      else { state with status := 0, args := state.args.drop count }
  | .error text => state.abort text

/-- Turns the option of a letter on or off. Of the two ways of editing only one is on. -/
def State.switchLetter (state : State) (isOn : Bool) (c : Char) : State :=
  let state := state.switch isOn c
  match isOn, c with
  | true, 'V' => state.switch false 'E'
  | true, 'E' => state.switch false 'V'
  | _, _ => state

def bindingLines (front : String) (bindings : List (String × Option String)) : String :=
  let line (binding : String × Option String) : String :=
    front ++ binding.1 ++ ((binding.2.map fun value => "=" ++ singleQuoted value).getD "") ++ "\n"
  String.join ((bindings.mergeSort fun a b => a.1 ≤ b.1).map line)

def State.bindingListing (state : State) : String :=
  bindingLines "" (state.bindings.map fun (name, value) => (name, some value))

/-- Shows the options: as a table, or as commands that set them. -/
def State.optionListing (state : State) (isTable : Bool) : String :=
  let names := optionNames.map (fun option => (some option.1, option.2)) ++
    [(none, "nolog"), (none, "debug")]
  let line (option : Option Char × String) : String :=
    let isOn := option.1.any state.options.contains
    if isTable then
      option.2 ++ String.ofList (List.replicate (16 - option.2.length) ' ') ++
        (if isOn then "on" else "off") ++ "\n"
    else "set " ++ (if isOn then "-o " else "+o ") ++ option.2 ++ "\n"
  (if isTable then "Current option settings\n" else "") ++ String.join (names.map line)

/-- Carries out letters that are run together. Each letter `o` stands for an argument, which is the
name of an option; where there is none, the options are shown. -/
def switchLetters (isOn : Bool) : List Char → List String → State → State
  | [], _, state => state
  | 'o' :: letters, [], state =>
      switchLetters isOn letters [] (state.present (state.optionListing isOn))
  | 'o' :: letters, name :: args, state =>
      match optionNames.find? fun option => option.2 = name with
      | some option => switchLetters isOn letters args (state.switch isOn option.1)
      | none => state.abort ("Illegal option " ++ (if isOn then "-o " else "+o ") ++ name)
  | c :: letters, args, state =>
      if optionNames.any fun option => option.1 = c then
        switchLetters isOn letters args (state.switchLetter isOn c)
      else state.abort ("Illegal option " ++ String.ofList [if isOn then '-' else '+', c])

/-- Carries out the arguments of `set`: options, and behind them the new arguments of the script. -/
def switchAll : List String → State → State
  | [], state => state
  | arg :: args, state =>
      match arg.toList with
      | ['-'] =>
          let state := (state.switch false 'x').switch false 'v'
          { state with args := if args.isEmpty then state.args else args }
      | ['-', '-'] => { state with args := args }
      | sign :: letters =>
          if sign = '-' || sign = '+' then
            let ended := switchLetters (sign = '-') letters args state
            if ended.isActive then switchAll (args.drop (letters.count 'o')) ended else ended
          else { state with args := arg :: args }
      | [] => { state with args := arg :: args }
termination_by args => args.length

def runSet (args : List String) (state : State) : State :=
  if args.isEmpty then state.present state.bindingListing
  else
    let ended := switchAll args { state with status := 0 }
    if ended.isActive then ended.leaveControl else ended

def runMark (command : String) (marked : State → List String) (mark : String → State → State)
    (args : List String) (state : State) : State :=
  match takeOptions ['p'] args with
  | .error text => state.abort text
  | .ok (_, []) =>
      let bindings := (marked state).map fun name => (name, state.bindings.lookup name)
      state.present (bindingLines (command ++ " ") bindings)
  | .ok (_, names) => forNames mark names state

def runExport : List String → State → State :=
  runMark "export" (fun state => state.exported) fun name state =>
    { state with exported := name :: state.exported.filter (· ≠ name) }

def runReadonly : List String → State → State :=
  runMark "readonly" (fun state => state.constants) fun name state =>
    { state with constants := name :: state.constants.filter (· ≠ name) }

/-- Makes names come back as they are when the function is over, and gives them values. A dash
stands for the options. -/
def keepAll : List String → State → State
  | [], state => state
  | "-" :: args, state =>
      keepAll args { state with kept := .options state.options :: state.kept }
  | arg :: args, state =>
      let (name, value?) := splitAssignment arg
      let state := { state with kept := state.snapshot name :: state.kept }
      match isName name.toList, value? with
      | true, none => keepAll args state
      | false, some _ => keepAll args state
      | true, some value =>
          let state := state.assign name value
          if state.isActive then keepAll args state else state
      | false, none => state.abort (name ++ ": bad variable name")

def runLocal (args : List String) (state : State) : State :=
  if state.isScoped then keepAll args { state with status := 0 }
  else state.abort "not in a function"

def runUnset (args : List String) (state : State) : State :=
  match takeOptions ['f', 'v'] args with
  | .error text => state.abort text
  | .ok (letters, names) =>
      if letters.contains 'f' then
        { state with
          status := 0
          functions := state.functions.filter fun other => !names.contains other.1 }
      else
        forNames
          (fun name state =>
            if state.constants.contains name then state.abort (name ++ ": is read only")
            else state.forget [name]) names state

def runRead (args : List String) (state : State) : State :=
  match takeOptions ['p', 'r'] args with
  | .error text => state.complain text 2
  | .ok (letters, names) =>
      match if letters.getLast? = some 'p' then names.tail else names with
      | [] => state.complain "arg count" 2
      | names =>
          match names.find? fun name => !isName name.toList with
          | some name => state.complain (name ++ ": bad variable name") 2
          | none => state.readLine (letters.contains 'r') names

/-! ## Aliases -/

def Alias.line (entry : Alias) : String := entry.name ++ "=" ++ singleQuoted entry.text ++ "\n"

def defineAliases : List String → State → State
  | [], state => state
  | arg :: args, state =>
      match splitAssignment arg with
      | (name, some text) =>
          let others := state.aliases.filter fun other => other.name ≠ name
          defineAliases args { state with aliases := ⟨name, text⟩ :: others }
      | (name, none) =>
          match state.aliases.find? fun other => other.name = name with
          | some entry => defineAliases args (state.writeText 1 entry.line)
          | none =>
              defineAliases args
                { state.writeText 2 ("alias: " ++ name ++ " not found\n") with status := 1 }

def runAlias (args : List String) (state : State) : State :=
  if args.isEmpty then
    state.present (String.join ((state.aliases.map Alias.line).mergeSort fun a b => a ≤ b))
  else defineAliases args { state with status := 0 }

def runUnalias (args : List String) (state : State) : State :=
  match takeOptions ['a'] args with
  | .error text => state.complain text 2
  | .ok (letters, names) =>
      if letters.contains 'a' then { state with status := 0, aliases := [] }
      else
        names.foldl
          (fun state name =>
            if state.aliases.any fun other => other.name = name then
              { state with aliases := state.aliases.filter fun other => other.name ≠ name }
            else { state.writeText 2 ("unalias: " ++ name ++ " not found\n") with status := 1 })
          { state with status := 0 }

/-! ## The surroundings of the script -/

/-- Shows how long the script and its programs have been at work, which is no time at all. -/
def runTimes (state : State) : State :=
  state.present (String.join (List.replicate 2 "0m0.000000s 0m0.000000s\n"))

def runDirectory (args : List String) (state : State) : State :=
  match takeOptions ['L', 'P'] args with
  | .error text => state.complain text 2
  | .ok (letters, _) =>
      let isPhysical := letters.getLast? = some 'P'
      state.present ((if isPhysical then state.directory.path else state.path) ++ "\n")

def runChange (args : List String) (state : State) : State :=
  match takeOptions ['L', 'P'] args with
  | .error text => state.complain text 2
  | .ok (letters, args) => state.changeDirectory (letters.getLast? = some 'P') args

def rightLetters (bits : Nat) : String :=
  String.ofList ([(4, 'r'), (2, 'w'), (1, 'x')].filterMap fun (bit, letter) =>
    if bits.land bit != 0 then some letter else none)

def maskLetters (mask : Nat) : String :=
  let bits := FileTree.masked FileTree.directoryMode mask
  "u=" ++ rightLetters (bits / 64) ++ ",g=" ++ rightLetters (bits / 8 % 8) ++ ",o=" ++
    rightLetters (bits % 8)

def maskOf (mask : Nat) (text : String) : Except String Nat :=
  if text.toList.head?.any Char.isDigit then
    if text.toList.all fun c => '0' ≤ c && c ≤ '7' then
      .ok (Number.ofDigits 8 text.toList % 0o1000)
    else .error ("Illegal number: " ++ text)
  else
    match ModeSpec.ofText? text with
    | some spec =>
        let bits := spec.apply 0 false (FileTree.masked FileTree.directoryMode mask)
        .ok (FileTree.masked FileTree.directoryMode bits)
    | none => .error ("Illegal mode: " ++ text)

def runMask (args : List String) (state : State) : State :=
  match takeOptions ['S'] args with
  | .error text => state.complain text 2
  | .ok (letters, []) =>
      state.present ((if letters.isEmpty then modeDigits state.mask else maskLetters state.mask) ++
        "\n")
  | .ok (_, text :: _) =>
      match maskOf state.mask text with
      | .ok mask => { state with status := 0, mask := mask }
      | .error text => state.complain text 2

def runLimit (args : List String) (state : State) : State :=
  match takeOptions "HSatfdsmcnplvwr".toList args with
  | .error text => state.complain text 2
  | .ok (letters, args) => state.changeLimit letters args

/-! ## All of them -/

def runAsUtility (utility : Invocation → Reply) (args : List String) (state : State) : State :=
  let name := state.name ++ ": " ++ toString state.line ++ ": " ++ state.command?.getD ""
  state.adopt (utility (state.invocation name "" args))

def answer (status : Nat) (_ : List String) (state : State) : State :=
  { state with status := status }

def specialCommands : List (String × (Interpreter → List String → State → State)) :=
  [(":", fun _ => answer 0), (".", runInclude), ("break", fun _ => runLoopExit .leave),
    ("continue", fun _ => runLoopExit .again), ("eval", runEval), ("exit", fun _ => runExit),
    ("export", fun _ => runExport), ("local", fun _ => runLocal),
    ("readonly", fun _ => runReadonly), ("return", fun _ => runReturn), ("set", fun _ => runSet),
    ("shift", fun _ => runShift), ("times", fun _ _ => runTimes), ("trap", fun _ => runTrap),
    ("unset", fun _ => runUnset)]

def plainCommands : List (String × (Interpreter → List String → State → State)) :=
  [("true", fun _ => answer 0), ("false", fun _ => answer 1), ("alias", fun _ => runAlias),
    ("bg", fun _ => runControl), ("cd", fun _ => runChange), ("chdir", fun _ => runChange),
    ("echo", fun _ args state => state.present (Format.echo .plain true args)),
    ("fg", fun _ => runControl), ("getopts", fun _ => runOptions), ("jobs", fun _ => runJobList),
    ("kill", fun _ => runKill),
    ("printf", fun _ => runAsUtility Invocation.ownPrintf), ("pwd", fun _ => runDirectory),
    ("read", fun _ => runRead),
    ("test", fun _ => runAsUtility fun call => call.ownTest call.args),
    ("[", fun _ => runAsUtility Invocation.ownBracket), ("ulimit", fun _ => runLimit),
    ("umask", fun _ => runMask), ("unalias", fun _ => runUnalias), ("wait", runWait)]

/-- Whether a command keeps its assignments, and ends the script where its redirections fail. -/
def isSpecial (name : String) : Bool :=
  name = "exec" || (specialCommands.lookup name).isSome

end CallScript.Shell
