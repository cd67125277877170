import CallScript.Shell.Program

/-!
# Programs that run other programs

These change what a command finds, limit its time or give it arguments, and then run it.
-/

namespace CallScript.Shell

/-! ## Changed bindings -/

def envOptions : OptionSpec where
  flags := "i0v"
  valued := "uCS"
  names := [.flag "ignore-environment" "i", .flag "null" "0", .valued "unset" "u",
    .valued "chdir" "C", .valued "split-string" "S", .flag "debug" "v"]
  inFront := true

/-- The arguments of `env` with those that stand together in one argument taken apart. -/
def envArgs (args : List String) : List String :=
  let divided (text : String) : List String :=
    (Text.pieces ' ' text.toList |>.filter fun piece => !piece.isEmpty).map String.ofList
  match args with
  | first :: rest =>
      if first = "-S" then divided (rest.headD "") ++ rest.tail
      else if first.startsWith "-S" then divided ((first.drop 2).toString) ++ rest
      else args
  | [] => []

def State.forget (state : State) (names : List String) : State :=
  { state with
    bindings := state.bindings.filter fun binding => !names.contains binding.1
    found := state.foundAfter names
    exported := state.exported.filter fun name => !names.contains name }

/-- Gives a name a value that programs see. A new name comes last. -/
def State.export (state : State) (name value : String) : State :=
  let bindings :=
    if (state.bindings.lookup name).isSome then state.bindings.put name value
    else state.bindings ++ [(name, value)]
  { state with
    bindings := bindings, found := state.foundAfter [name]
    exported := name :: state.exported.filter (· ≠ name) }

def plainSearchPath : String := "/bin:/usr/bin"

/-- How a program says that it cannot run a command, as the text between its own name and the
reason. -/
abbrev Complaint := String → String

def quotedComplaint : Complaint := fun command => quoted command

def failedComplaint : Complaint := fun command => "failed to run command " ++ quoted command

def runInstead (run : Interpreter) (name : String) (complaint : Complaint) (command : String)
    (args : List String) (state : State) : State :=
  let state :=
    if (state.value? "PATH").isSome then state
    else
      let searching := (state.forget ["PATH"]).assign "PATH" plainSearchPath
      { searching with exported := state.exported.filter (· ≠ "PATH") }
  match locate state.tree state.directory state.searchPath command args with
  | .ok _ =>
      let words := ("exec" :: command :: args).map fun word => [Part.literal word.toList true]
      run (.simple 1 [] words []) { state with functions := [], flow := .next }
  | .error e =>
      let message := name ++ ": " ++ complaint command ++ ": " ++ e.text ++ "\n"
      state.refuse message (if e = .noEntry then 127 else 126)

/-- Runs a command as a process of its own, with nothing to read. The process is what has become of
it. -/
def runApart (run : Interpreter) (name : String) (complaint : Complaint) (command : String)
    (args : List String) (state : State) : State :=
  let start := { state.divide with parent := state.number }
  runInstead run name complaint command args (start.openFile 0 .silent)

def runUnder (run : Interpreter) (name : String) (args : List String) (state : State) : State :=
  let hint := "Try '" ++ name ++ " --help' for more information.\n"
  match envOptions.read (envArgs args) with
  | .error text => state.refuse (name ++ ": " ++ text ++ "\n" ++ hint) 125
  | .ok arguments =>
      let isBare := arguments.operands.head? = some "-"
      let operands := if isBare then arguments.operands.tail else arguments.operands
      let start := { state with bindings := state.environment }
      let start := if isBare || arguments.has "i" then { start with bindings := [] } else start
      let start := start.forget (arguments.values "u")
      let assignments := operands.takeWhile fun operand => operand.toList.contains '='
      let start := assignments.foldl
        (fun state text =>
          let name := text.toList.takeWhile (· ≠ '=')
          state.export (String.ofList name) (String.ofList (text.toList.drop (name.length + 1))))
        start
      let ended := if arguments.has "0" then "\x00" else "\n"
      let moved? :=
        match arguments.value? "C" with
        | none => Except.ok start
        | some path =>
            match start.tree.find start.directory path with
            | .ok (place, node) =>
                if node.isDirectory then .ok { start with directory := place }
                else .error (path, OsError.notDirectory)
            | .error e => .error (path, e)
      match moved?, operands.drop assignments.length with
      | .error (path, e), _ =>
          state.refuse (name ++ ": cannot change directory to " ++ quoted path ++ ": " ++ e.text ++
            "\n") 125
      | .ok start, [] =>
          let shown := start.bindings.map fun (name, value) => name ++ "=" ++ value ++ ended
          { state.writeText 1 (String.join shown) with status := 0, flow := .exit }
      | .ok start, command :: args =>
          let ended := runInstead run name quotedComplaint command args start
          let isSpaced := command.toList.any Number.isSpace
          if ended.status = 127 && isSpaced then
            ended.writeText 2 (name ++ ": use -[v]S to pass options in shebang lines\n")
          else ended

/-! ## Changed conditions -/

def hintOf (name : String) : String := "Try '" ++ name ++ " --help' for more information.\n"

def nohupOptions : OptionSpec where
  inFront := true

def runDetached (run : Interpreter) (name : String) (args : List String) (state : State) : State :=
  match nohupOptions.read args with
  | .error text => state.refuse (name ++ ": " ++ text ++ "\n" ++ hintOf name) 125
  | .ok arguments =>
      match arguments.operands with
      | [] => state.refuse (name ++ ": missing operand\n" ++ hintOf name) 125
      | command :: args => runInstead run name failedComplaint command args state

def niceOptions : OptionSpec where
  valued := "n"
  names := [.valued "adjustment" "n"]
  inFront := true

def runPolitely (run : Interpreter) (name : String) (args : List String) (state : State) : State :=
  match niceOptions.read args with
  | .error text => state.refuse (name ++ ": " ++ text ++ "\n" ++ hintOf name) 125
  | .ok arguments =>
      match arguments.value? "n", arguments.operands with
      | none, [] => { state.writeText 1 "0\n" with status := 0, flow := .exit }
      | some _, [] =>
          state.refuse (name ++ ": a command must be given with an adjustment\n" ++ hintOf name) 125
      | text?, command :: args =>
          match text?.filter fun text => (Number.decimal? text).isNone with
          | some text => state.refuse (name ++ ": invalid adjustment " ++ quoted text ++ "\n") 125
          | none => runInstead run name quotedComplaint command args state

def stdbufOptions : OptionSpec where
  valued := "ioe"
  names := [.valued "input" "i", .valued "output" "o", .valued "error" "e"]
  inFront := true

def runBuffered (run : Interpreter) (name : String) (args : List String) (state : State) : State :=
  match stdbufOptions.read args with
  | .error text => state.refuse (name ++ ": " ++ text ++ "\n" ++ hintOf name) 125
  | .ok arguments =>
      match arguments.operands with
      | [] => state.refuse (name ++ ": missing operand\n" ++ hintOf name) 125
      | command :: args =>
          if arguments.options.isEmpty then
            state.refuse
              (name ++ ": you must specify a buffering mode option\n" ++ hintOf name) 125
          else runInstead run name failedComplaint command args state

/-! ## Limited time -/

def timeoutOptions : OptionSpec where
  flags := "v"
  valued := "sk"
  names := [.valued "signal" "s", .valued "kill-after" "k", .alone "foreground",
    .alone "preserve-status", .flag "verbose" "v"]
  inFront := true

/-- Runs a command for a time. Of a command that takes longer nothing is left but the time that it
was given. -/
def runLimited (run : Interpreter) (name : String) (args : List String) (state : State) : State :=
  match timeoutOptions.read args with
  | .error text => state.refuse (name ++ ": " ++ text ++ "\n" ++ hintOf name) 125
  | .ok arguments =>
      match arguments.operands with
      | text :: command :: args =>
          match interval? text with
          | none =>
              state.refuse
                (name ++ ": invalid time interval " ++ quoted text ++ "\n" ++ hintOf name) 125
          | some time =>
              let start := { state.divide with parent := state.number }
              let ended := runInstead run name failedComplaint command args start
              let signal := ((arguments.value? "s").bind signalOf?).getD 15
              if time > 0 && ended.tree.now > state.tree.now + time then
                let late := state.sleep run time
                if signal = killSignal then { late with flow := .killed signal }
                else
                  let status := if arguments.has "preserve-status" then 128 + signal else 124
                  { late with status := status, flow := .exit }
              else
                match ended.flow with
                | .killed signal => { state.share ended with flow := .killed signal }
                | _ => { state.share ended with status := ended.status, flow := .exit }
      | _ => state.refuse (hintOf name) 125

/-! ## Arguments from the input -/

def xargsOptions : OptionSpec where
  flags := "0rtxpo"
  valued := "adEILnPs"
  names := [.flag "null" "0", .valued "arg-file" "a", .valued "delimiter" "d",
    .flag "no-run-if-empty" "r", .flag "verbose" "t", .flag "exit" "x", .valued "max-args" "n",
    .valued "max-lines" "L", .valued "max-procs" "P", .valued "max-chars" "s",
    ⟨"replace", "I", .optional⟩]
  inFront := true

/-- An argument that has been read, with the number of its line. -/
structure Item where
  text : List Char
  line : Nat

/-- What is being read: the items so far, the last one first, the one that has been begun, and the
number of the line. -/
structure ItemReading where
  items : List Item
  begun? : Option (List Char)
  line : Nat

namespace ItemReading

def add (reading : ItemReading) (text : List Char) : ItemReading :=
  { reading with begun? := some (reading.begun?.getD [] ++ text) }

def finish (reading : ItemReading) : ItemReading :=
  match reading.begun? with
  | some text => { reading with items := ⟨text, reading.line⟩ :: reading.items, begun? := none }
  | none => reading

end ItemReading

def readItems (wholeLines : Bool) : Nat → ItemReading → List Char → Except String (List Item)
  | 0, reading, _ => .ok reading.finish.items.reverse
  | _, reading, [] => .ok reading.finish.items.reverse
  | fuel + 1, reading, c :: rest =>
      let go (reading : ItemReading) (rest : List Char) : Except String (List Item) :=
        readItems wholeLines fuel reading rest
      if c = '\n' then
        let finished := reading.finish
        go { finished with line := finished.line + 1 } rest
      else if (c = ' ' || c = '\t') && (!wholeLines || reading.begun?.isNone) then
        go reading.finish rest
      else if c = '\\' then go (reading.add (rest.take 1)) (rest.drop 1)
      else if c = '\'' || c = '"' then
        let inner := rest.takeWhile fun d => d ≠ c && d ≠ '\n'
        if (rest.drop inner.length).head? = some c then
          go (reading.add inner) (rest.drop (inner.length + 1))
        else
          .error ("unmatched " ++ (if c = '"' then "double" else "single") ++
            " quote; by default quotes are special to xargs unless you use the -0 option")
      else go (reading.add [c]) rest

def itemsOf (arguments : Arguments) (text : List Char) : Except String (List Item) :=
  let divided (mark : Char) : List Item :=
    let pieces := Text.pieces mark text
    let pieces := if pieces.getLast? = some [] then pieces.dropLast else pieces
    pieces.zipIdx.map fun (text, line) => ⟨text, line⟩
  match arguments.last? ["0", "d"], arguments.value? "d" with
  | some "0", _ => .ok (divided '\x00')
  | some _, some mark =>
      let (letters, _) := Format.unescape Invocation.fullDialect (mark.length + 1) mark.toList
      .ok (divided (letters.headD '\n'))
  | _, _ => readItems (arguments.has "I") (text.length + 1) ⟨[], none, 1⟩ text

def groupItems (size : Nat) : Nat → List Item → List (List Item)
  | 0, _ => []
  | _, [] => []
  | fuel + 1, items => items.take size :: groupItems size fuel (items.drop size)

def groupLines (count : Nat) : Nat → List Item → List (List Item)
  | 0, _ => []
  | _, [] => []
  | fuel + 1, first :: items =>
      let lines := ((first :: items).map Item.line).eraseDups.take count
      let here := (first :: items).takeWhile fun item => lines.contains item.line
      here :: groupLines count fuel ((first :: items).drop here.length)

def fillMark (mark text argument : String) : String :=
  if mark.isEmpty then argument else text.intercalate (argument.splitOn mark)

def commandLines (arguments : Arguments) (args : List String) (items : List Item) :
    List (List String) :=
  let texts (items : List Item) : List String := items.map fun item => String.ofList item.text
  let number? (key : String) : Option Nat :=
    ((arguments.value? key).bind fun text => Number.natural? text.toList).filter (· > 0)
  let fuel := items.length
  match arguments.last? ["I", "L", "n"] with
  | some "I" =>
      let mark := (arguments.value? "I").getD "\x7b\x7d"
      items.map fun item => args.map (fillMark mark (String.ofList item.text))
  | some "L" =>
      (groupLines ((number? "L").getD 1) fuel items).map fun group => args ++ texts group
  | some "n" =>
      (groupItems ((number? "n").getD 1) fuel items).map fun group => args ++ texts group
  | _ => if items.isEmpty && arguments.has "r" then [] else [args ++ texts items]

/-- Runs commands one after the other, and says with which code all of them end. -/
def runAll (run : Interpreter) (name : String) (isShown : Bool) (command : String) :
    List (List String) → Nat → State → State
  | [], code, state => { state with status := code, flow := .exit }
  | args :: others, code, state =>
      let state :=
        if isShown then
          state.writeText 2 (" ".intercalate ((command :: args).map shown) ++ "\n")
        else state
      let ended := runApart run name (fun command => command) command args state
      let behind := state.share ended
      match ended.flow with
      | .killed signal =>
          behind.refuse (name ++ ": " ++ command ++ ": terminated by signal " ++ toString signal ++
            "\n") 125
      | _ =>
          if ended.status = 255 then
            behind.refuse (name ++ ": " ++ command ++ ": exited with status 255; aborting\n") 124
          else if ended.status = 126 || ended.status = 127 then
            { behind with status := ended.status, flow := .exit }
          else
            let code := if ended.status = 0 then code else 123
            runAll run name isShown command others code behind

def runWithItems (run : Interpreter) (name : String) (args : List String) (state : State) : State :=
  let hint := hintOf name
  match xargsOptions.read args with
  | .error text => state.refuse (name ++ ": " ++ text ++ "\n" ++ hint) 1
  | .ok arguments =>
      let isWrong (key : String) : Bool :=
        (arguments.value? key).any fun text => (Number.natural? text.toList).isNone
      match ["n", "L", "P", "s"].find? isWrong with
      | some key =>
          state.refuse (name ++ ": invalid number \"" ++ (arguments.value? key).getD "" ++
            "\" for -" ++ key ++ " option\n" ++ hint) 1
      | none =>
          let input : Except OsError ByteArray :=
            match arguments.value? "a" with
            | some path => state.tree.readBytes state.directory path
            | none => .ok ((state.input 0).toOption.getD .empty)
          match input with
          | .error e =>
              let path := (arguments.value? "a").getD ""
              state.refuse (name ++ ": Cannot open input file " ++ quoted path ++ ": " ++ e.text ++
                "\n") 1
          | .ok content =>
              let state := if arguments.has "a" then state else state.consume 0 content.size
              match itemsOf arguments (Octets.ofBytes content).toList with
              | .error text => state.refuse (name ++ ": " ++ text ++ "\n") 1
              | .ok items =>
                  let (command, args) :=
                    match arguments.operands with
                    | [] => ("echo", [])
                    | command :: args => (command, args)
                  let lines := commandLines arguments args items
                  runAll run name (arguments.has "t") command lines 0 state

def delegates : List (String × (Interpreter → String → List String → State → State)) :=
  [("env", runUnder), ("nohup", runDetached), ("nice", runPolitely), ("stdbuf", runBuffered),
    ("timeout", runLimited), ("xargs", runWithItems)]

end CallScript.Shell
