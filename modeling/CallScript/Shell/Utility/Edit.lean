import CallScript.Shell.EditScript
import CallScript.Shell.Utility.Basic

/-!
# Editing lines

The utility that carries out a script of editing commands for each line. A line is edited in a space
of its own; a second space keeps text from line to line.
-/

namespace CallScript.Shell

/-- A line that is edited, and whether a line break ends it. -/
structure EditLine where
  text : List Char
  isEnded : Bool
  file : String

/-- How far a range has come. -/
inductive RangeState where
  | waiting
  | inside (last? : Option Nat)
  | over
deriving DecidableEq

/-- What comes behind the lines that are written. -/
inductive Queued where
  | text (text : List Char)
  | file (path : String)

/-- What a script is run with. -/
structure EditSetting where
  commands : Array EditCommand
  isQuiet : Bool
  ended : Char
  width : Nat
  readFile : String → Option String

structure EditState where
  ahead : List EditLine
  number : Nat
  space : List Char
  isEnded : Bool
  file : String
  hold : List Char
  out : List String
  isOpen : Bool
  queue : List Queued
  ranges : List (Nat × RangeState)
  last? : Option EditPattern
  hasChanged : Bool
  written : List (String × String)
  readers : List (String × List Char)
  isLost : Bool

/-- How the commands for a line have ended. -/
inductive EditEnding where
  | finished
  | deleted
  | again
  | quit (code : Nat) (isSilent : Bool)

namespace EditState

def start (written : List (String × String)) : EditState where
  ahead := []
  number := 0
  space := []
  isEnded := true
  file := "-"
  hold := []
  out := []
  isOpen := false
  queue := []
  ranges := []
  last? := none
  hasChanged := false
  written := written
  readers := []
  isLost := false

def emit (state : EditState) (ended : Char) (text : List Char) (isEnded : Bool) : EditState :=
  let front := if state.isOpen then [ended] else []
  let back := if isEnded then [ended] else []
  { state with out := String.ofList (front ++ text ++ back) :: state.out, isOpen := !isEnded }

def emitText (state : EditState) (ended : Char) (text : List Char) : EditState :=
  let front := if state.isOpen then [ended] else []
  { state with out := String.ofList (front ++ text) :: state.out, isOpen := false }

def display (state : EditState) (ended : Char) : EditState :=
  state.emit ended state.space state.isEnded

def flush (setting : EditSetting) (state : EditState) : EditState :=
  let flushed := state.queue.foldl
    (fun state queued =>
      match queued with
      | .text text => state.emitText setting.ended text
      | .file path =>
          state.emitText setting.ended ((setting.readFile path).getD "").toList)
    state
  { flushed with queue := [] }

def writeTo (state : EditState) (path : String) (ended : Char) (text : List Char)
    (isEnded : Bool) : EditState :=
  let line := if isEnded then text ++ [ended] else text
  if path = "/dev/stdout" then { state with out := String.ofList line :: state.out }
  else
    { state with
      written := state.written.map fun file =>
        if file.1 ≠ path then file
        else
          let isOpen := !file.2.isEmpty && file.2.toList.getLast? ≠ some ended
          (path, file.2 ++ String.ofList (if isOpen then ended :: line else line)) }

def takeLine (setting : EditSetting) (state : EditState) (path : String) :
    List Char × EditState :=
  let rest := (state.readers.lookup path).getD ((setting.readFile path).getD "").toList
  let front := rest.takeWhile (· ≠ setting.ended)
  let line := rest.take (front.length + 1)
  (line, { state with
    readers := (path, rest.drop line.length) ::
      state.readers.filter fun reader => reader.1 ≠ path })

def finds (state : EditState) (pattern : EditPattern) : Bool × EditState :=
  let meant? := if pattern.pattern?.isSome then some pattern else state.last?
  match meant?.bind fun meant => meant.pattern?.map (meant, ·) with
  | none => (false, { state with isLost := true })
  | some (meant, inner) =>
      let subject : LinePattern.Subject :=
        ⟨state.space.toArray, meant.ignoresCase, meant.hasLines⟩
      ((LinePattern.find? subject inner 0).isSome, { state with last? := some meant })

def matchesAddress (state : EditState) : EditAddress → Bool × EditState
  | .line number => (state.number = number, state)
  | .last => (state.ahead.isEmpty, state)
  | .step first size =>
      (if size = 0 then state.number = first
        else first ≤ state.number && (state.number - first) % size = 0, state)
  | .found pattern => state.finds pattern

def setRange (state : EditState) (index : Nat) (range : RangeState) : EditState :=
  { state with ranges := (index, range) :: state.ranges.filter fun other => other.1 ≠ index }

def startRange (state : EditState) (index : Nat) (ending : EditEnd) (onlyOnce : Bool) :
    EditState :=
  let line := state.number
  let upTo (last : Nat) : EditState :=
    state.setRange index
      (if last ≤ line then if onlyOnce then .over else .waiting else .inside (some last))
  match ending with
  | .line last => upTo last
  | .behind count => upTo (line + count)
  | .multiple size => upTo (if size = 0 then line else (line / size + 1) * size)
  | .last => if state.ahead.isEmpty then state else state.setRange index (.inside none)
  | .found _ => state.setRange index (.inside none)

def matchesRange (state : EditState) (index : Nat) (command : EditCommand) (first : EditAddress)
    (ending : EditEnd) : Bool × EditState :=
  let onlyOnce := match first with | .line _ => true | _ => false
  let start := if command.isEarly then RangeState.inside none else .waiting
  match (state.ranges.lookup index).getD start with
  | .over => (false, state)
  | .inside (some last) =>
      let next := if last ≤ state.number then if onlyOnce then .over else .waiting
        else RangeState.inside (some last)
      (decide (state.number ≤ last), state.setRange index next)
  | .inside none =>
      let closed : RangeState := if onlyOnce then .over else .waiting
      match ending with
      | .found pattern =>
          let (isFound, state) := state.finds pattern
          (true, if isFound then state.setRange index closed else state)
      | _ => (true, if state.ahead.isEmpty then state.setRange index closed else state)
  | .waiting =>
      let (isFirst, state) := state.matchesAddress first
      (isFirst, if isFirst then state.startRange index ending onlyOnce else state)

def chooses (state : EditState) (index : Nat) (command : EditCommand) : Bool × EditState :=
  let (isMatch, state) :=
    match command.first?, command.last? with
    | none, _ => (true, state)
    | some first, none => state.matchesAddress first
    | some first, some ending => state.matchesRange index command first ending
  (isMatch != command.isNegated, state)

def isInside (state : EditState) (index : Nat) : Bool :=
  match state.ranges.lookup index with
  | some (.inside _) => true
  | _ => false

/-- Takes the next line into the space, behind what is there if it is to be joined. -/
def advance (state : EditState) (joint? : Option Char) : Option EditState :=
  match state.ahead with
  | [] => none
  | line :: ahead =>
      let front :=
        match joint? with
        | some joint => state.space ++ [joint]
        | none => []
      some { state with
        ahead := ahead, number := state.number + 1, space := front ++ line.text
        isEnded := line.isEnded, file := line.file }

end EditState

/-! ## Substitutions -/

/-- A replacement that is being written. -/
structure Writing where
  text : List Char
  change : CaseChange
  next : CaseChange

def Writing.add (writing : Writing) (text : List Char) : Writing :=
  let changed :=
    match writing.change with
    | .upper => text.map Char.toUpper
    | .lower => text.map Char.toLower
    | _ => text
  match changed, writing.next with
  | [], _ => writing
  | c :: rest, .nextUpper =>
      { writing with text := writing.text ++ c.toUpper :: rest, next := .none }
  | c :: rest, .nextLower =>
      { writing with text := writing.text ++ c.toLower :: rest, next := .none }
  | changed, _ => { writing with text := writing.text ++ changed }

def Substitution.replace (substitution : Substitution) (text : Array Char)
    (found : LinePattern.Found) : List Char :=
  (substitution.replacement.foldl
    (fun writing part =>
      match part with
      | .text text => writing.add text
      | .group number => writing.add (found.part text number)
      | .case .nextUpper => { writing with next := .nextUpper }
      | .case .nextLower => { writing with next := .nextLower }
      | .case change => { writing with change := change, next := .none })
    (⟨[], .none, .none⟩ : Writing)).text

/-- Replaces matches from a place on, and says whether there were any to replace. Right behind a
match an empty one does not count. -/
def Substitution.apply (substitution : Substitution) (subject : LinePattern.Subject)
    (pattern : LinePattern) : Nat → Nat → Nat → Option Nat → List Char × Bool
  | 0, start, _, _ => ((subject.text.extract start subject.text.size).toList, false)
  | fuel + 1, start, count, previous? =>
      let size := subject.text.size
      let between (first last : Nat) : List Char := (subject.text.extract first last).toList
      match LinePattern.find? subject pattern start with
      | none => (between start size, false)
      | some found =>
          let front := between start found.first
          let isEmpty := found.first = found.last
          let step (count : Nat) (previous? : Option Nat) : List Char × Bool :=
            if !isEmpty then substitution.apply subject pattern fuel found.last count previous?
            else if found.last ≥ size then ([], false)
            else
              let (rest, isChanged) :=
                substitution.apply subject pattern fuel (found.last + 1) count previous?
              (between found.last (found.last + 1) ++ rest, isChanged)
          if isEmpty && previous? = some found.first then
            let (rest, isChanged) := step count none
            (front ++ rest, isChanged)
          else
            let count := count + 1
            let isMeant := count = substitution.number ||
              (substitution.isGlobal && substitution.number < count)
            let here := if isMeant then substitution.replace subject.text found
              else between found.first found.last
            if isMeant && !substitution.isGlobal then
              (front ++ here ++ between found.last size, true)
            else
              let (rest, isChanged) := step count (if isEmpty then none else some found.last)
              (front ++ here ++ rest, isMeant || isChanged)

def EditState.substitute (state : EditState) (ended : Char) (substitution : Substitution) :
    EditState :=
  let meant? := if substitution.pattern.pattern?.isSome then some substitution.pattern
    else state.last?
  match meant?.bind fun meant => meant.pattern?.map (meant, ·) with
  | none => { state with isLost := true }
  | some (meant, pattern) =>
      let subject : LinePattern.Subject :=
        ⟨state.space.toArray, meant.ignoresCase, meant.hasLines⟩
      let (text, isChanged) :=
        substitution.apply subject pattern (state.space.length + 2) 0 0 none
      let state := { state with last? := some meant }
      if !isChanged then state
      else
        let state := { state with space := text, hasChanged := true }
        let state := if substitution.isPrinted then state.display ended else state
        match substitution.file? with
        | some path => state.writeTo path ended state.space state.isEnded
        | none => state

/-! ## Commands -/

def visibleLine (width : Nat) (text : List Char) : List Char :=
  let seen (c : Char) : List Char := if c = '\\' then ['\\', '\\'] else
    if isPrintable c then [c] else escaped c
  let (written, _) := text.foldl
    (fun ((written, column) : List Char × Nat) c =>
      let piece := seen c
      if width > 1 && column + piece.length > width - 1 then
        (written ++ '\\' :: '\n' :: piece, piece.length)
      else (written ++ piece, column + piece.length))
    ([], 0)
  written ++ ['$']

/-- Where a label is; no label is the end of the script. -/
def EditSetting.labelIndex (setting : EditSetting) (name : String) : Nat :=
  if name.isEmpty then setting.commands.size
  else
    (setting.commands.findIdx? fun command =>
      match command.action with
      | .label other => other = name
      | _ => false).getD setting.commands.size

def runCommandsFrom (setting : EditSetting) : Nat → Nat → EditState → EditState × EditEnding
  | 0, _, state => (state, .finished)
  | fuel + 1, index, state =>
      match setting.commands[index]? with
      | none => (state, .finished)
      | some command =>
          let (isChosen, state) := state.chooses index command
          let ended := setting.ended
          let goOn (state : EditState) : EditState × EditEnding :=
            runCommandsFrom setting fuel (index + 1) state
          let jump (name : String) (state : EditState) : EditState × EditEnding :=
            runCommandsFrom setting fuel (setting.labelIndex name) state
          if state.isLost then (state, .quit 1 true)
          else if !isChosen then
            match command.action with
            | .block last => runCommandsFrom setting fuel last state
            | _ => goOn state
          else
            match command.action with
            | .block _ | .nothing | .label _ => goOn state
            | .append text => goOn { state with queue := state.queue ++ [.text text] }
            | .insert text => goOn (state.emitText ended text)
            | .change text =>
                (if state.isInside index && !command.isNegated then state
                  else state.emitText ended text, .deleted)
            | .branch name => jump name state
            | .branchIf name =>
                if state.hasChanged then jump name { state with hasChanged := false }
                else goOn state
            | .branchUnless name =>
                if state.hasChanged then goOn { state with hasChanged := false }
                else jump name state
            | .delete => (state, .deleted)
            | .deleteFirst =>
                if state.space.contains ended then
                  let rest := (state.space.dropWhile (· ≠ ended)).drop 1
                  ({ state with space := rest }, .again)
                else (state, .deleted)
            | .showNumber => goOn (state.emit '\n' (toString state.number).toList true)
            | .showName => goOn (state.emit ended state.file.toList true)
            | .take => goOn { state with space := state.hold }
            | .takeMore => goOn { state with space := state.space ++ ended :: state.hold }
            | .keep => goOn { state with hold := state.space }
            | .keepMore => goOn { state with hold := state.hold ++ ended :: state.space }
            | .exchange => goOn { state with space := state.hold, hold := state.space }
            | .list width? =>
                goOn (state.emit '\n' (visibleLine (width?.getD setting.width) state.space) true)
            | .next =>
                if state.ahead.isEmpty then (state, .finished)
                else
                  let shown := if setting.isQuiet then state else state.display ended
                  match (shown.flush setting).advance none with
                  | some state => goOn state
                  | none => (state, .finished)
            | .nextMore =>
                match (state.flush setting).advance (some ended) with
                | some state => goOn state
                | none => (state, .finished)
            | .print => goOn (state.display ended)
            | .printFirst =>
                let first := state.space.takeWhile (· ≠ ended)
                goOn (state.emit ended first
                  (state.isEnded || first.length < state.space.length))
            | .quit code => (state, .quit code false)
            | .leave code => (state, .quit code true)
            | .read path => goOn { state with queue := state.queue ++ [.file path] }
            | .readLine path =>
                let (line, state) := state.takeLine setting path
                goOn (if line.isEmpty then state
                  else { state with queue := state.queue ++ [.text line] })
            | .writeFirst path =>
                let first := state.space.takeWhile (· ≠ ended)
                goOn (state.writeTo path ended first
                  (state.isEnded || first.length < state.space.length))
            | .write path => goOn (state.writeTo path ended state.space state.isEnded)
            | .substitute substitution =>
                let state := state.substitute ended substitution
                if state.isLost then (state, .quit 1 true) else goOn state
            | .mapChars pairs =>
                goOn { state with
                  space := state.space.map fun c => (pairs.lookup c).getD c }
            | .clear => goOn { state with space := [] }

def commandLimit : Nat := 20000

/-- Runs the script for the lines that are left. A line that is already in the space comes first. -/
def runLines (setting : EditSetting) : Nat → Bool → EditState → EditState × Option Nat
  | 0, _, state => (state, none)
  | fuel + 1, isLoaded, state =>
      let started? := if isLoaded then some state else state.advance none
      match started? with
      | none => (state, none)
      | some state =>
          let start := { state with hasChanged := isLoaded && state.hasChanged }
          let (state, ending) := runCommandsFrom setting commandLimit 0 start
          let shown := if setting.isQuiet then state else state.display setting.ended
          match ending with
          | .finished => runLines setting fuel false (shown.flush setting)
          | .deleted => runLines setting fuel false (state.flush setting)
          | .again => runLines setting fuel true (state.flush setting)
          | .quit code isSilent =>
              ((if isSilent then state else shown.flush setting), some code)

/-! ## The utility -/

namespace Invocation

def editOptions : OptionSpec where
  flags := "nEruszi"
  valued := "efl"
  names := [.flag "quiet" "n", .flag "silent" "n", .alone "debug", .valued "expression" "e",
    .valued "file" "f", .alone "follow-symlinks", ⟨"in-place", "i", .optional⟩,
    .valued "line-length" "l", .alone "posix", .flag "regexp-extended" "E",
    .flag "separate" "s", .alone "sandbox", .flag "unbuffered" "u", .flag "null-data" "z",
    .flag "zero-terminated" "z"]

def editUsage (name : String) : String :=
  "Usage: " ++ name ++ " [OPTION]... \x7bscript-only-if-no-other-script\x7d [input-file]...\n"

/-- A part of a script, and the file that it comes from. -/
structure ScriptPart where
  text : List Char
  file? : Option String

def editParts (call : Invocation) (arguments : Arguments) :
    Except (String × Nat) (List ScriptPart × List String) := do
  let isPart (option : String × Option String) : Bool := option.1 = "e" || option.1 = "f"
  match arguments.options.filter isPart, arguments.operands with
  | [], [] => throw ("", 1)
  | [], script :: paths => return ([⟨script.toList, none⟩], paths)
  | options, paths =>
      let parts ← options.mapM fun (key, value?) => do
        let value := value?.getD ""
        if key = "e" then return ⟨value.toList, none⟩
        else
          match call.content value with
          | .ok content =>
              let chars := content.toList
              let cut := if chars.getLast? = some '\n' then chars.dropLast else chars
              return ⟨cut, some value⟩
          | .error e => throw ("couldn't open file " ++ value ++ ": " ++ e.text, 4)
      return (parts, paths)

def mistakePlace (parts : List ScriptPart) (place : Nat) : String :=
  let rec find : Nat → Nat → List ScriptPart → String
    | _, _, [] => ""
    | index, place, part :: rest =>
        if place ≤ part.text.length || rest.isEmpty then
          match part.file? with
          | some path =>
              let line := 1 + (part.text.take (place - 1)).countP (· = '\n')
              "file " ++ path ++ " line " ++ toString line ++ ": "
          | none =>
              "-e expression #" ++ toString index ++ ", char " ++ toString place ++ ": "
        else
          find (if part.file?.isSome then index else index + 1) (place - part.text.length - 1) rest
  find 1 place parts

def writtenFiles (commands : List EditCommand) : List String :=
  let paths := commands.filterMap fun command =>
    match command.action with
    | .write path | .writeFirst path => some path
    | .substitute substitution => substitution.file?
    | _ => none
  paths.eraseDups.filter (· ≠ "/dev/stdout")

def missingLabel? (commands : List EditCommand) : Option String :=
  let labels := commands.filterMap fun command =>
    match command.action with
    | .label name => some name
    | _ => none
  commands.findSome? fun command =>
    match command.action with
    | .branch name | .branchIf name | .branchUnless name =>
        if name.isEmpty || labels.contains name then none else some name
    | _ => none

def editLines (ended : Char) (file text : String) : List EditLine :=
  let pieces := Text.pieces ended text.toList
  let isEnded := pieces.getLast? = some []
  let pieces := if isEnded then pieces.dropLast else pieces
  pieces.zipIdx.map fun (text, index) => ⟨text, index + 1 < pieces.length || isEnded, file⟩

/-- What has been done so far with the files. -/
structure EditRun where
  state : EditState
  reply : Reply
  quit? : Option Nat

def backupName (path suffix : String) : String :=
  if suffix.toList.contains '*' then
    let name := (Path.fileName? path).getD path
    let directory := String.ofList (path.toList.take (path.length - name.length))
    directory ++ suffix.replace "*" name
  else path ++ suffix

def editSeparately (call : Invocation) (setting : EditSetting) (suffix? : Option (Option String))
    (run : EditRun) (path : String) : EditRun :=
  if run.quit?.isSome then run
  else
    let fail (text : String) (code : Nat) : EditRun :=
      { run with reply := { run.reply.err (call.message text) with code := code } }
    let found := run.reply.tree.find call.directory path
    match { call with tree := run.reply.tree }.content path with
    | .error .isDirectory =>
        if suffix?.isSome then fail ("couldn't edit " ++ path ++ ": not a regular file") 4
        else fail ("read error on " ++ path ++ ": " ++ OsError.isDirectory.text) 2
    | .error e => fail ("can't read " ++ path ++ ": " ++ e.text) 2
    | .ok content =>
        let lines := editLines setting.ended path content
        let start := { run.state with ahead := lines, number := 0 }
        let start := if suffix?.isSome then { start with out := [], isOpen := false } else start
        let (state, quit?) :=
          runLines setting (2 * lines.length + commandLimit) false start
        match suffix?, found with
        | some suffix?, .ok (place, node) =>
            let text := String.join state.out.reverse
            let tree := run.reply.tree
            let tree :=
              match suffix?.bind fun suffix =>
                (tree.rename call.directory path (backupName path suffix)).toOption with
              | some moved => moved
              | none => tree
            let file := { tree.newNode (.file (Octets.toBytes text)) node.mode with
              isOwn := node.isOwn }
            { run with
              state := { state with out := [], isOpen := false }
              reply := { run.reply with tree := tree.put place file }
              quit? := quit? }
        | _, _ => { run with state := state, quit? := quit? }

def editJoined (call : Invocation) (setting : EditSetting) (start : EditRun)
    (paths : List String) : EditRun :=
  let (reply, lines, _) := paths.foldl
    (fun ((reply, lines, isBroken) : Reply × List EditLine × Bool) path =>
      if isBroken then (reply, lines, isBroken)
      else
        match call.content path with
        | .ok content => (reply, lines ++ editLines setting.ended path content, false)
        | .error .isDirectory =>
            let text := call.message ("read error on " ++ path ++ ": " ++ OsError.isDirectory.text)
            ({ reply.err text with code := 4 }, lines, true)
        | .error e =>
            ({ reply.err (call.message ("can't read " ++ path ++ ": " ++ e.text)) with code := 2 },
              lines, false))
    (start.reply, [], false)
  let (state, quit?) :=
    runLines setting (2 * lines.length + commandLimit) false { start.state with ahead := lines }
  { start with state := state, reply := reply, quit? := quit? }

/-- How much of the input is used by a run over files. One that stops early leaves the lines that it
has not come to. -/
def editUse (call : Invocation) (paths : List String) (run : EditRun) : Use :=
  let left := run.state.ahead.map fun line => line.text.length + if line.isEnded then 1 else 0
  match run.quit?, paths, call.input with
  | some _, ["-"], .ok content => .front (content.size - left.foldl (· + ·) 0)
  | _, _, _ => useOf paths

def expandInPlace (args : List String) : List String :=
  args.map fun arg =>
    if arg.startsWith "-i" then
      if arg = "-i" then "--in-place" else "--in-place=" ++ (arg.drop 2).toString
    else arg

def edit (call : Invocation) : Reply :=
  match editOptions.read (expandInPlace call.args) with
  | .error text => { call.done.err (call.message text ++ editUsage call.name) with code := 1 }
  | .ok arguments =>
      if arguments.has "version" then call.write call.about
      else if arguments.has "help" then call.write (editUsage call.name)
      else
        match editParts call arguments with
        | .error ("", code) => { call.done.err (editUsage call.name) with code := code }
        | .error (text, code) => call.fail text code
        | .ok (parts, paths) =>
            let text := ['\n'].intercalate (parts.map ScriptPart.text)
            match EditScript.read (arguments.hasAny ["E", "r"]) text with
            | .error mistake =>
                match mistake.place? with
                | some place => call.fail (mistakePlace parts place ++ mistake.text) 1
                | none => call.fail mistake.text 4
            | .ok commands =>
                match missingLabel? commands with
                | some name => call.fail ("can't find label for jump to \x60" ++ name ++ "'") 4
                | none =>
                    let isMarked := (parts.head?.map ScriptPart.text).any fun text =>
                      text = ['#', 'n'] || ['#', 'n', '\n'].isPrefixOf text
                    let width := ((arguments.value? "l").bind fun text =>
                      Number.natural? text.toList).getD 70
                    let setting : EditSetting :=
                      { commands := commands.toArray
                        isQuiet := arguments.has "n" || isMarked
                        ended := if arguments.has "z" then '\x00' else '\n'
                        width := width
                        readFile := fun path =>
                          (call.content (if path = "/dev/stdin" then "-" else path)).toOption }
                    let files := (writtenFiles commands).map fun path => (path, "")
                    let paths := if paths.isEmpty then ["-"] else paths
                    let start : EditRun := ⟨.start files, call.done, none⟩
                    let suffix? := (arguments.options.reverse.find? fun option =>
                      option.1 = "i").map (·.2)
                    let run :=
                      if suffix?.isSome || arguments.has "s" then
                        paths.foldl (editSeparately call setting suffix?) start
                      else editJoined call setting start paths
                    let reply := run.reply.out (String.join run.state.out.reverse)
                    let reply := if run.state.isLost then
                        reply.err (call.message
                          "-e expression #1, char 0: no previous regular expression")
                      else reply
                    let reply := run.state.written.foldl
                      (fun reply (path, text) =>
                        match reply.tree.writeBytes call.directory path (Octets.toBytes text)
                          call.fileMode with
                        | .ok tree => { reply with tree := tree }
                        | .error e =>
                            { reply.err (call.message
                              ("couldn't open file " ++ path ++ ": " ++ e.text)) with code := 4 })
                      reply
                    { reply with
                      code := if reply.code = 0 then run.quit?.getD 0 else reply.code
                      use := call.editUse paths run, isOrdered := true }

end Invocation
end CallScript.Shell
