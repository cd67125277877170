import CallScript.Compiler

/-!
# Command-line arguments

The arguments are read at two levels: before the name of a command and behind it. Both levels know
the general options. A value that stands in an argument of its own is looked at only when the next
option is met or the level ends; so a request for help behind a command's name is granted even if
the last value before the name is a bad one.

The first argument that is neither an option nor the name of a command is the name of a file, and
everything behind it belongs to that file.
-/

namespace CallScript.CommandLine

/-- What the arguments ask for. -/
inductive Action where
  | run (file : String)
  | build (file output : String)
  | emit (file : String)
  | version
  | info
  | external (name : String)
deriving DecidableEq

structure Request where
  action : Action
  options : Options
  verbose : Bool
deriving DecidableEq

/-- The commands that have a name. -/
inductive CommandName where
  | run
  | build
  | emit
  | version
  | info
deriving DecidableEq

namespace CommandName

def all : List CommandName := [.run, .build, .emit, .version, .info]

def text : CommandName → String
  | .run => "run"
  | .build => "build"
  | .emit => "emit"
  | .version => "version"
  | .info => "info"

def ofText? (text : String) : Option CommandName := all.find? fun name => name.text == text

def takesFile : CommandName → Bool
  | .run | .build | .emit => true
  | .version | .info => false

end CommandName

/-- Why the arguments lead to no request. -/
inductive Refusal where
  | help (command? : Option CommandName)
  | version
  | nothing
  | usage (problem : String)
deriving DecidableEq

/-- Options and positions that hold a value. -/
inductive Slot where
  | target
  | toolchain
  | scratch
  | output
  | file
deriving DecidableEq

/-- The values of one level. -/
structure Level where
  target? : Option Target
  toolchain? : Option String
  scratch? : Option String
  output? : Option String
  file? : Option String
  verbose : Bool
deriving DecidableEq

namespace Level

def empty : Level := ⟨none, none, none, none, none, false⟩

/-- Puts a text into a slot that is still free; an empty text is no value. -/
def fill (slot? : Option String) (value : String) : Except Refusal (Option String) :=
  if slot?.isSome then .error (.usage "the argument cannot be used multiple times")
  else if value.isEmpty then .error (.usage "a value is required")
  else .ok (some value)

def store (level : Level) (slot : Slot) (value : String) : Except Refusal Level := do
  match slot with
  | .target =>
      if level.target?.isSome then throw (.usage "the argument cannot be used multiple times")
      match Target.ofName? value with
      | some target => return { level with target? := some target }
      | none => throw (.usage (Failure.unsupportedTarget value).message)
  | .toolchain => return { level with toolchain? := ← fill level.toolchain? value }
  | .scratch => return { level with scratch? := ← fill level.scratch? value }
  | .output => return { level with output? := ← fill level.output? value }
  | .file => return { level with file? := ← fill level.file? value }

end Level

/-- A value that has not been looked at: its slot, and the value once it is there. -/
structure Pending where
  slot : Slot
  value? : Option String
deriving DecidableEq

/-- How far a level has been read. -/
structure Progress where
  level : Level
  pending? : Option Pending
deriving DecidableEq

namespace Progress

def start : Progress := ⟨.empty, none⟩

def settle (progress : Progress) : Except Refusal Level :=
  match progress.pending? with
  | none => .ok progress.level
  | some ⟨_, none⟩ => .error (.usage "a value is required")
  | some ⟨slot, some value⟩ => progress.level.store slot value

def awaited? (progress : Progress) : Option Slot :=
  match progress.pending? with
  | some ⟨slot, none⟩ => some slot
  | _ => none

def meetOption (progress : Progress) (slot : Slot) (attached? : Option String) :
    Except Refusal Progress := do
  let level ← progress.settle
  match attached? with
  | some value => return ⟨← level.store slot value, none⟩
  | none => return ⟨level, some ⟨slot, none⟩⟩

def meetVerbose (progress : Progress) : Except Refusal Progress := do
  let level ← progress.settle
  if level.verbose then throw (.usage "the argument cannot be used multiple times")
  return ⟨{ level with verbose := true }, none⟩

end Progress

/-- An argument as its outside shows it. -/
inductive Shape where
  /-- Two dashes alone: what follows holds no options. -/
  | divider
  | long (name : String) (attached? : Option String)
  | short (letters : List Char)
  | plain
deriving DecidableEq

def shape (arg : String) : Shape :=
  match arg.toList with
  | ['-', '-'] => .divider
  | '-' :: '-' :: text =>
      let name := text.takeWhile (· ≠ '=')
      match text.drop name.length with
      | [] => .long (String.ofList name) none
      | _ :: value => .long (String.ofList name) (some (String.ofList value))
  | ['-'] => .plain
  | '-' :: letters => .short letters
  | _ => .plain

/-- Where options are read. -/
inductive Place where
  | front
  | behind (command : CommandName)
deriving DecidableEq

namespace Place

def command? : Place → Option CommandName
  | .front => none
  | .behind command => some command

def slot? (place : Place) (name : String) : Option Slot :=
  match name with
  | "target" => some .target
  | "toolchain" => some .toolchain
  | "scratch-dir" => some .scratch
  | "output" => if place = .behind .build then some .output else none
  | _ => none

def meetLong (place : Place) (progress : Progress) (name : String) (attached? : Option String) :
    Except Refusal Progress := do
  match place.slot? name with
  | some slot => progress.meetOption slot attached?
  | none =>
      let known := name = "verbose" || name = "help" || (name = "version" && place = .front)
      if !known then throw (.usage ("unexpected argument '--" ++ name ++ "' found"))
      if attached?.isSome then throw (.usage ("unexpected value for '--" ++ name ++ "' found"))
      match name with
      | "verbose" => progress.meetVerbose
      | "help" =>
          let _ ← progress.settle
          throw (.help place.command?)
      | _ =>
          let _ ← progress.settle
          throw .version

/-- Meets short options; only the first letter of a group matters, because each of them either ends
the reading or takes the rest of the group as its value. -/
def meetShort (place : Place) (progress : Progress) : List Char → Except Refusal Progress
  | [] => throw (.usage "unexpected argument found")
  | letter :: rest => do
      if letter = 'h' then
        let _ ← progress.settle
        throw (.help place.command?)
      else if letter = 'v' && place = .front then
        let _ ← progress.settle
        throw .version
      else if letter = 'o' && place = .behind .build then
        let attached? :=
          match rest with
          | [] => none
          | '=' :: value => some (String.ofList value)
          | value => some (String.ofList value)
        progress.meetOption .output attached?
      else throw (.usage ("unexpected argument '-" ++ String.ofList [letter] ++ "' found"))

end Place

def meetFile (command : CommandName) (progress : Progress) (taken : Bool) (arg : String) :
    Except Refusal Progress := do
  if taken || !command.takesFile then throw (.usage ("unexpected argument '" ++ arg ++ "' found"))
  return ⟨← progress.settle, some ⟨.file, some arg⟩⟩

/-- Reads the arguments behind the name of a command. `taken` says whether the file has been met,
and `literal` whether a divider has. -/
def readBehind (command : CommandName) :
    Progress → (taken literal : Bool) → List String → Except Refusal Level
  | progress, _, _, [] => progress.settle
  | progress, taken, true, arg :: args => do
      readBehind command (← meetFile command progress taken arg) true true args
  | progress, taken, false, arg :: args => do
      match shape arg, progress.awaited? with
      | .plain, some slot =>
          readBehind command ⟨progress.level, some ⟨slot, some arg⟩⟩ taken false args
      | .plain, none =>
          readBehind command (← meetFile command progress taken arg) true false args
      | .divider, some _ => throw (.usage "a value is required")
      | .divider, none => readBehind command progress taken true args
      | .long name attached?, _ =>
          readBehind command
            (← (Place.behind command).meetLong progress name attached?) taken false args
      | .short letters, _ =>
          readBehind command (← (Place.behind command).meetShort progress letters) taken false args

def actionOf (command : CommandName) (level : Level) : Except Refusal Action :=
  match command, level.file? with
  | .version, _ => .ok .version
  | .info, _ => .ok .info
  | _, none => .error (.usage "the following required arguments were not provided: <FILE>")
  | .run, some file => .ok (.run file)
  | .build, some file => .ok (.build file (level.output?.getD "main"))
  | .emit, some file => .ok (.emit file)

/-- Puts the values of both levels together; those behind the name win. -/
def combine (front behind : Level) (action : Action) : Request where
  action := action
  options :=
    { target := (behind.target?.or front.target?).getD default
      toolchain? := behind.toolchain?.or front.toolchain?
      scratch? := behind.scratch?.or front.scratch? }
  verbose := front.verbose || behind.verbose

def readHelp : List String → Refusal
  | [] => .help none
  | ["help"] => .help none
  | [name] =>
      match CommandName.ofText? name with
      | some command => .help (some command)
      | none => .usage ("unrecognized subcommand '" ++ name ++ "'")
  | _ => .usage "unrecognized subcommand"

/-- Reads the arguments up to the name of a command or a file, and what is behind it. -/
def readFront : Progress → List String → Except Refusal Request
  | progress, [] => do
      let level ← progress.settle
      if level = .empty then throw .nothing
      throw (.usage "a subcommand is required but one was not provided")
  | progress, arg :: args => do
      match shape arg, progress.awaited? with
      | .plain, some slot => readFront ⟨progress.level, some ⟨slot, some arg⟩⟩ args
      | .plain, none =>
          match CommandName.ofText? arg with
          | some command =>
              let behind ← readBehind command .start false false args
              let action ← actionOf command behind
              return combine (← progress.settle) behind action
          | none =>
              if arg = "help" then throw (readHelp args)
              return combine (← progress.settle) .empty (.external arg)
      | .divider, some _ => throw (.usage "a value is required")
      | .divider, none =>
          let level ← progress.settle
          match args with
          | [] =>
              if level = .empty then throw .nothing
              throw (.usage "a subcommand is required but one was not provided")
          | name :: _ => return combine level .empty (.external name)
      | .long name attached?, _ =>
          readFront (← Place.front.meetLong progress name attached?) args
      | .short letters, _ => readFront (← Place.front.meetShort progress letters) args

def Request.ofArguments (args : List String) : Except Refusal Request := readFront .start args

end CallScript.CommandLine
