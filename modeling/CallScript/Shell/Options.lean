/-!
# Options of utilities

Options can stand anywhere between the operands. A short option is a letter behind a dash, and
letters can be run together; a long option is a name behind two dashes, of which the front is enough
where no other name has it. Two dashes alone make operands of all that follows.

An option is known by its key: its letter, or its name if it has no letter.
-/

namespace CallScript.Shell

/-- Whether an option comes with a value. -/
inductive ValueUse where
  | none
  | required
  | optional
deriving DecidableEq

structure LongOption where
  name : String
  key : String
  value : ValueUse

namespace LongOption

def flag (name key : String) : LongOption := ⟨name, key, .none⟩

def valued (name key : String) : LongOption := ⟨name, key, .required⟩

def alone (name : String) : LongOption := ⟨name, name, .none⟩

end LongOption

/-- The options that a utility knows. -/
structure OptionSpec where
  flags : String := ""
  valued : String := ""
  names : List LongOption := []
  /-- Whether all that follows the first operand is an operand. -/
  inFront : Bool := false

/-- The arguments of a utility: its options by their keys, and its operands. -/
structure Arguments where
  options : List (String × Option String)
  operands : List String

namespace Arguments

def has (arguments : Arguments) (key : String) : Bool :=
  arguments.options.any fun option => option.1 = key

def hasAny (arguments : Arguments) (keys : List String) : Bool := keys.any arguments.has

def values (arguments : Arguments) (key : String) : List String :=
  arguments.options.filterMap fun option => if option.1 = key then option.2 else none

def value? (arguments : Arguments) (key : String) : Option String :=
  (arguments.values key).getLast?

def last? (arguments : Arguments) (keys : List String) : Option String :=
  (arguments.options.reverse.find? fun option => keys.contains option.1).map (·.1)

def add (arguments : Arguments) (key : String) (value? : Option String) : Arguments :=
  { arguments with options := (key, value?) :: arguments.options }

end Arguments

namespace OptionSpec

def commonNames : List LongOption := [.alone "help", .alone "version"]

/-- The long option that a front means; `shown` is all that has been written behind the dashes. -/
def named (spec : OptionSpec) (front shown : String) : Except String LongOption :=
  let names := spec.names ++ commonNames
  match names.find? fun option => option.name = front with
  | some option => .ok option
  | none =>
      match names.filter fun option => front.toList.isPrefixOf option.name.toList with
      | [] => .error ("unrecognized option '--" ++ shown ++ "'")
      | [option] => .ok option
      | option :: others =>
          if others.all fun other => other.key = option.key then .ok option
          else
            let names := (option :: others).map fun other => " '--" ++ other.name ++ "'"
            .error ("option '--" ++ shown ++ "' is ambiguous; possibilities:" ++ String.join names)

/-- The letters that are run together in an argument. The last one may still need its value. -/
def readLetters (spec : OptionSpec) :
    List Char → Except String (List (String × Option String) × Option Char)
  | [] => .ok ([], none)
  | c :: rest => do
      let key := String.ofList [c]
      if spec.valued.toList.contains c then
        if rest.isEmpty then return ([], some c)
        else return ([(key, some (String.ofList rest))], none)
      else if spec.flags.toList.contains c then
        let (others, awaiting?) ← readLetters spec rest
        return ((key, none) :: others, awaiting?)
      else throw ("invalid option -- '" ++ key ++ "'")

/-- An option whose value is the next argument: its key, and what is wrong if there is none. -/
structure Awaiting where
  key : String
  problem : String

/-- Reads the arguments of a utility. The first argument can be the value of an option. -/
def readFrom (spec : OptionSpec) : Option Awaiting → List String → Except String Arguments
  | none, [] => .ok ⟨[], []⟩
  | some awaiting, [] => .error awaiting.problem
  | some awaiting, arg :: args => do
      return (← readFrom spec none args).add awaiting.key (some arg)
  | none, arg :: args =>
      match arg.toList with
      | ['-', '-'] => .ok ⟨[], args⟩
      | '-' :: '-' :: text => do
          let front := text.takeWhile (· ≠ '=')
          let option ← spec.named (String.ofList front) (String.ofList text)
          let value? :=
            if front.length < text.length then some (String.ofList (text.drop (front.length + 1)))
            else none
          match option.value, value? with
          | .none, some _ => throw ("option '--" ++ option.name ++ "' doesn't allow an argument")
          | .required, none =>
              readFrom spec
                (some ⟨option.key, "option '--" ++ option.name ++ "' requires an argument"⟩) args
          | _, _ => return (← readFrom spec none args).add option.key value?
      | '-' :: c :: text => do
          let (letters, awaiting?) ← spec.readLetters (c :: text)
          let awaiting? := awaiting?.map fun c =>
            let key := String.ofList [c]
            (⟨key, "option requires an argument -- '" ++ key ++ "'"⟩ : Awaiting)
          let others ← readFrom spec awaiting? args
          return { others with options := letters ++ others.options }
      | _ =>
          if spec.inFront then .ok ⟨[], arg :: args⟩
          else do
            let others ← readFrom spec none args
            return { others with operands := arg :: others.operands }

def read (spec : OptionSpec) (args : List String) : Except String Arguments :=
  spec.readFrom none args

end OptionSpec

end CallScript.Shell
