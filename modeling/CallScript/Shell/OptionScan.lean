import CallScript.Shell.State

/-!
# Options of a script

The command `getopts`, by which a script reads its own options one after the other. An option is a
letter; letters behind one dash can be run together, and a letter that takes a value takes the rest
of its argument or the next one.
-/

namespace CallScript.Shell

/-- What the next option is. -/
inductive OptionScan where
  | finished (index : Nat)
  /-- A letter; the scan goes on at an argument and within it at a character. -/
  | letter (letter : Char) (rest : List Char) (index : Nat)

def OptionScan.take (args : List String) (index : Nat) (within : List Char) : OptionScan :=
  match within with
  | c :: rest => .letter c rest index
  | [] =>
      match (args[index]?.map String.toList : Option (List Char)) with
      | some ['-', '-'] => .finished (index + 1)
      | some ('-' :: c :: rest) => .letter c rest (index + 1)
      | _ => .finished index

def takesValue? (letter : Char) : List Char → Option Bool
  | [] => none
  | c :: rest =>
      if c = letter && c ≠ ':' then some (rest.head? = some ':') else takesValue? letter rest

def State.noteOption (state : State) (name : String) (found : Char) (index : Nat)
    (rest : List Char) (args : List String) : State :=
  let state := (state.assign "OPTIND" (toString (index + 1))).assign name (String.ofList [found])
  let place? :=
    if rest.isEmpty then none
    else some (index, ((args[index - 1]?.map String.length).getD 0) - rest.length)
  { state with optionPlace? := place? }

def State.nextOption (state : State) (spec : List Char) (name : String) (args : List String) :
    State :=
  let index := ((((state.value? "OPTIND").bind Number.decimal?).getD 1) - 1).toNat
  let within :=
    match state.optionPlace? with
    | some (place, offset) =>
        if place = index then ((args[index - 1]?.getD "").toList).drop offset else []
    | none => []
  let isQuiet := spec.head? = some ':'
  let without (state : State) (text : String) : State :=
    { state.writeText 2 (text ++ "\n") with
      bindings := state.bindings.erase "OPTARG" }
  match OptionScan.take args index within with
  | .finished index =>
      let ended := state.noteOption name '?' index [] args
      if ended.isActive then { ended with status := 1 } else ended
  | .letter found rest index =>
      let shown := String.ofList [found]
      let state := { state with status := 0 }
      match takesValue? found spec, rest, args[index]? with
      | none, _, _ =>
          let state :=
            if isQuiet then state.assign "OPTARG" shown
            else without state ("Illegal option -" ++ shown)
          state.noteOption name '?' index rest args
      | some false, _, _ => (state.assign "OPTARG" "").noteOption name found index rest args
      | some true, [], none =>
          if isQuiet then (state.assign "OPTARG" shown).noteOption name ':' index [] args
          else
            (without state ("No arg for -" ++ shown ++ " option")).noteOption name '?' index [] args
      | some true, [], some value =>
          (state.assign "OPTARG" value).noteOption name found (index + 1) [] args
      | some true, rest, _ =>
          (state.assign "OPTARG" (String.ofList rest)).noteOption name found index [] args

def runOptions (args : List String) (state : State) : State :=
  match args with
  | spec :: name :: args =>
      if isName name.toList then
        state.nextOption spec.toList name (if args.isEmpty then state.args else args)
      else state.complain (name ++ ": bad variable name") 2
  | _ => state.complain "Usage: getopts optstring var [arg...]" 2

end CallScript.Shell
