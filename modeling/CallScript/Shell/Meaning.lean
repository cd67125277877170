import CallScript.Shell.OwnCommand

/-!
# What a name means

A name can be a word of the language, stand for a text, or be a function, a command of the shell
itself or a program. A program that has been found by its name is known from then on, until the
search path changes.
-/

namespace CallScript.Shell

/-! ## Programs that have been found -/

def State.known? (state : State) (name : String) : Option Found :=
  state.found.find? fun other => other.name = name

def State.remember (state : State) (name path : String) : State :=
  let others := state.found.filter fun other => other.name ≠ name
  { state with found := others ++ [⟨name, path, false⟩] }

/-- Looks a program up by its name, unless it is known. A name with a slash is a path. -/
def State.lookUp (state : State) (name : String) : State :=
  if name.toList.contains '/' || (state.known? name).any fun other => !other.isStale then state
  else
    match state.findPath? state.searchPath name Inode.isProgram with
    | some path => state.remember name path
    | none => { state with found := state.found.filter fun other => other.name ≠ name }

/-! ## Meanings -/

inductive Meaning where
  | keyword
  | standIn (entry : Alias)
  | function
  | own (isSpecial : Bool)
  | program (path : String) (wasKnown : Bool)

namespace Meaning

def description : Meaning → String
  | .keyword => "a shell keyword"
  | .standIn entry => "an alias for " ++ entry.text
  | .function => "a shell function"
  | .own true => "a special shell builtin"
  | .own false => "a shell builtin"
  | .program path true => "a tracked alias for " ++ path
  | .program path false => path

def text (name : String) : Meaning → String
  | .standIn entry => "alias " ++ entry.name ++ "=" ++ singleQuoted entry.text
  | .program path _ => path
  | _ => name

end Meaning

def otherCommands : List String := ["command", "hash", "type"]

def isOwn (name : String) : Bool :=
  isSpecial name || otherCommands.contains name || (plainCommands.lookup name).isSome

/-- What a name means. On the standard path, programs are searched anew. -/
def State.meaning? (state : State) (isStandard : Bool) (name : String) : Option Meaning :=
  if reservedWords.contains name then some .keyword
  else
    match state.aliases.find? fun other => other.name = name with
    | some other => some (.standIn other)
    | none =>
        if (state.functions.lookup name).isSome then some .function
        else if isOwn name then some (.own (isSpecial name))
        else if name.toList.contains '/' then
          if state.hasFile name fun _ => true then some (.program name false) else none
        else
          match if isStandard then none else state.known? name with
          | some found => some (.program found.path true)
          | none =>
              let searchPath := if isStandard then standardPath else state.searchPath
              (state.findPath? searchPath name Inode.isProgram).map fun path => .program path false

/-- Says what a name means: in full, or by a text that means the same. -/
def State.describe (state : State) (isFull isStandard : Bool) (name : String) : State :=
  match state.meaning? isStandard name with
  | some meaning =>
      let text := if isFull then name ++ " is " ++ meaning.description else meaning.text name
      let state := if isStandard then state else state.lookUp name
      state.present (text ++ "\n")
  | none =>
      let text := if isFull then name ++ ": not found\n" else ""
      { state.writeText 1 text with status := 127 }

def runType (names : List String) (state : State) : State :=
  names.foldl
    (fun state name =>
      let described := state.describe true false name
      { described with status := max state.status described.status })
    { state with status := 0 }

def State.foundListing (state : State) : String :=
  let rows := (List.range 31).flatMap fun row =>
    state.found.filter fun other => rowOf 31 other.name = row
  String.join (rows.map fun other => other.path ++ (if other.isStale then "*" else "") ++ "\n")

def runHash (args : List String) (state : State) : State :=
  match takeOptions ['r'] args with
  | .error text => state.complain text 2
  | .ok (_ :: _, _) => { state with status := 0, found := [] }
  | .ok ([], []) => state.present state.foundListing
  | .ok ([], names) =>
      names.foldl
        (fun state name =>
          let others := state.found.filter fun other => other.name ≠ name
          let after := { state with found := others }.lookUp name
          let isThere := name.toList.contains '/' || isOwn name ||
            (state.functions.lookup name).isSome || (after.known? name).isSome
          if isThere then after else after.complain (name ++ ": not found") 1)
        { state with status := 0 }

end CallScript.Shell
