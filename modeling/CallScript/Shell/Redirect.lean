import CallScript.Shell.Expansion

/-!
# Redirections

A redirection opens a file, or a text, in place of one of the channels. A file that cannot be opened
ends the command with a message.
-/

namespace CallScript.Shell

def creationProblem : OsError → String
  | .noEntry | .notDirectory => "Directory nonexistent"
  | e => e.text

def openingProblem : OsError → String
  | .noEntry | .notDirectory => "No such file"
  | e => e.text

def State.openInput (state : State) (path : String) : Except OsError OpenFile := do
  let (place, node) ← state.tree.find state.directory path
  if !node.allows .read then throw .permission
  match state.tree.number? place with
  | some number => return ⟨.node number, 0, true, false, false⟩
  | none => throw .isDirectory

def State.openOutput (state : State) (path : String) (kind : Redirection.Kind) :
    Except OsError (OpenFile × FileTree) := do
  let place ← state.tree.resolveFile state.directory path
  let found? := state.tree.get? place
  if kind = .truncate && state.protectsFiles && found?.any Inode.isFile then throw .exists
  if kind = .both && !found?.all (fun node => node.allows .read) then throw .permission
  let keeps := kind = .append || kind = .both
  let mode := FileTree.masked FileTree.fileMode state.mask
  let tree :=
    if keeps && found?.isSome then state.tree else state.tree.overwrite place .empty mode
  match tree.number? place with
  | some number => return (⟨.node number, 0, kind = .both, true, kind = .append⟩, tree)
  | none => throw .isDirectory

def State.abortReading (state : State) (text : String) : State :=
  { state with line := state.lastLine }.abort ("Syntax error: " ++ text)

def descriptorNumber? (target : String) : Option Nat :=
  match target.toList with
  | [digit] => Number.natural? [digit]
  | _ => none

def State.duplicate (state : State) (descriptor : Nat) (target : String) : Bool × State :=
  match (descriptorNumber? target).bind fun other => state.channels.lookup other with
  | some index => (true, { state with channels := state.channels.put descriptor index })
  | none =>
      if target = "-" then (true, { state with channels := state.channels.close descriptor })
      else (false, state.complain (target ++ ": Bad file descriptor") 2)

/-- Opens the file of a path for a descriptor, and says whether it could be opened. -/
def openPath (descriptor : Nat) (path : String) (kind : Redirection.Kind) (state : State) :
    Bool × State :=
  match kind with
  | .input =>
      match state.openInput path with
      | .ok file => (true, state.openFile descriptor file)
      | .error e => (false, state.complain ("cannot open " ++ path ++ ": " ++ openingProblem e) 2)
  | kind =>
      match state.openOutput path kind with
      | .ok (file, tree) => (true, { state with tree := tree }.openFile descriptor file)
      | .error e =>
          (false, state.complain ("cannot create " ++ path ++ ": " ++ creationProblem e) 2)

def descriptorOf? (path : String) : Option Nat :=
  match path with
  | "/dev/stdin" => some 0
  | "/dev/stdout" => some 1
  | "/dev/stderr" => some 2
  | _ =>
      if path.startsWith "/dev/fd/" then Number.natural? (path.toList.drop "/dev/fd/".length)
      else none

/-- Opens what a redirection means, and says whether it could be opened. A document is expanded only
now, and a mistake in it does no more than keep the redirection from being carried out. -/
def redirectOne (run : Interpreter) (redirection : Redirection) (target : String) (state : State) :
    Bool × State :=
  let descriptor := redirection.descriptor
  match redirection.kind with
  | .document _ =>
      let (text, state) := expandText run .text redirection.word state
      if state.flow = .failed then (false, { state with flow := .next })
      else (state.isActive, state.openFile descriptor (.ofContent (Octets.toBytes text)))
  | .duplicate => state.duplicate descriptor target
  | kind =>
      let other? := descriptorOf? target
      match other?.bind fun other => state.channels.lookup other with
      | some index => (true, { state with channels := state.channels.put descriptor index })
      | none => openPath descriptor target kind state

def expandTargets (run : Interpreter) : List Redirection → State → List String × State
  | [], state => ([], state)
  | redirection :: others, state =>
      let (target, state) :=
        match redirection.kind with
        | .document _ => ("", state)
        | _ => expandText run .text redirection.word state
      let isWrong := redirection.kind = .duplicate && target ≠ "-" &&
        (descriptorNumber? target).isNone
      let state := if isWrong && state.isActive then state.abortReading "Bad fd number" else state
      if !state.isActive then ([], state)
      else
        let (targets, state) := expandTargets run others state
        (target :: targets, state)

def redirectAll (run : Interpreter) : List (Redirection × String) → State → Bool × State
  | [], state => (true, state)
  | (redirection, target) :: others, state =>
      match redirectOne run redirection target state with
      | (true, state) => redirectAll run others state
      | (false, state) => (false, state)

/-- Takes back redirections: their descriptors are what they were before. -/
def State.takeBack (state : State) (redirections : List Redirection) (earlier : State) : State :=
  let channels := redirections.foldl
    (fun (channels : Channels) redirection =>
      match earlier.channels.lookup redirection.descriptor with
      | some index => channels.put redirection.descriptor index
      | none => channels.close redirection.descriptor)
    state.channels
  { state with channels := channels }

def redirect (run : Interpreter) (redirections : List Redirection) (state : State) : Bool × State :=
  let (targets, state) := expandTargets run redirections state
  if state.isActive then redirectAll run (redirections.zip targets) state else (false, state)

end CallScript.Shell
