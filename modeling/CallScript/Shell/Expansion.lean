import CallScript.Shell.Arithmetic
import CallScript.Shell.Job
import CallScript.Shell.Pattern

/-!
# Expanding words

A word expands to any number of words: the values of parameters are put in, those that are not
quoted are divided into fields, and a field that is a pattern gives way to the paths that match it.
Expanding can run scripts, so it changes the state.
-/

namespace CallScript.Shell

/-- What a script writes, without the line breaks at its end, and the state behind it. Its output
ends when all that it has started is over. -/
def outputOf (run : Interpreter) (script : Script) (state : State) : List Char × State :=
  let state := state.passPlace
  let (index, inner) := state.divide.openPipe 1 none
  let ended := runFinally run (run script { inner with guarded := false })
  let ended := ended.awaitOwn run inner.number
  let output := (Octets.ofBytes (ended.pipeContent index)).toList.filter (· ≠ '\x00')
  ((output.reverse.dropWhile (· = '\n')).reverse,
    { state.share ended with
      outputStatus? := some (match ended.flow with
        | .killed signal => 128 + signal
        | _ => ended.status % 256) })

/-- What a word is expanded for. -/
inductive Purpose where
  | fields
  | text
  /-- It makes the value of a parameter, in which a home directory can stand behind a colon. -/
  | value
deriving DecidableEq

def argumentPieces (args : List String) : List Piece :=
  (args.map fun arg => Piece.text arg.toList true).intersperse .boundary

def valuePiece (text : List Char) (quoted : Bool) : Piece :=
  if quoted then .text text true else .value text

def cutValue (cut : Cut) (pattern : Pattern) (text : List Char) : List Char :=
  match cut with
  | .shortFront => pattern.cutShortFront text
  | .longFront => pattern.cutLongFront text
  | .shortBack => pattern.cutShortBack text
  | .longBack => pattern.cutLongBack text

/-- The signal that ends a script whose arithmetic goes wrong. -/
def arithmeticSignal : Nat := 8

def troubleText (expression : List Char) : Arithmetic.Trouble → String
  | .malformed reason =>
      "arithmetic expression: " ++ reason ++ ": \"" ++ String.ofList expression ++ "\""
  | .notNumber text => "Illegal number: " ++ text
  | .overflow => "overflow"

/-! ## Home directories -/

/-- The home directory of a user: that of the script itself, or one from the list of users. -/
def State.homeOf? (state : State) (user : List Char) : Option String :=
  if user.isEmpty then state.value? "HOME"
  else do
    let content ← (state.tree.readBytes [] "/etc/passwd").toOption
    let lines := Text.pieces '\n' (Octets.ofBytes content).toList
    let fields ← (lines.map (Text.pieces ':')).find? fun fields => fields.head? = some user
    return String.ofList (← fields[5]?)

/-! ## Parts -/

def State.require (state : State) (name : String) (value? : Option String) : State :=
  if value?.isNone && state.requiresValues then state.abort (name ++ ": parameter not set")
  else state

/-- The pieces that the value of a parameter makes. Where words are made, arguments are divided from
each other, whatever the separators are. -/
def parameterPieces (purpose : Purpose) (name : String) (value : String) (quoted : Bool)
    (state : State) : List Piece :=
  if purpose ≠ .fields || !(name = "@" || name = "*") then [valuePiece value.toList quoted]
  else if !quoted then [.value (argumentMark.intercalate (state.args.map String.toList))]
  else if name = "@" then argumentPieces state.args
  else [valuePiece value.toList true]

mutual

def expandPart (run : Interpreter) (purpose : Purpose) : Part → State → List Piece × State
  | .literal text quoted, state => ([.text text quoted], state)
  | .home user nextToColon, state =>
      match if nextToColon && purpose ≠ .value then none else state.homeOf? user with
      | some "" => ([], state)
      | some home => ([.text home.toList true], state)
      | none => ([.text ('~' :: user) false], state)
  | .parameter name quoted, state =>
      let value? := state.value? name
      (parameterPieces purpose name (value?.getD "") quoted state, state.require name value?)
  | .size name quoted, state =>
      let value? := state.value? name
      let size := (value?.getD "").length
      ([valuePiece (toString size).toList quoted], state.require name value?)
  | .cut name cut pattern quoted, state =>
      match state.value? name with
      | none => ([valuePiece [] quoted], state.require name none)
      | some value =>
          let (pieces, state) := expandParts run .text pattern state
          let chars := pieces.flatMap Piece.chars
          let pattern := Pattern.ofChars chars
          ([valuePiece (cutValue cut pattern value.toList) quoted], state)
  | .fallback name fallback alsoEmpty word quoted, state =>
      let value? := (state.value? name).filter fun value => !(alsoEmpty && value.isEmpty)
      let current := parameterPieces purpose name (value?.getD "") quoted state
      let chosen (state : State) : List Piece × State :=
        let (pieces, state) := expandParts run purpose word state
        (if quoted then pieces else (Piece.merge pieces).map Piece.asValue, state)
      match fallback, value? with
      | .replace, none => ([.text [] quoted], state)
      | .replace, some _ => chosen state
      | _, some _ => (current, state)
      | .use, none => chosen state
      | .assign, none =>
          let (pieces, state) := expandParts run .text word state
          let text := Piece.joined pieces
          ([valuePiece text quoted], state.assign name (String.ofList text))
      | .fail, none =>
          let (pieces, state) := expandParts run .text word state
          let text := String.ofList (Piece.joined pieces)
          let reason :=
            if !word.isEmpty then text
            else if alsoEmpty then "parameter not set or null"
            else "parameter not set"
          ([], if state.isActive then state.abort (name ++ ": " ++ reason) else state)
  | .output .nothing quoted, state => ([valuePiece [] quoted], state)
  | .output script quoted, state =>
      let (output, state) := outputOf run script state
      ([valuePiece output quoted], state)
  | .arithmetic expression quoted, state =>
      let (pieces, state) := expandParts run .text expression state
      let text := Piece.joined pieces
      if !state.isActive then ([], state)
      else
        match Arithmetic.eval text state.bindings with
        | .ok (value, bindings) =>
            let changes := bindings.filter fun other =>
              state.bindings.lookup other.1 ≠ some other.2
            let state := changes.reverse.foldl
              (fun state (name, text) =>
                if state.isActive then state.assign name text else state)
              state
            ([valuePiece (toString value).toList quoted], state)
        | .error .overflow => ([], { state with flow := .killed arithmeticSignal })
        | .error trouble => ([], state.abort (troubleText text trouble))
  | .invalid, state => ([], state.abort "Bad substitution")

def expandParts (run : Interpreter) (purpose : Purpose) :
    List Part → State → List Piece × State
  | [], state => ([], state)
  | part :: parts, state =>
      if state.isActive then
        let (pieces, state) := expandPart run purpose part state
        let (others, state) := expandParts run purpose parts state
        (pieces ++ others, state)
      else ([], state)

end

/-! ## Paths that match a pattern -/

def isPattern (chars : List (Char × Bool)) : Bool :=
  chars.any fun (c, quoted) => !quoted && ['*', '?', '['].contains c

def patternSteps : List (Char × Bool) → List (List (Char × Bool))
  | [] => [[]]
  | c :: rest =>
      match c.1 == '/', patternSteps rest with
      | true, steps => [] :: steps
      | false, step :: steps => (c :: step) :: steps
      | false, [] => [[c]]

/-- The names in a directory that match a step of a pattern. A name with a dot in front has to be
asked for. -/
def matchingNames (state : State) (directory : String) (step : List (Char × Bool)) : List String :=
  match state.tree.find state.directory (if directory.isEmpty then "." else directory) with
  | .ok (place, node) =>
      let pattern := Pattern.ofChars step
      let wantsHidden := (step.head?.map (·.1)) = some '.'
      let names := if node.allows .read then (state.tree.children place).map (·.1) else []
      if node.isDirectory then
        ([".", ".."] ++ names).filter fun name =>
          pattern.fits name.toList && (wantsHidden || name.toList.head? ≠ some '.')
      else []
  | .error _ => []

def matchingPaths (state : State) : List (List (Char × Bool)) → String → List String
  | [], path => [path]
  | step :: steps, path =>
      let paths :=
        if isPattern step then (matchingNames state path step).map (path ++ ·)
        else [path ++ String.ofList (step.map (·.1))]
      if steps.isEmpty then
        paths.filter fun path => (state.tree.findNamed state.directory path).toOption.isSome
      else paths.flatMap fun path => matchingPaths state steps (path ++ "/")

def fieldWords (state : State) (field : List (Char × Bool)) : List String :=
  let word := String.ofList (field.map (·.1))
  let pattern := Pattern.settle field
  if state.findsPaths && isPattern pattern then
    match (matchingPaths state (patternSteps pattern) "").mergeSort with
    | [] => [word]
    | paths => paths
  else [word]

/-! ## Words -/

def expandWord (run : Interpreter) (word : Word) (state : State) : List String × State :=
  let (pieces, state) := expandParts run .fields word state
  ((fieldsOf state.separators (Piece.merge pieces)).flatMap (fieldWords state), state)

def expandWords (run : Interpreter) : List Word → State → List String × State
  | [], state => ([], state)
  | word :: words, state =>
      if state.isActive then
        let (first, state) := expandWord run word state
        let (others, state) := expandWords run words state
        (first ++ others, state)
      else ([], state)

def expandText (run : Interpreter) (purpose : Purpose) (word : Word) (state : State) :
    String × State :=
  let (pieces, state) := expandParts run purpose word state
  (String.ofList (Piece.joined pieces), state)

def assignAll (run : Interpreter) : List (String × Word) → State → List (String × String) × State
  | [], state => ([], state)
  | (name, word) :: others, state =>
      let (value, state) := expandText run .value word state
      if !state.isActive then ([], state)
      else
        let (values, state) := assignAll run others (state.assign name value)
        ((name, value) :: values, state)

end CallScript.Shell
