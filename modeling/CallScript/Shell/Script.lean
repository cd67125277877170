/-!
# Shell scripts

The commands of a shell script and the words they are made of. A word is a list of parts, because
parts of one word can be quoted, and parts can stand for the value of a parameter or for what
another script writes.
-/

namespace CallScript.Shell

/-- Which end of a value is cut off where it matches a pattern, and how much of it. -/
inductive Cut where
  | shortFront
  | longFront
  | shortBack
  | longBack
deriving DecidableEq

/-- What happens in place of the value of a parameter that is not set. -/
inductive Fallback where
  /-- Another value is used. -/
  | use
  /-- Another value is used and stored. -/
  | assign
  /-- Another value is used if the parameter *is* set. -/
  | replace
  /-- The script ends. -/
  | fail
deriving DecidableEq

/-- What a redirection opens. -/
inductive Redirection.Kind where
  | input
  | truncate
  /-- Like `truncate`, also where files that are there are protected. -/
  | replace
  | append
  | both
  | duplicate
  /-- The word itself is the input. Until the body has been read, only its number is known. -/
  | document (index : Nat)
deriving DecidableEq

/-- A redirection of a descriptor by a word. -/
structure Redirection.Of (word : Type) where
  descriptor : Nat
  kind : Redirection.Kind
  word : word

mutual

inductive Part where
  | literal (text : List Char) (quoted : Bool)
  /-- The home directory of a user, or of the script itself where no user is named. Next to a colon
  it is only meant in the value of a parameter. -/
  | home (user : List Char) (nextToColon : Bool)
  | parameter (name : String) (quoted : Bool)
  | size (name : String) (quoted : Bool)
  | cut (name : String) (cut : Cut) (pattern : List Part) (quoted : Bool)
  | fallback (name : String) (fallback : Fallback) (alsoEmpty : Bool) (word : List Part)
      (quoted : Bool)
  | output (script : Script) (quoted : Bool)
  | arithmetic (expression : List Part) (quoted : Bool)
  | invalid

/-- The commands of a script. Those that can fail on their own know the line they begin on. -/
inductive Script where
  | simple (line : Nat) (assignments : List (String × List Part)) (words : List (List Part))
      (redirections : List (Redirection.Of (List Part)))
  | sequence (first second : Script)
  | both (first second : Script)
  | either (first second : Script)
  | negate (script : Script)
  | pipe (first second : Script)
  | branch (condition body otherwise : Script)
  /-- Repeats the body while the condition's success is as given. If that ends it at once, the
  status is as given. -/
  | loop (success : Bool) (status : Nat) (condition body : Script)
  | each (line : Nat) (name : String) (words? : Option (List (List Part))) (body : Script)
  | select (line : Nat) (word : List Part) (arms : Script)
  /-- Runs the body if one of the patterns fits; else the next arm is tried. -/
  | arm (patterns : List (List Part)) (body otherwise : Script)
  | group (line : Nat) (body : Script) (redirections : List (Redirection.Of (List Part)))
  | isolated (line : Nat) (body : Script) (redirections : List (Redirection.Of (List Part)))
  | background (body : Script)
  | define (name : String) (body : Script)
  | nothing

end

abbrev Word := List Part

abbrev Redirection := Redirection.Of Word

def Redirection.fill (documents : List Word) (redirection : Redirection) : Redirection :=
  match redirection.kind with
  | .document index => { redirection with word := documents.getD index [] }
  | _ => redirection

/-- Puts the bodies of documents in their places. Scripts inside of words have theirs already. -/
def Script.fill (documents : List Word) : Script → Script
  | .simple line assignments words redirections =>
      .simple line assignments words (redirections.map (Redirection.fill documents))
  | .sequence first second => .sequence (first.fill documents) (second.fill documents)
  | .both first second => .both (first.fill documents) (second.fill documents)
  | .either first second => .either (first.fill documents) (second.fill documents)
  | .negate script => .negate (script.fill documents)
  | .pipe first second => .pipe (first.fill documents) (second.fill documents)
  | .branch condition body otherwise =>
      .branch (condition.fill documents) (body.fill documents) (otherwise.fill documents)
  | .loop success status condition body =>
      .loop success status (condition.fill documents) (body.fill documents)
  | .each line name words? body => .each line name words? (body.fill documents)
  | .select line word arms => .select line word (arms.fill documents)
  | .arm patterns body otherwise => .arm patterns (body.fill documents) (otherwise.fill documents)
  | .group line body redirections =>
      .group line (body.fill documents) (redirections.map (Redirection.fill documents))
  | .isolated line body redirections =>
      .isolated line (body.fill documents) (redirections.map (Redirection.fill documents))
  | .background body => .background (body.fill documents)
  | .define name body => .define name (body.fill documents)
  | .nothing => .nothing

namespace Word

/-- The text of a word in which nothing is quoted and nothing stands for something else. -/
def bare? : Word → Option (List Char)
  | [] => some []
  | .literal text false :: rest => (bare? rest).map (text ++ ·)
  | _ :: _ => none

end Word

def isNameStart (c : Char) : Bool := c.isAlpha || c == '_'

def isNamePart (c : Char) : Bool := c.isAlphanum || c == '_'

def isName (text : List Char) : Bool :=
  match text with
  | [] => false
  | c :: rest => isNameStart c && rest.all isNamePart

/-! ## Home directories -/

namespace Word

/-- The name of a user at the front of a word, up to a slash, and what is behind it. There is no
such name if anything in it is quoted or stands for something else. -/
def splitUser : Word → Option (List Char × Word)
  | [] => some ([], [])
  | .literal text false :: rest =>
      match text.dropWhile (· ≠ '/') with
      | [] => (splitUser rest).map fun (user, behind) => (text ++ user, behind)
      | behind => some (text.takeWhile (· ≠ '/'), .literal behind false :: rest)
  | _ => none

def markTilde (isBehindColon isBeforeColon : Bool) : Word → Word
  | .literal ['~'] false :: rest =>
      match splitUser rest with
      | some (user, behind) =>
          .home user (isBehindColon || (isBeforeColon && behind.isEmpty)) :: behind
      | none => .literal ['~'] false :: rest
  | word => word

def pieces : Word → List Word
  | [] => [[]]
  | part :: rest =>
      let isColon :=
        match part with
        | .literal [':'] false => true
        | _ => false
      match isColon, pieces rest with
      | true, pieces => [] :: pieces
      | false, piece :: pieces => (part :: piece) :: pieces
      | false, [] => [[part]]

def markTildes (word : Word) : Word :=
  let pieces := word.pieces
  let marked := pieces.zipIdx.map fun (piece, index) =>
    piece.markTilde (0 < index) (index + 1 < pieces.length)
  [.literal [':'] false].intercalate marked

end Word

/-- Divides a word at its first unquoted equals sign, where a name stands before it. -/
def Word.assignment? (word : Word) : Option (String × Word) :=
  go [] word
where
  go (name : List Char) : Word → Option (String × Word)
    | .literal text false :: rest =>
        match text.dropWhile (· ≠ '=') with
        | [] => go (name ++ text) rest
        | _ :: value =>
            let name := name ++ text.takeWhile (· ≠ '=')
            let word := if value.isEmpty then rest else .literal value false :: rest
            if isName name then some (String.ofList name, Word.markTildes word) else none
    | _ => none

end CallScript.Shell
