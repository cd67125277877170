import CallScript.Shell.Lexeme

/-!
# Reading shell scripts

The grammar of the shell over lexemes. A script is read command by command, so that a mistake
further down does not keep the commands before it from running, and so that a command can change how
those behind it are read.

The functions take the function that gives the next lexeme, the aliases, and a bound on the depth of
their calls.
-/

namespace CallScript.Shell

abbrev Reader (α : Type) := Cursor → Except Mistake (α × Cursor)

def reservedWords : List String :=
  ["!", "\x7b", "\x7d", "case", "do", "done", "elif", "else", "esac", "fi", "for", "if", "in",
    "then", "until", "while"]

def specialNames : List String :=
  [".", ":", "break", "continue", "eval", "exec", "exit", "export", "local", "readonly", "return",
    "set", "shift", "times", "trap", "unset"]

def Lexeme.bare? : Lexeme → Option String
  | .word parts => (Word.bare? parts).map String.ofList
  | _ => none

/-- How a lexeme is called in a message; reserved words are called by their names only where they
are `reserved`. -/
def Lexeme.shown (reserved : Bool) : Lexeme → String
  | .word parts =>
      match (Word.bare? parts).map String.ofList with
      | some text =>
          if reserved && reservedWords.contains text then "\"" ++ text ++ "\"" else "word"
      | none => "word"
  | .mark text =>
      if ["<", ">", ">>", "<&", ">&", ">|", "<>", "<<", "<<-"].contains text then "redirection"
      else "\"" ++ text ++ "\""
  | .newline => "newline"
  | .finish => "end of file"
  | .descriptor _ | .document _ => "redirection"
  | .broken problem => problem

namespace Cursor

def mistake (cursor : Cursor) (reserved : Bool) (expected? : Option String) : Mistake :=
  match cursor.lexeme with
  | .broken problem => ⟨cursor.line, problem⟩
  | lexeme =>
      let expectation := (expected?.map fun text => " (expecting " ++ text ++ ")").getD ""
      ⟨cursor.line, lexeme.shown reserved ++ " unexpected" ++ expectation⟩

def isWord (cursor : Cursor) (text : String) : Bool := cursor.lexeme.bare? = some text

def isMark (cursor : Cursor) (text : String) : Bool :=
  match cursor.lexeme with
  | .mark mark => mark = text
  | _ => false

def isBreak (cursor : Cursor) : Bool :=
  match cursor.lexeme with
  | .newline => true
  | _ => false

def isFinish (cursor : Cursor) : Bool :=
  match cursor.lexeme with
  | .finish => true
  | _ => false

def fuel (cursor : Cursor) : Nat := cursor.source.text.length + 2

end Cursor

def unexpected {α : Type} (cursor : Cursor) (expected? : Option String) : Except Mistake α :=
  .error (cursor.mistake true expected?)

variable (next : Source → Cursor) (aliases : List Alias)

def Cursor.tail (cursor : Cursor) : Cursor := next cursor.source

def skipBreaksWithin : Nat → Cursor → Cursor
  | 0, cursor => cursor
  | fuel + 1, cursor =>
      if cursor.isBreak then skipBreaksWithin fuel (cursor.tail next) else cursor

def skipBreaks (cursor : Cursor) : Cursor := skipBreaksWithin next cursor.fuel cursor

def expect (text : String) (cursor : Cursor) : Except Mistake Cursor :=
  if cursor.isWord text then .ok (cursor.tail next)
  else unexpected cursor (some ("\"" ++ text ++ "\""))

def expectMark (text : String) (cursor : Cursor) : Except Mistake Cursor :=
  if cursor.isMark text then .ok (cursor.tail next)
  else unexpected cursor (some ("\"" ++ text ++ "\""))

/-! ## Aliases -/

/-- The alias that the word at a cursor is. A word is no alias inside of that alias' own text. -/
def Cursor.standIn? (cursor : Cursor) : Option Alias := do
  let name ← cursor.lexeme.bare?
  guard (!reservedWords.contains name)
  let found ← aliases.find? fun other => other.name = name
  let isWithin := cursor.source.put.any fun (other, rest) =>
    other.name = name && rest ≤ cursor.source.text.length
  guard (!isWithin)
  return found

def expandAliasWithin : Nat → Cursor → Cursor
  | 0, cursor => cursor
  | fuel + 1, cursor =>
      match cursor.standIn? aliases with
      | none => cursor
      | some found =>
          let source := cursor.source
          expandAliasWithin fuel (next
            { source with
              text := found.text.toList ++ source.text
              put := (found, source.text.length) :: source.put })

def expandAlias (cursor : Cursor) : Cursor :=
  expandAliasWithin next aliases (aliases.length + 1) cursor

/-- Whether a word is the first one behind the text of an alias that ends in a blank. -/
def isBehindBlank (before word : Cursor) : Bool :=
  word.source.put.any fun (other, rest) =>
    (other.text.toList.getLast?.any fun c => c = ' ' || c = '\t') &&
      rest ≤ before.source.text.length && word.source.text.length < rest

/-! ## Simple commands -/

/-- The kinds of redirection, each with the descriptor that is meant if none is given. -/
def redirectionKinds : List (String × Nat × Redirection.Kind) :=
  [("<", 0, .input), (">", 1, .truncate), (">|", 1, .replace), (">>", 1, .append),
    ("<&", 0, .duplicate), (">&", 1, .duplicate), ("<>", 0, .both), ("<<", 0, .input),
    ("<<-", 0, .input)]

def readRedirection (cursor : Cursor) : Except Mistake (Option (Redirection × Cursor)) :=
  let (number?, behind) : Option Nat × Cursor :=
    match cursor.lexeme with
    | .descriptor number => (some number, cursor.tail next)
    | _ => (none, cursor)
  match behind.lexeme with
  | .document index => .ok (some (⟨number?.getD 0, .document index, []⟩, behind.tail next))
  | .mark mark =>
      match redirectionKinds.lookup mark with
      | none => .ok none
      | some (standard, kind) =>
          let behind := behind.tail next
          match behind.lexeme with
          | .word word => .ok (some (⟨number?.getD standard, kind, word⟩, behind.tail next))
          | _ => unexpected behind none
  | _ => .ok none

def readRedirections : Nat → Reader (List Redirection)
  | 0, cursor => .ok ([], cursor)
  | fuel + 1, cursor => do
      match ← readRedirection next cursor with
      | none => return ([], cursor)
      | some (redirection, behind) =>
          let (others, behind) ← readRedirections fuel behind
          return (redirection :: others, behind)

def readSimple : Nat → Nat → List (String × Word) → List Word → List Redirection → Reader Script
  | 0, _, _, _, _, cursor => unexpected cursor none
  | fuel + 1, line, assignments, words, redirections, cursor => do
      match ← readRedirection next cursor with
      | some (redirection, behind) =>
          readSimple fuel line assignments words (redirections ++ [redirection])
            (if words.isEmpty then expandAlias next aliases behind else behind)
      | none =>
          match cursor.lexeme with
          | .word word =>
              let behind := cursor.tail next
              match words, Word.assignment? word with
              | [], some assignment =>
                  readSimple fuel line (assignments ++ [assignment]) [] redirections
                    (expandAlias next aliases behind)
              | _, _ =>
                  let behind :=
                    if isBehindBlank cursor behind then expandAlias next aliases behind else behind
                  readSimple fuel line assignments (words ++ [word]) redirections behind
          | _ =>
              if assignments.isEmpty && words.isEmpty && redirections.isEmpty then
                unexpected cursor none
              else return (.simple line assignments words redirections, cursor)

def readWords : Nat → Cursor → List Word × Cursor
  | 0, cursor => ([], cursor)
  | fuel + 1, cursor =>
      match cursor.lexeme with
      | .word word =>
          let (words, behind) := readWords fuel (cursor.tail next)
          (word :: words, behind)
      | _ => ([], cursor)

def readPatterns : Nat → Reader (List Word)
  | 0, cursor => unexpected cursor (some "\")\"")
  | fuel + 1, cursor => do
      let (word, behind) : Word × Cursor :=
        match cursor.lexeme with
        | .word word => (word, cursor.tail next)
        | .finish | .broken _ => ([], cursor)
        | _ => ([], cursor.tail next)
      if behind.isMark "|" then
        let (words, behind) ← readPatterns fuel (behind.tail next)
        return (word :: words, behind)
      else if behind.isMark ")" then return ([word], behind.tail next)
      else .error (behind.mistake false (some "\")\""))

/-! ## Compound commands -/

def listEnds : List String := ["\x7d", "do", "done", "elif", "else", "esac", "fi", "then"]

def Cursor.endsList (cursor : Cursor) : Bool :=
  cursor.isFinish || [")", ";;"].any cursor.isMark || listEnds.any cursor.isWord

mutual

def readList : Nat → Reader Script
  | 0, cursor => unexpected cursor none
  | fuel + 1, cursor => do
      let start := skipBreaks next cursor
      if start.isFinish then return (.nothing, start)
      let (first, behind) ← readConditional fuel start
      let first := if behind.isMark "&" then .background first else first
      let isSeparated := behind.isMark ";" || behind.isMark "&" || behind.isBreak
      let following := skipBreaks next (if isSeparated then behind.tail next else behind)
      if !isSeparated || following.endsList then return (first, following)
      else
        let (others, behind) ← readList fuel following
        return (.sequence first others, behind)

def readConditional : Nat → Reader Script
  | 0, cursor => unexpected cursor none
  | fuel + 1, cursor => do
      let (first, behind) ← readPipeline fuel cursor
      readConditionalBehind fuel first behind

def readConditionalBehind : Nat → Script → Reader Script
  | 0, _, cursor => unexpected cursor none
  | fuel + 1, first, cursor => do
      if cursor.isMark "&&" then
        let (second, behind) ← readPipeline fuel (skipBreaks next (cursor.tail next))
        readConditionalBehind fuel (.both first second) behind
      else if cursor.isMark "||" then
        let (second, behind) ← readPipeline fuel (skipBreaks next (cursor.tail next))
        readConditionalBehind fuel (.either first second) behind
      else return (first, cursor)

def readPipeline : Nat → Reader Script
  | 0, cursor => unexpected cursor none
  | fuel + 1, cursor => do
      let cursor := expandAlias next aliases cursor
      if cursor.isWord "!" then
        let (script, behind) ← readPipes fuel (expandAlias next aliases (cursor.tail next))
        return (.negate script, behind)
      else readPipes fuel cursor

def readPipes : Nat → Reader Script
  | 0, cursor => unexpected cursor none
  | fuel + 1, cursor => do
      let (first, behind) ← readCommand fuel cursor
      if behind.isMark "|" then
        let (second, behind) ←
          readPipes fuel (expandAlias next aliases (skipBreaks next (behind.tail next)))
        return (.pipe first second, behind)
      else return (first, behind)

def readCommand : Nat → Reader Script
  | 0, cursor => unexpected cursor none
  | fuel + 1, cursor => do
      let line := cursor.line
      if cursor.isMark "(" then
        let (body, behind) ← readList fuel (cursor.tail next)
        let behind ← expectMark next ")" behind
        let (redirections, behind) ← readRedirections next behind.fuel behind
        return (.isolated line body redirections, behind)
      else
        match cursor.lexeme.bare? with
        | some "\x7b" => do
            let (body, behind) ← readList fuel (cursor.tail next)
            readRest fuel line body (← expect next "\x7d" behind)
        | some "if" => do
            let (body, behind) ← readBranches fuel (cursor.tail next)
            readRest fuel line body behind
        | some "while" => do
            let (condition, behind) ← readList fuel (cursor.tail next)
            let (body, behind) ← readBody fuel behind
            readRest fuel line (.loop true 0 condition body) behind
        | some "until" => do
            let (condition, behind) ← readList fuel (cursor.tail next)
            let (body, behind) ← readBody fuel behind
            readRest fuel line (.loop false 0 condition body) behind
        | some "for" => do
            let named := cursor.tail next
            let some name := named.lexeme.bare?.filter fun name => isName name.toList
              | throw ⟨named.line, "Bad for loop variable"⟩
            let behind := named.tail next
            let listed := skipBreaks next behind
            if listed.isWord "in" then
              let (words, behind) := readWords next listed.fuel (listed.tail next)
              let behind := if behind.isMark ";" then behind.tail next else behind
              let (body, behind) ← readBody fuel (skipBreaks next behind)
              readRest fuel line (.each line name (some words) body) behind
            else
              let behind := if behind.isMark ";" then behind.tail next else behind
              let (body, behind) ← readBody fuel (skipBreaks next behind)
              readRest fuel line (.each line name none body) behind
        | some "case" => do
            let subject := cursor.tail next
            let .word word := subject.lexeme | unexpected subject (some "word")
            let behind ← expect next "in" (skipBreaks next (subject.tail next))
            let (arms, behind) ← readArms fuel (skipBreaks next behind)
            readRest fuel line (.select line word arms) behind
        | some text =>
            if reservedWords.contains text then unexpected cursor none else readNamed fuel cursor
        | none => readNamed fuel cursor

def readNamed : Nat → Reader Script
  | 0, cursor => unexpected cursor none
  | fuel + 1, cursor => do
      let simple : Except Mistake (Script × Cursor) :=
        readSimple next aliases cursor.fuel cursor.line [] [] [] cursor
      match cursor.lexeme with
      | .word word =>
          let opened := cursor.tail next
          if opened.isMark "(" && (Word.assignment? word).isNone then
            let closed := opened.tail next
            unless closed.isMark ")" do throw (closed.mistake false (some "\")\""))
            let some name := cursor.lexeme.bare?.filter fun name =>
                isName name.toList && !specialNames.contains name
              | throw ⟨closed.line, "Bad function name"⟩
            let start := expandAlias next aliases (skipBreaks next (closed.tail next))
            let (body, behind) ← readCommand fuel start
            return (.define name body, behind)
          else simple
      | _ => simple

def readRest : Nat → Nat → Script → Reader Script
  | 0, _, _, cursor => unexpected cursor none
  | _ + 1, line, body, cursor => do
      let (redirections, behind) ← readRedirections next cursor.fuel cursor
      return (if redirections.isEmpty then body else .group line body redirections, behind)

def readBody : Nat → Reader Script
  | 0, cursor => unexpected cursor none
  | fuel + 1, cursor => do
      let (body, behind) ← readList fuel (← expect next "do" cursor)
      return (body, ← expect next "done" behind)

def readBranches : Nat → Reader Script
  | 0, cursor => unexpected cursor none
  | fuel + 1, cursor => do
      let (condition, behind) ← readList fuel cursor
      let (body, behind) ← readList fuel (← expect next "then" behind)
      if behind.isWord "elif" then
        let (otherwise, behind) ← readBranches fuel (behind.tail next)
        return (.branch condition body otherwise, behind)
      else if behind.isWord "else" then
        let (otherwise, behind) ← readList fuel (behind.tail next)
        return (.branch condition body otherwise, ← expect next "fi" behind)
      else return (.branch condition body .nothing, ← expect next "fi" behind)

def readArms : Nat → Reader Script
  | 0, cursor => unexpected cursor none
  | fuel + 1, cursor => do
      if cursor.isWord "esac" then return (.nothing, cursor.tail next)
      else
        let start := if cursor.isMark "(" then cursor.tail next else cursor
        let (patterns, behind) ← readPatterns next start.fuel start
        let behind := skipBreaks next behind
        let (body, behind) ←
          if behind.isMark ";;" || behind.isWord "esac" then pure (Script.nothing, behind)
          else readList fuel behind
        let behind ← if behind.isWord "esac" then pure behind else expectMark next ";;" behind
        let (otherwise, behind) ← readArms fuel (skipBreaks next behind)
        return (.arm patterns body otherwise, behind)

end

def depthOf (text : List Char) : Nat := 12 * text.length + 32

/-- The commands of a line, which may go over several lines. `before` are those that the line has so
far. -/
def readLine : Nat → List Script → Reader (List Script)
  | 0, _, cursor => unexpected cursor none
  | fuel + 1, before, cursor => do
      if cursor.isFinish || cursor.isBreak then return (before, cursor)
      else
        let (script, behind) ←
          readConditional next aliases (depthOf cursor.source.text + 16) cursor
        if behind.isMark ";" then readLine fuel (before ++ [script]) (behind.tail next)
        else if behind.isMark "&" then
          readLine fuel (before ++ [.background script]) (behind.tail next)
        else if behind.isFinish || behind.isBreak then return (before ++ [script], behind)
        else unexpected behind none

/-- Reads the scripts inside of words, which can hold words with scripts down to a depth. -/
def Nested.within : Nat → Nested
  | 0 => ⟨fun _ line => .error ⟨line, "end of file unexpected"⟩,
      fun _ => .error ⟨1, "end of file unexpected"⟩⟩
  | depth + 1 =>
      let following (source : Source) : Cursor :=
        Source.next (Nested.within depth) (source.text.length + 1) source
      { enclosed := fun text line => do
          let start := skipBreaks following (following (.ofText text line))
          let (script, behind) ←
            if start.isMark ")" then pure (Script.nothing, start)
            else readList following aliases (depthOf text) start
          if behind.isMark ")" then
            return (script.fill behind.source.documents, behind.source.text, behind.source.line)
          else unexpected behind (some "\")\"")
        whole := fun text => do
          let start := following (.ofText text 1)
          let (script, behind) ← readList following aliases (depthOf text) start
          if behind.isFinish then return script.fill behind.source.documents
          else unexpected behind none }

def Source.following (source : Source) : Cursor :=
  Source.next (Nested.within aliases (source.text.length + 1)) (source.text.length + 1) source

/-- The commands on the next line of a text that has any, and what is left of the text. A line is
read whole before any of its commands counts. -/
def Source.take (source : Source) : Option (Except Mistake (List Script) × Source) :=
  let following := Source.following aliases
  let start := skipBreaks following (following source)
  if start.isFinish then none
  else
    match readLine following aliases start.fuel [] start with
    | .ok (scripts, behind) =>
        some (.ok (scripts.map (Script.fill behind.source.documents)),
          { behind.source with requests := [], documents := [] })
    | .error mistake => some (.error mistake, { source with text := [] })

end CallScript.Shell
