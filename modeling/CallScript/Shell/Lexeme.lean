import CallScript.Shell.Number
import CallScript.Shell.Script

/-!
# Lexemes of a shell script

The text of a script is taken apart into words, operators and line breaks, one after the other, each
with its line. Quotes and parameters are understood here already, so that a word comes out as its
parts. A script inside of a word is read by whoever reads scripts, which is a parameter here.

The body of a document stands behind the line that asks for it. The lexeme in the line holds the
number of the document, and the bodies that have been read are kept beside the text.

All functions take a bound on their number of steps; the length of the text is enough.
-/

namespace CallScript.Shell

/-- A mistake in a script. -/
structure Mistake where
  line : Nat
  text : String
deriving DecidableEq

def Mistake.message (mistake : Mistake) : String := "Syntax error: " ++ mistake.text

/-- Reads the scripts inside of words. -/
structure Nested where
  /-- A script that begins on a line and ends at a closing parenthesis: the script, the text behind
  it and its line. -/
  enclosed : List Char → Nat → Except Mistake (Script × List Char × Nat)
  whole : List Char → Except Mistake Script

inductive Lexeme where
  | word (word : Word)
  | descriptor (number : Nat)
  | mark (text : String)
  | newline
  | document (index : Nat)
  | finish
  | broken (problem : String)

/-- Where a list of parts ends. -/
inductive Context where
  /-- At a blank or an operator. -/
  | bare
  /-- At the closing double quote. -/
  | double
  /-- At the closing brace. A pattern in quoted braces is not itself quoted. -/
  | braces (quoted : Bool)
  /-- At two closing parentheses, outside of those that have been opened within. -/
  | arithmetic (opened : Nat)
  /-- At the end of the text. -/
  | document
deriving DecidableEq

namespace Context

def quotes : Context → Bool
  | .bare => false
  | .double => true
  | .braces quoted => quoted
  | .arithmetic _ | .document => true

def takesQuotes : Context → Bool
  | .bare => true
  | .braces quoted => !quoted
  | _ => false

end Context

def isOperatorStart (c : Char) : Bool := [';', '&', '|', '<', '>', '(', ')'].contains c

def endsBareWord (c : Char) : Bool := c == ' ' || c == '\t' || c == '\n' || isOperatorStart c

/-- Splits before an unhidden backquote; backslashes that hide something here are dropped. Inside of
double quotes that can be a double quote. -/
def splitBackquote (quoted : Bool) : List Char → Option (List Char × List Char)
  | [] => none
  | '\\' :: c :: rest => do
      let (inner, behind) ← splitBackquote quoted rest
      if c = '\n' then return (inner, behind)
      else if c = '`' || c = '\\' || c = '$' || (quoted && c = '"') then
        return (c :: inner, behind)
      else return ('\\' :: c :: inner, behind)
  | c :: rest => do
      if c = '`' then return ([], rest)
      else
        let (inner, behind) ← splitBackquote quoted rest
        return (c :: inner, behind)

def isSpecialParameter (c : Char) : Bool :=
  c.isDigit || ['@', '*', '#', '?', '-', '$', '!'].contains c

def splitParameter : List Char → Option (String × List Char)
  | [] => none
  | c :: rest =>
      if isNameStart c then
        some (String.ofList (c :: rest.takeWhile isNamePart), rest.dropWhile isNamePart)
      else if isSpecialParameter c then some (String.ofList [c], rest)
      else none

/-- The name of a parameter in braces, where an argument can have more than one digit. -/
def splitBraced (text : List Char) : Option (String × List Char) :=
  match text.takeWhile Char.isDigit with
  | [] => splitParameter text
  | digits => some (String.ofList digits, text.drop digits.length)

/-- What stands first in braces, and the text behind it. -/
inductive Subject where
  | value (name : String) (behind : List Char)
  | size (name : String) (behind : List Char)
  | nothing (behind : List Char)

/-- What stands first in braces. A number sign asks for a size if only a name, or one sign and the
brace, are behind it. -/
def splitSubject : List Char → Subject
  | '#' :: c :: rest =>
      if isNamePart c then
        match splitBraced (c :: rest) with
        | some (name, '\x7d' :: behind) => .size name behind
        | some (_, behind) => .nothing behind
        | none => .nothing (c :: rest)
      else
        match c, rest with
        | '\x7d', _ => .value "#" (c :: rest)
        | _, '\x7d' :: behind =>
            if isSpecialParameter c then .size (String.ofList [c]) behind
            else .nothing ('\x7d' :: behind)
        | _, _ => .value "#" (c :: rest)
  | text =>
      match splitBraced text with
      | some (name, behind) => .value name behind
      | none => .nothing text

/-- What a parameter in braces does with its value, and the text of its word. -/
inductive Modifier where
  | cut (cut : Cut)
  | fallback (fallback : Fallback) (alsoEmpty : Bool)

def splitModifier : List Char → Option (Modifier × List Char)
  | '%' :: '%' :: rest => some (.cut .longBack, rest)
  | '%' :: rest => some (.cut .shortBack, rest)
  | '#' :: '#' :: rest => some (.cut .longFront, rest)
  | '#' :: rest => some (.cut .shortFront, rest)
  | ':' :: '-' :: rest => some (.fallback .use true, rest)
  | ':' :: '=' :: rest => some (.fallback .assign true, rest)
  | ':' :: '+' :: rest => some (.fallback .replace true, rest)
  | ':' :: '?' :: rest => some (.fallback .fail true, rest)
  | '-' :: rest => some (.fallback .use false, rest)
  | '=' :: rest => some (.fallback .assign false, rest)
  | '+' :: rest => some (.fallback .replace false, rest)
  | '?' :: rest => some (.fallback .fail false, rest)
  | _ => none

/-- What is behind a sign that is no modifier. A line break in its place does not count as one. -/
def skipNoModifier : List Char → List Char
  | '\n' :: rest | ':' :: '\n' :: rest => rest
  | text => text

def Context.missing : Context → String
  | .braces _ => "Missing '\x7d'"
  | .arithmetic _ => "Missing '))'"
  | _ => "Unterminated quoted string"

/-- A document that a line asks for. -/
structure Request where
  delimiter : List Char
  literal : Bool
  stripTabs : Bool

def Request.strip (request : Request) (text : List Char) : List Char :=
  if request.stripTabs then text.dropWhile (· = '\t') else text

def Request.behind? (request : Request) (text : List Char) : Option (List Char) :=
  let text := request.strip text
  if request.delimiter.isPrefixOf text then
    match text.drop request.delimiter.length with
    | [] => some []
    | '\n' :: behind => some behind
    | _ => none
  else none

def Request.lines (request : Request) : Nat := request.delimiter.count '\n' + 1

/-- Takes out the line joins between characters of a kind at the front of a text, and counts
them. -/
def joinWhile (accepts : Char → Bool) : List Char → List Char × Nat
  | '\\' :: '\n' :: rest =>
      let (text, joins) := joinWhile accepts rest
      (text, joins + 1)
  | c :: rest =>
      if accepts c then
        let (text, joins) := joinWhile accepts rest
        (c :: text, joins)
      else (c :: rest, 0)
  | [] => ([], 0)

def isReferenceChar (c : Char) : Bool :=
  isNamePart c || "\x7b\x7d#%:+=?@*$!-(".toList.contains c

/-- The parts of a text up to where the context ends, the text behind, and its line. A document ends
at its delimiter. The mistake says what is missing in a text that ends too early. -/
def splitParts (nested : Nested) (request? : Option Request) :
    Nat → Nat → Context → List Char → Except Mistake (Word × List Char × Nat)
  | 0, line, context, _ => .error ⟨line, context.missing⟩
  | _, line, .bare, [] | _, line, .document, [] => .ok ([], [], line)
  | _, line, context, [] => .error ⟨line, context.missing⟩
  | fuel + 1, line, context, c :: rest => do
      let quoted := context.quotes
      let goIn (context : Context) (parts : Word) (rest : List Char) (line : Nat) :
          Except Mistake (Word × List Char × Nat) := do
        let (more, behind, line) ← splitParts nested request? fuel line context rest
        return (parts ++ more, behind, line)
      let go := goIn context
      let lineBehind (inner : List Char) : Nat := line + inner.count '\n'
      let unfinished (text : String) : Mistake := ⟨lineBehind rest, text⟩
      if context = .bare && endsBareWord c then return ([], c :: rest, line)
      else if context = .double && c = '"' then return ([], rest, line)
      else if c = '\x7d' && (context = .braces true || context = .braces false) then
        return ([], rest, line)
      else if c = '\\' then
        match rest with
        | [] => go [.literal ['\\'] true] [] line
        | next :: behind =>
            if next = '\n' then go [] behind (line + 1)
            else if !quoted || next = '$' || next = '`' || next = '\\' ||
                (next = '"' && context ≠ .document) ||
                (next = '\x7d' && context = .braces true) then
              go [.literal [next] true] behind line
            else go [.literal ['\\', next] true] behind line
      else if c = '\'' && context.takesQuotes then
        let inner := rest.takeWhile (· ≠ '\'')
        if inner.length = rest.length then throw (unfinished Context.double.missing)
        else go [.literal inner true] (rest.drop (inner.length + 1)) (lineBehind inner)
      else if c = '"' && (context.takesQuotes || context = .braces true) then
        let (inner, behind, line) ← splitParts nested request? fuel line .double rest
        match inner with
        | [.parameter "@" true] => go inner behind line
        | _ => go (.literal [] true :: inner) behind line
      else if c = '`' then
        match splitBackquote quoted rest with
        | none => throw (unfinished "EOF in backquote substitution")
        | some (inner, behind) => do
            let script ← nested.whole inner
            go [.output script quoted] behind (lineBehind (rest.take (rest.length - behind.length)))
      else if c = '$' then
        let (rest, joins) := joinWhile isReferenceChar rest
        let line := line + joins
        let go := fun parts rest line => goIn context parts rest line
        match rest with
        | '(' :: '(' :: behind => do
            let (expression, behind, line) ←
              splitParts nested request? fuel line (.arithmetic 0) behind
            go [.arithmetic expression quoted] behind line
        | '(' :: behind => do
            let (script, behind, line) ← nested.enclosed behind line
            go [.output script quoted] behind line
        | '\x7b' :: behind =>
            match splitSubject behind with
            | .size name behind => go [.size name quoted] behind line
            | .value name ('\x7d' :: behind) => go [.parameter name quoted] behind line
            | .value name behind =>
                match splitModifier behind with
                | none => do
                    let (_, behind, line) ← splitParts nested request? fuel line (.braces quoted)
                      (skipNoModifier behind)
                    go [.invalid] behind line
                | some (.cut cut, behind) => do
                    let (pattern, behind, line) ←
                      splitParts nested request? fuel line (.braces false) behind
                    go [.cut name cut pattern.markTildes quoted] behind line
                | some (.fallback fallback alsoEmpty, behind) => do
                    let (word, behind, line) ←
                      splitParts nested request? fuel line (.braces quoted) behind
                    go [.fallback name fallback alsoEmpty word.markTildes quoted] behind line
            | .nothing behind => do
                let (_, behind, line) ← splitParts nested request? fuel line (.braces quoted)
                  (skipNoModifier behind)
                go [.invalid] behind line
        | _ =>
            match splitParameter rest with
            | some (name, behind) => go [.parameter name quoted] behind line
            | none => go [.literal ['$'] quoted] rest line
      else
        match context, c, rest with
        | .arithmetic opened, '(', _ =>
            goIn (.arithmetic (opened + 1)) [.literal [c] quoted] rest line
        | .arithmetic (opened + 1), ')', _ =>
            goIn (.arithmetic opened) [.literal [c] quoted] rest line
        | .arithmetic 0, ')', _ =>
            match joinWhile (fun _ => false) rest with
            | (')' :: behind, joins) => return ([], behind, line + joins)
            | _ => go [.literal [c] quoted] rest line
        | _, '\n', _ =>
            match request? with
            | none => go [.literal [c] quoted] rest (line + 1)
            | some request =>
                match request.behind? rest with
                | none => go [.literal [c] quoted] (request.strip rest) (line + 1)
                | some behind =>
                    let line := line + 1 + request.lines
                    if context = .document then return ([.literal [c] quoted], behind, line)
                    else throw ⟨line, context.missing⟩
        | _, _, _ => go [.literal [c] quoted] rest line

def operators : List (List Char) :=
  ["<<-", "&&", "||", ";;", "<<", ">>", "<&", ">&", ">|", "<>", ";", "&", "|", "<", ">", "(",
    ")"].map String.toList

/-- An operator at the front of a text, the text behind it and how many line joins are in it. -/
def splitOperator (text : List Char) : Option (String × List Char × Nat) := do
  guard (text.head?.any isOperatorStart)
  let (text, joins) := joinWhile (fun c => isOperatorStart c || c = '-') text
  let operator ← operators.find? fun operator => operator.isPrefixOf text
  return (String.ofList operator, text.drop operator.length, joins)

/-! ## Documents -/

/-- What ends a document: the text of a word without its quotes, whether any of it was quoted, and
what is behind the word. Nothing in the word stands for anything else. -/
def splitDelimiter : Nat → List Char → List Char × Bool × List Char
  | 0, text => ([], false, text)
  | _, [] => ([], false, [])
  | fuel + 1, c :: rest =>
      let go (taken rest : List Char) (isQuoted : Bool) : List Char × Bool × List Char :=
        let (more, quoted, behind) := splitDelimiter fuel rest
        (taken ++ more, quoted || isQuoted, behind)
      if endsBareWord c then ([], false, c :: rest)
      else if c = '\\' then go (rest.take 1) (rest.drop 1) true
      else if c = '\'' || c = '"' then
        let inner := rest.takeWhile (· ≠ c)
        go inner (rest.drop (inner.length + 1)) true
      else go [c] rest false

/-- The lines up to the delimiter, the text behind it, and how many lines that were. -/
def splitBody : Nat → Request → List Char → List Char × List Char × Nat
  | 0, _, rest => ([], rest, 0)
  | _, _, [] => ([], [], 0)
  | fuel + 1, request, text =>
      match request.behind? text with
      | some behind => ([], behind, request.lines)
      | none =>
          let full := text.takeWhile (· ≠ '\n')
          let ended := (text.drop full.length).take 1
          let (body, behind, lines) := splitBody fuel request (text.drop (full.length + 1))
          (request.strip full ++ ended ++ body, behind, lines + 1)

def splitBodies (nested : Nested) :
    Nat → List Request → List Char → Except Mistake (List Word × List Char × Nat)
  | line, [], text => .ok ([], text, line)
  | line, request :: requests, text => do
      let (word, behind, next) ←
        if request.literal then
          let (body, behind, lines) := splitBody (text.length + 1) request text
          pure ([.literal body true], behind, line + lines)
        else
          match request.behind? text with
          | some behind => pure ([], behind, line + request.lines)
          | none =>
              splitParts nested (some request) (text.length + 1) line .document (request.strip text)
      let (words, behind, line) ← splitBodies nested next requests behind
      return (word :: words, behind, line)

/-! ## Lexemes -/

/-- A name for a text that a command can begin with. -/
structure Alias where
  name : String
  text : String
deriving DecidableEq

/-- What is left of a text that is being read. -/
structure Source where
  text : List Char
  line : Nat
  requests : List Request
  documents : List Word
  /-- The aliases whose texts have been put in front, each with how much text is left where its own
  ends. -/
  put : List (Alias × Nat)

def Source.ofText (text : List Char) (line : Nat) : Source := ⟨text, line, [], [], []⟩

/-- A lexeme on its line, and what is behind it. -/
structure Cursor where
  line : Nat
  lexeme : Lexeme
  source : Source

def Source.next (nested : Nested) : Nat → Source → Cursor
  | 0, source => ⟨source.line, .finish, source⟩
  | fuel + 1, source =>
      match source.text with
      | [] => ⟨source.line, .finish, source⟩
      | c :: rest =>
          let line := source.line
          let broken (mistake : Mistake) : Cursor :=
            ⟨mistake.line, .broken mistake.text, { source with text := [] }⟩
          if c = ' ' || c = '\t' then Source.next nested fuel { source with text := rest }
          else if c = '#' then
            Source.next nested fuel { source with text := rest.dropWhile (· ≠ '\n') }
          else if c = '\\' && rest.head? = some '\n' then
            Source.next nested fuel { source with text := rest.drop 1, line := line + 1 }
          else if c = '\n' then
            match splitBodies nested (line + 1) source.requests rest with
            | .error mistake => broken mistake
            | .ok (bodies, behind, next) =>
                ⟨line + 1, .newline,
                  { source with
                    text := behind, line := next, requests := []
                    documents := source.documents ++ bodies }⟩
          else
            match splitOperator (c :: rest) with
            | some (operator, behind, joins) =>
                let line := line + joins
                let source := { source with line := line }
                let text := behind.dropWhile fun c => c = ' ' || c = '\t'
                if (operator = "<<" || operator = "<<-") && !text.head?.all endsBareWord then
                  let (delimiter, quoted, behind) := splitDelimiter (text.length + 1) text
                  let request : Request := ⟨delimiter, quoted, operator = "<<-"⟩
                  ⟨line, .document (source.documents.length + source.requests.length),
                    { source with text := behind, requests := source.requests ++ [request] }⟩
                else ⟨line, .mark operator, { source with text := behind }⟩
            | none =>
                match splitParts nested none (rest.length + 2) line .bare (c :: rest) with
                | .error mistake => broken mistake
                | .ok (word, behind, next) =>
                    let behindWord := { source with text := behind, line := next }
                    let word := word.markTildes
                    match Word.bare? word, behind.head? with
                    | some [digit], some '<' | some [digit], some '>' =>
                        match Number.natural? [digit] with
                        | some number => ⟨line, .descriptor number, behindWord⟩
                        | none => ⟨line, .word word, behindWord⟩
                    | _, _ => ⟨line, .word word, behindWord⟩

end CallScript.Shell
