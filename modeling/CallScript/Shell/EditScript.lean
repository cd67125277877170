import CallScript.Shell.LinePattern

/-!
# Scripts that edit lines

A script of commands, each for the lines that its addresses choose. Reading one stops at the first
mistake, which is known by the number of characters up to it.
-/

namespace CallScript.Shell

/-- A pattern in a script; none stands for the pattern that was used last. -/
structure EditPattern where
  pattern? : Option LinePattern
  ignoresCase : Bool
  hasLines : Bool

inductive EditAddress where
  | line (number : Nat)
  | last
  | step (first size : Nat)
  | found (pattern : EditPattern)

/-- Where a range of lines ends. -/
inductive EditEnd where
  | line (number : Nat)
  | last
  | found (pattern : EditPattern)
  | behind (count : Nat)
  | multiple (size : Nat)

/-- What changes the case of a replacement. -/
inductive CaseChange where
  | upper
  | lower
  | nextUpper
  | nextLower
  | none
deriving DecidableEq

inductive ReplacePart where
  | text (text : List Char)
  | group (number : Nat)
  | case (change : CaseChange)

structure Substitution where
  pattern : EditPattern
  replacement : List ReplacePart
  isGlobal : Bool
  number : Nat
  isPrinted : Bool
  file? : Option String

inductive EditAction where
  /-- Commands up to an index; the lines that are not chosen go on there. -/
  | block (last : Nat)
  | nothing
  | append (text : List Char)
  | insert (text : List Char)
  | change (text : List Char)
  | branch (label : String)
  | branchIf (label : String)
  | branchUnless (label : String)
  | label (name : String)
  | delete
  | deleteFirst
  | showNumber
  | showName
  | take
  | takeMore
  | keep
  | keepMore
  | exchange
  | list (width? : Option Nat)
  | next
  | nextMore
  | print
  | printFirst
  | quit (code : Nat)
  | leave (code : Nat)
  | read (path : String)
  | readLine (path : String)
  | write (path : String)
  | writeFirst (path : String)
  | substitute (substitution : Substitution)
  | mapChars (pairs : List (Char × Char))
  | clear

structure EditCommand where
  first? : Option EditAddress
  last? : Option EditEnd
  isEarly : Bool
  isNegated : Bool
  action : EditAction

/-- A mistake, with the number of characters up to it if that is known. -/
structure EditMistake where
  place? : Option Nat
  text : String

namespace EditScript

/-- What is left of a script, and how many characters have been read. -/
structure Rest where
  text : List Char
  place : Nat

abbrev Reading (α : Type) := Except EditMistake α

def Rest.drop (rest : Rest) (count : Nat) : Rest :=
  ⟨rest.text.drop count, rest.place + min count rest.text.length⟩

def Rest.skip (rest : Rest) (isSkipped : Char → Bool) : Rest :=
  rest.drop (rest.text.takeWhile isSkipped).length

def Rest.refuse {α : Type} (rest : Rest) (count : Nat) (text : String) : Reading α :=
  .error ⟨some (rest.drop count).place, text⟩

def isBlank (c : Char) : Bool := c = ' ' || c = '\t'

def isSpace (c : Char) : Bool := Number.isSpace c

def escapes : List (Char × Char) :=
  [('n', '\n'), ('t', '\t'), ('f', '\x0c'), ('v', '\x0b'), ('a', '\x07'), ('r', '\x0d')]

def number (rest : Rest) : Option (Nat × Rest) :=
  let digits := rest.text.takeWhile Char.isDigit
  if digits.isEmpty then none else some (Number.ofDigits 10 digits, rest.drop digits.length)

def setLength (text : List Char) : Nat :=
  let front := if text.head? = some '^' then 1 else 0
  let front := if (text.drop front).head? = some ']' then front + 1 else front
  let rec inner : Nat → List Char → Nat
    | 0, _ => 0
    | _, [] => 0
    | fuel + 1, '[' :: mark :: rest =>
        if mark = ':' || mark = '.' || mark = '=' then
          let body := rest.takeWhile (· ≠ ']')
          2 + body.length + 1 + inner fuel (rest.drop (body.length + 1))
        else 1 + inner fuel (mark :: rest)
    | fuel + 1, c :: rest => if c = ']' then 1 else 1 + inner fuel rest
  front + inner (text.length + 1) (text.drop front)

/-- The text up to a delimiter. A delimiter behind a backslash is part of it, and so is one between
brackets in a pattern. Without the delimiter there is none, nor with a line break in a pattern. -/
def delimited (delimiter : Char) (isPattern : Bool) :
    Nat → List Char → Rest → Option (List Char × Rest)
  | 0, _, _ => none
  | fuel + 1, taken, rest =>
      match rest.text with
      | [] => none
      | '\\' :: c :: _ =>
          let kept :=
            if c = delimiter && (isPattern || c ≠ '&') then [c]
            else if c = '\n' && isPattern then ['\n']
            else ['\\', c]
          delimited delimiter isPattern fuel (kept.reverse ++ taken) (rest.drop 2)
      | c :: others =>
          if c = delimiter then some (taken.reverse, rest.drop 1)
          else if c = '\n' && isPattern then none
          else if c = '[' && isPattern then
            let size := 1 + setLength others
            let set := rest.text.take size
            if size ≤ rest.text.length && set.getLast? = some ']' then
              delimited delimiter isPattern fuel (set.reverse ++ taken) (rest.drop size)
            else none
          else delimited delimiter isPattern fuel (c :: taken) (rest.drop 1)

def patternFlags : Nat → Rest → Bool × Bool × Rest
  | 0, rest => (false, false, rest)
  | fuel + 1, rest =>
      match rest.text with
      | 'I' :: _ =>
          let (_, lines, rest) := patternFlags fuel (rest.drop 1)
          (true, lines, rest)
      | 'M' :: _ =>
          let (ignores, _, rest) := patternFlags fuel (rest.drop 1)
          (ignores, true, rest)
      | _ => (false, false, rest)

def patternOf (isExtended : Bool) (text : List Char) (ignoresCase hasLines : Bool) (place : Nat) :
    Reading (EditPattern × Nat) :=
  if text.isEmpty then .ok (⟨none, ignoresCase, hasLines⟩, 9)
  else
    match LinePattern.ofText ⟨isExtended, escapes, true, true⟩ text with
    | .ok parsed => .ok (⟨some parsed.pattern, ignoresCase, hasLines⟩, parsed.groups)
    | .error reason =>
        .error ⟨if reason = LinePattern.bareName then none else some place, reason⟩

def patternAddress? (isExtended : Bool) (rest : Rest) : Reading (Option (EditPattern × Rest)) :=
  let start? : Option (Char × Rest) :=
    match rest.text with
    | '/' :: _ => some ('/', rest.drop 1)
    | '\\' :: c :: _ => some (c, rest.drop 2)
    | _ => none
  match start? with
  | none => .ok none
  | some (delimiter, start) => do
      match delimited delimiter true (start.text.length + 1) [] start with
      | none => start.refuse start.text.length "unterminated address regex"
      | some (text, rest) =>
          let (ignores, lines, rest) := patternFlags rest.text.length rest
          let (pattern, _) ← patternOf isExtended text ignores lines rest.place
          return some (pattern, rest)

def address? (isExtended : Bool) (rest : Rest) : Reading (Option (EditAddress × Rest)) := do
  match number rest with
  | some (first, behind) =>
      let behind' := behind.skip isBlank
      match behind'.text with
      | '~' :: _ =>
          match number ((behind'.drop 1).skip isBlank) with
          | some (size, behind) => return some (.step first size, behind)
          | none => return some (.step first 0, behind'.drop 1)
      | _ => return some (.line first, behind)
  | none =>
      match rest.text with
      | '$' :: _ => return some (.last, rest.drop 1)
      | _ =>
          return (← patternAddress? isExtended rest).map fun (pattern, rest) =>
            (.found pattern, rest)

def rangeEnd? (isExtended : Bool) (rest : Rest) : Reading (Option (EditEnd × Rest)) := do
  match rest.text with
  | '+' :: _ => return (number (rest.drop 1)).map fun (n, rest) => (.behind n, rest)
  | '~' :: _ => return (number (rest.drop 1)).map fun (n, rest) => (.multiple n, rest)
  | '$' :: _ => return some (.last, rest.drop 1)
  | _ =>
      match number rest with
      | some (n, rest) => return some (.line n, rest)
      | none =>
          return (← patternAddress? isExtended rest).map fun (pattern, rest) =>
            (.found pattern, rest)

def replacement (text : List Char) : List ReplacePart :=
  let rec parts : List Char → List Char → List ReplacePart
    | taken, [] => if taken.isEmpty then [] else [.text taken.reverse]
    | taken, '&' :: rest => .text taken.reverse :: .group 0 :: parts [] rest
    | taken, '\\' :: c :: rest =>
        let cases := [('U', CaseChange.upper), ('L', .lower), ('u', .nextUpper),
          ('l', .nextLower), ('E', .none)]
        if c.isDigit then .text taken.reverse :: .group (c.toNat - '0'.toNat) :: parts [] rest
        else
          match cases.lookup c with
          | some change => .text taken.reverse :: .case change :: parts [] rest
          | none => parts ((escapes.lookup c).getD c :: taken) rest
    | taken, c :: rest => parts (c :: taken) rest
  parts [] text

/-- The flags behind a substitution. -/
structure Flags where
  isGlobal : Bool
  isPrinted : Bool
  number? : Option Nat
  ignoresCase : Bool
  hasLines : Bool
  file? : Option String

def readFlags : Nat → Flags → Rest → Reading (Flags × Rest)
  | 0, flags, rest => .ok (flags, rest)
  | fuel + 1, flags, rest =>
      match rest.text with
      | [] => .ok (flags, rest)
      | c :: _ =>
          let next := rest.drop 1
          if c = 'g' then
            if flags.isGlobal then next.refuse 0 "multiple \x60g' options to \x60s' command"
            else readFlags fuel { flags with isGlobal := true } next
          else if c = 'p' then
            if flags.isPrinted then next.refuse 0 "multiple \x60p' options to \x60s' command"
            else readFlags fuel { flags with isPrinted := true } next
          else if c = 'i' || c = 'I' then readFlags fuel { flags with ignoresCase := true } next
          else if c = 'm' || c = 'M' then readFlags fuel { flags with hasLines := true } next
          else if c = 'w' then
            let path := (next.skip isBlank).text.takeWhile (· ≠ '\n')
            if path.isEmpty then next.refuse 0 "missing filename in r/R/w/W commands"
            else
              .ok ({ flags with file? := some (String.ofList path) },
                (next.skip isBlank).drop path.length)
          else if c.isDigit then
            match flags.number?, number rest with
            | some _, _ => next.refuse 0 "multiple number options to \x60s' command"
            | none, some (0, next) =>
                next.refuse 0 "number option to \x60s' command may not be zero"
            | none, some (n, next) => readFlags fuel { flags with number? := some n } next
            | none, none => .ok (flags, rest)
          else if isBlank c then readFlags fuel flags next
          else if c = '\n' || c = ';' || c = '\x7d' || c = '#' then .ok (flags, rest)
          else next.refuse 0 "unknown option to \x60s'"

def substitution (isExtended : Bool) (rest : Rest) : Reading (EditAction × Rest) := do
  let unterminated := rest.refuse rest.text.length "unterminated \x60s' command"
  match rest.text with
  | [] => unterminated
  | delimiter :: _ =>
      match delimited delimiter true (rest.text.length + 1) [] (rest.drop 1) with
      | none => unterminated
      | some (pattern, rest) =>
          match delimited delimiter false (rest.text.length + 1) [] rest with
          | none => unterminated
          | some (text, rest) =>
              let (flags, rest) ←
                readFlags (rest.text.length + 1) ⟨false, false, none, false, false, none⟩ rest
              let (pattern, groups) ←
                patternOf isExtended pattern flags.ignoresCase flags.hasLines rest.place
              let parts := replacement text
              let missing? := parts.findSome? fun part =>
                match part with
                | .group n => if n > groups then some n else none
                | _ => none
              match missing? with
              | some n =>
                  rest.refuse 0
                    ("invalid reference \\" ++ toString n ++ " on \x60s' command's RHS")
              | none =>
                  return (.substitute ⟨pattern, parts, flags.isGlobal, flags.number?.getD 1,
                    flags.isPrinted, flags.file?⟩, rest)

def unescapedChars : List Char → List Char
  | '\\' :: c :: rest =>
      if c = '\\' then '\\' :: unescapedChars rest
      else
        match escapes.lookup c with
        | some meant => meant :: unescapedChars rest
        | none => '\\' :: c :: unescapedChars rest
  | c :: rest => c :: unescapedChars rest
  | [] => []

def charMap (rest : Rest) : Reading (EditAction × Rest) := do
  let unterminated := rest.refuse rest.text.length "unterminated \x60y' command"
  match rest.text with
  | [] => unterminated
  | delimiter :: _ =>
      match delimited delimiter false (rest.text.length + 1) [] (rest.drop 1) with
      | none => unterminated
      | some (source, rest) =>
          match delimited delimiter false (rest.text.length + 1) [] rest with
          | none => unterminated
          | some (target, rest) =>
              let (source, target) := (unescapedChars source, unescapedChars target)
              if source.length ≠ target.length then
                rest.refuse 0 "strings for \x60y' command are different lengths"
              else return (.mapChars (source.zip target), rest)

/-- The text behind a command that brings some, up to a line break without a backslash. -/
def textLines : Nat → List Char → Rest → List Char × Rest
  | 0, taken, rest => (taken.reverse, rest)
  | fuel + 1, taken, rest =>
      match rest.text with
      | [] => (taken.reverse, rest)
      | '\\' :: c :: _ => textLines fuel (c :: taken) (rest.drop 2)
      | ['\\'] => (taken.reverse, rest.drop 1)
      | '\n' :: _ => (taken.reverse, rest.drop 1)
      | c :: _ => textLines fuel (c :: taken) (rest.drop 1)

def broughtText (rest : Rest) : Reading (List Char × Rest) := do
  let start := rest.skip isBlank
  if start.text.isEmpty then start.refuse 0 "expected \\ after \x60a', \x60c' or \x60i'"
  let start :=
    match start.text with
    | '\\' :: _ =>
        let behind := (start.drop 1).skip isBlank
        if behind.text.head? = some '\n' then behind.drop 1
        else if behind.text.isEmpty then behind else start.drop 1
    | _ => start
  let (text, rest) := textLines (start.text.length + 1) [] start
  return (if text.isEmpty then [] else text ++ ['\n'], rest)

def labelName (rest : Rest) : String × Rest :=
  let start := rest.skip isBlank
  let name := start.text.takeWhile fun c => c ≠ '\n' && c ≠ ';' && c ≠ '\x7d'
  (String.ofList (name.reverse.dropWhile isSpace).reverse, start.drop name.length)

def fileName (rest : Rest) : Reading (String × Rest) :=
  let start := rest.skip isBlank
  let name := start.text.takeWhile (· ≠ '\n')
  if name.isEmpty then rest.refuse 0 "missing filename in r/R/w/W commands"
  else .ok (String.ofList name, start.drop name.length)

def plainActions : List (Char × EditAction) :=
  [('d', .delete), ('D', .deleteFirst), ('=', .showNumber), ('F', .showName), ('g', .take),
    ('G', .takeMore), ('h', .keep), ('H', .keepMore), ('x', .exchange), ('n', .next),
    ('N', .nextMore), ('p', .print), ('P', .printFirst), ('z', .clear)]

/-- What has to follow a command: the end of the line, a semicolon or a closing brace. -/
def commandEnd (rest : Rest) : Reading Rest :=
  let rest := rest.skip isBlank
  match rest.text with
  | [] => .ok rest
  | '\n' :: _ | ';' :: _ => .ok (rest.drop 1)
  | '\x7d' :: _ | '#' :: _ => .ok rest
  | _ => rest.refuse 1 "extra characters after command"

def action (isExtended hasRange : Bool) (c : Char) (rest : Rest) : Reading (EditAction × Rest) := do
  let only (count : Option Nat) : Nat := count.getD 0
  match plainActions.lookup c with
  | some action => return (action, ← commandEnd rest)
  | none =>
      match c with
      | 's' => do
          let (action, rest) ← substitution isExtended rest
          return (action, ← commandEnd rest)
      | 'y' => do
          let (action, rest) ← charMap rest
          return (action, ← commandEnd rest)
      | 'a' | 'i' | 'c' => do
          let (text, rest) ← broughtText rest
          return (if c = 'a' then .append text else if c = 'i' then .insert text else .change text,
            rest)
      | 'b' | 't' | 'T' => do
          let (name, rest) := labelName rest
          let action := if c = 'b' then EditAction.branch name
            else if c = 't' then .branchIf name else .branchUnless name
          return (action, ← commandEnd rest)
      | 'r' | 'R' => do
          let (name, rest) ← fileName rest
          return (if c = 'r' then .read name else .readLine name, rest)
      | 'w' | 'W' => do
          let (name, rest) ← fileName rest
          return (if c = 'w' then .write name else .writeFirst name, rest)
      | 'v' => do
          let (_, rest) := labelName rest
          return (.nothing, ← commandEnd rest)
      | 'q' | 'Q' => do
          if hasRange then rest.refuse 0 "command only uses one address"
          let (code?, rest) :=
            match number (rest.skip isBlank) with
            | some (n, rest) => (some n, rest)
            | none => (none, rest)
          let code := only code?
          return (if c = 'q' then .quit code else .leave code, ← commandEnd rest)
      | 'l' => do
          let (width?, rest) :=
            match number (rest.skip isBlank) with
            | some (n, rest) => (some n, rest)
            | none => (none, rest)
          return (.list width?, ← commandEnd rest)
      | _ => rest.refuse 0 ("unknown command: \x60" ++ String.ofList [c] ++ "'")

/-- The commands read so far, the last one first, and the indexes of open blocks. -/
structure Progress where
  commands : List EditCommand
  opened : List Nat

def Progress.close (progress : Progress) (index : Nat) : Progress :=
  let count := progress.commands.length
  let commands := progress.commands.zipIdx.map fun (command, position) =>
    if count - 1 - position = index then { command with action := .block count } else command
  ⟨commands, progress.opened.tail⟩

def addresses (isExtended : Bool) (rest : Rest) :
    Reading (Option EditAddress × Option EditEnd × Rest) := do
  match ← address? isExtended rest with
  | none => return (none, none, rest)
  | some (first, rest) =>
      let behind := rest.skip isBlank
      match behind.text with
      | ',' :: _ =>
          let start := (behind.drop 1).skip isBlank
          match ← rangeEnd? isExtended start with
          | some (ending, rest) => return (some first, some ending, rest)
          | none => start.refuse 1 "unexpected \x60,'"
      | _ => return (some first, none, rest)

def readCommands (isExtended : Bool) : Nat → Progress → Rest → Reading Progress
  | 0, progress, _ => .ok progress
  | fuel + 1, progress, rest => do
      let rest := rest.skip fun c => isSpace c || c = ';'
      match rest.text with
      | [] =>
          if progress.opened.isEmpty then return progress
          else throw ⟨some 0, "unmatched \x60\x7b'"⟩
      | '#' :: _ =>
          readCommands isExtended fuel progress (rest.skip (· ≠ '\n'))
      | _ =>
          let (first?, last?, rest) ← addresses isExtended rest
          let rest := rest.skip isBlank
          let bangs := rest.text.takeWhile fun c => c = '!' || isBlank c
          let isNegated := bangs.contains '!'
          if bangs.countP (· = '!') > 1 then
            let front := (bangs.takeWhile (· ≠ '!')).length + 1
            let between := ((bangs.drop front).takeWhile (· ≠ '!')).length
            rest.refuse (front + between + 1) "multiple \x60!'s"
          let rest := rest.drop bangs.length
          let isEarly :=
            match first?, last? with
            | some (.line 0), some (.found _) => true
            | _, _ => false
          let isZero := match first? with | some (.line 0) => true | _ => false
          match rest.text with
          | [] => rest.refuse 0 "missing command"
          | c :: _ =>
              let next := rest.drop 1
              if isZero && !isEarly then next.refuse 0 "invalid usage of line address 0"
              let add (action : EditAction) : Progress :=
                { progress with
                  commands := ⟨first?, last?, isEarly, isNegated, action⟩ :: progress.commands }
              match c with
              | '#' => next.refuse 0 "comments don't accept any addresses"
              | ':' => do
                  if first?.isSome then next.refuse 0 ": doesn't want any addresses"
                  let start := next.skip isBlank
                  let name := start.text.takeWhile fun c => !isSpace c && c ≠ ';'
                  if name.isEmpty then start.refuse 0 "\":\" lacks a label"
                  readCommands isExtended fuel (add (.label (String.ofList name)))
                    (start.drop name.length)
              | '\x7b' =>
                  let added := add (.block 0)
                  readCommands isExtended fuel
                    { added with opened := progress.commands.length :: progress.opened } next
              | '\x7d' =>
                  match progress.opened with
                  | [] => next.refuse 0 "unexpected \x60\x7d'"
                  | index :: _ =>
                      if first?.isSome then
                        next.refuse 0 "\x7d doesn't want any addresses"
                      let rest ← commandEnd next
                      readCommands isExtended fuel (progress.close index) rest
              | _ => do
                  let (action, rest) ← action isExtended last?.isSome c next
                  readCommands isExtended fuel (add action) rest

def read (isExtended : Bool) (text : List Char) : Reading (List EditCommand) := do
  let progress ← readCommands isExtended (text.length + 2) ⟨[], []⟩ ⟨text, 0⟩
  return progress.commands.reverse

end EditScript
end CallScript.Shell
