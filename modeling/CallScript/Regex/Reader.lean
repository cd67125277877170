import CallScript.Regex.Nesting
import CallScript.Text.Alphabetic
import CallScript.Text.Numeric
import CallScript.Text.WhiteSpace

/-!
# Reading search patterns

A pattern is read from left to right by recursive descent, and the first mistake ends the reading.
-/

namespace CallScript.Regex

/-- What is still to be read. -/
structure Cursor where
  rest : List Char
  position : Nat
  verbose : Bool
  names : List (String × Span)

abbrev Reading := StateT Cursor (Except Problem)

def fail {α : Type} (kind : Problem.Kind) (span : Span) : Reading α :=
  throw (.mistake kind span none)

def current? : Reading (Option Char) := return (← get).rest.head?

def position : Reading Nat := return (← get).position

def atEnd : Reading Bool := return (← get).rest.isEmpty

def advanceBy (count : Nat) : Reading Unit :=
  modify fun cursor =>
    { cursor with
      rest := cursor.rest.drop count
      position := cursor.position + (cursor.rest.take count).length }

def advance : Reading Unit := advanceBy 1

def blankLength : Bool → List Char → Nat
  | _, [] => 0
  | true, c :: rest => 1 + blankLength (c ≠ '\n') rest
  | false, c :: rest =>
      if Text.isWhiteSpace c then 1 + blankLength false rest
      else if c = '#' then 1 + blankLength true rest
      else 0

def skipBlank : Reading Unit := do
  let cursor ← get
  if cursor.verbose then advanceBy (blankLength false cursor.rest)

/-- Passes over a character and what means nothing behind it; says whether something is left. -/
def advanceOn : Reading Bool := do
  advance
  skipBlank
  return !(← atEnd)

def skipText (text : String) : Reading Bool := do
  if text.toList.isPrefixOf (← get).rest then
    advanceBy text.length
    return true
  else return false

def next? : Reading (Option Char) := do
  let cursor ← get
  let behind := cursor.rest.drop 1
  return (if cursor.verbose then behind.drop (blankLength false behind) else behind).head?

def setVerbose (change : FlagChange) : Reading Unit :=
  modify fun cursor => { cursor with verbose := (change.lookup .verbose).getD cursor.verbose }

/-- The characters at the front that pass a test; `step` passes over one of them. -/
def collectWithin (test : Char → Bool) (step : Reading Unit) : Nat → Reading (List Char)
  | 0 => return []
  | fuel + 1 => do
      let some c ← current? | return []
      if test c then
        step
        return c :: (← collectWithin test step fuel)
      else return []

def collect (test : Char → Bool) (step : Reading Unit) : Reading (List Char) := do
  collectWithin test step (← get).rest.length

/-! ## Repetition -/

def digitsValue (base : Nat) (digits : List Char) : Nat :=
  digits.foldl
    (fun value c =>
      let digit :=
        if c.isDigit then c.toNat - 48
        else if 'a' ≤ c then c.toNat - 87
        else c.toNat - 55
      base * value + digit) 0

/-- A decimal number. A mistake in it may yet give way to another one. -/
def readDecimal : Reading (Except Problem Nat) := do
  let _ ← collect Text.isWhiteSpace advance
  let first ← position
  let digits ← collect Char.isDigit (discard advanceOn)
  let span : Span := ⟨first, ← position⟩
  let _ ← collect Text.isWhiteSpace (discard advanceOn)
  if digits.isEmpty then return .error (.mistake .countMissing span none)
  else if digitsValue 10 digits < 0x100000000 then return .ok (digitsValue 10 digits)
  else return .error (.mistake .numberTooLarge span none)

def readCount : Reading (Nat × Option Nat) := do
  let start ← position
  let unclosed {α : Type} : Reading α := do fail .countUnclosed ⟨start, ← position⟩
  unless ← advanceOn do unclosed
  let least ← readDecimal
  let bounds ← do
    match ← current? with
    | none => unclosed
    | some ',' =>
        unless ← advanceOn do unclosed
        if (← current?) = some '\x7d' then pure ((← liftM least), none)
        else
          let least ← liftM least
          pure (least, some (← liftM (← readDecimal)))
    | some _ =>
        let exactly ← liftM least
        pure (exactly, some exactly)
  unless (← current?) = some '\x7d' do unclosed
  if ← advanceOn then
    if (← current?) = some '?' then advance
  if bounds.2.any (· < bounds.1) then fail .countInvalid ⟨start, ← position⟩
  return bounds

/-! ## Escapes -/

def isMeta (c : Char) : Bool :=
  ['\\', '.', '+', '*', '?', '(', ')', '|', '[', ']', '\x7b', '\x7d', '^', '$', '#', '&', '-',
    '~'].contains c

def isPlainEscape (c : Char) : Bool :=
  isMeta c || (c.toNat < 128 && !c.isAlphanum && c ≠ '<' && c ≠ '>')

def isHexDigit (c : Char) : Bool :=
  c.isDigit || ('a' ≤ c && c ≤ 'f') || ('A' ≤ c && c ≤ 'F')

def charOf? (digits : List Char) : Option Char :=
  let n := digitsValue 16 digits
  if n.isValidChar then some (Char.ofNat n) else none

def readHexDigits (start count : Nat) : Reading Letter := do
  let first ← position
  let digits ← collectDigits count
  let past ← position
  let some c := charOf? digits | fail .hexInvalid ⟨first, past⟩
  return ⟨⟨start, past⟩, c, count = 2⟩
where
  collectDigits : Nat → Reading (List Char)
    | 0 => return []
    | count + 1 => do
        let some c ← current? | fail .escapeUnfinished (.place (← position))
        unless isHexDigit c do fail .hexDigit (.single (← position))
        let _ ← advanceOn
        return c :: (← collectDigits count)

def readHexBraces (start : Nat) : Reading Letter := do
  let brace ← position
  let _ ← advanceOn
  let digits ← collect isHexDigit (discard advanceOn)
  let past ← position
  match ← current? with
  | none => fail .escapeUnfinished ⟨brace, past⟩
  | some '\x7d' =>
      let _ ← advanceOn
      if digits.isEmpty then fail .hexEmpty ⟨brace, ← position⟩
      let some c := charOf? digits | fail .hexInvalid ⟨brace + 1, past⟩
      return ⟨⟨start, ← position⟩, c, false⟩
  | some _ => fail .hexDigit (.single past)

def readProperty (start : Nat) : Reading SetItem := do
  unless ← advanceOn do fail .escapeUnfinished (.place (← position))
  if (← current?) = some '\x7b' then
    let _ ← advanceOn
    let name ← collect (· ≠ '\x7d') (discard advanceOn)
    if ← atEnd then fail .escapeUnfinished (.place (← position))
    advance
    return .property ⟨start, ← position⟩ (String.ofList name)
  else
    let c := (← current?).getD ' '
    if c = '\\' then fail .propertyInvalid (.single (← position))
    let _ ← advanceOn
    return .property ⟨start, ← position⟩ (String.ofList [c])

/-- The name in braces behind a word boundary. Where none can stand there, nothing is read. -/
def readBoundary (start : Nat) : Reading Assertion := do
  let before ← get
  unless before.rest.head? = some '\x7b' do return .wordBoundary
  unless ← advanceOn do fail .boundaryUnfinished ⟨start, ← position⟩
  let isNamePart (c : Char) : Bool := c.isAlpha || c = '-'
  let first ← position
  unless (← current?).any isNamePart do
    set before
    return .wordBoundary
  let name ← collect isNamePart (discard advanceOn)
  let past ← position
  unless (← current?) = some '\x7d' do fail .boundaryUnclosed ⟨before.position, past⟩
  advance
  match String.ofList name with
  | "start" => return .wordStart
  | "end" => return .wordEnd
  | "start-half" => return .wordStartHalf
  | "end-half" => return .wordEndHalf
  | _ => fail .boundaryUnknown ⟨first, past⟩

def escapedChars : List (Char × Char) :=
  [('a', '\x07'), ('f', '\x0c'), ('t', '\t'), ('n', '\n'), ('r', '\r'), ('v', '\x0b')]

def escapedAssertions : List (Char × Assertion) :=
  [('A', .textStart), ('z', .textEnd), ('B', .notWordBoundary), ('<', .wordStart), ('>', .wordEnd)]

def shorthands : List (Char × Shorthand × Bool) :=
  [('d', .digit, false), ('D', .digit, true), ('s', .space, false), ('S', .space, true),
    ('w', .word, false), ('W', .word, true)]

def readEscape : Reading (Span × Expression) := do
  let start ← position
  advance
  let some c ← current? | fail .escapeUnfinished ⟨start, ← position⟩
  if c.isDigit then fail .backreference ⟨start, start + 2⟩
  else if c = 'x' || c = 'u' || c = 'U' then
    unless ← advanceOn do fail .escapeUnfinished (.place (← position))
    let letter ←
      if (← current?) = some '\x7b' then readHexBraces start
      else readHexDigits start (if c = 'x' then 2 else if c = 'u' then 4 else 8)
    return (letter.span, .letter letter)
  else if c = 'p' || c = 'P' then
    let item ← readProperty start
    return (⟨start, ← position⟩, .set item)
  else
    advance
    let span : Span := ⟨start, ← position⟩
    if let some (kind, negated) := shorthands.lookup c then
      return (span, .set (.shorthand span kind negated))
    else if isPlainEscape c then return (span, .letter ⟨span, c, false⟩)
    else if let some d := escapedChars.lookup c then return (span, .letter ⟨span, d, false⟩)
    else if let some kind := escapedAssertions.lookup c then return (span, .assertion kind)
    else if c = 'b' then
      let kind ← readBoundary start
      return (⟨start, ← position⟩, .assertion kind)
    else fail .escapeUnknown span

/-! ## Sets of characters -/

def readMember : Reading (Span × Expression) := do
  if (← current?) = some '\\' then readEscape
  else
    let span := Span.single (← position)
    let c := (← current?).getD ' '
    advance
    return (span, .letter ⟨span, c, false⟩)

def memberItem : Span × Expression → Reading SetItem
  | (_, .letter letter) => return .single letter
  | (_, .set item) => return item
  | (span, _) => fail .setEscape span

def memberLetter : Span × Expression → Reading Letter
  | (_, .letter letter) => return letter
  | (span, _) => fail .setBoundary span

/-- A single member of a set, or a range; `opened` is the start of the set. -/
def readRange (opened : Span) : Reading SetItem := do
  let low ← readMember
  skipBlank
  if ← atEnd then fail .setUnclosed opened
  let behind ← next?
  if (← current?) ≠ some '-' || behind = some ']' || behind = some '-' then memberItem low
  else
    unless ← advanceOn do fail .setUnclosed opened
    let high ← readMember
    let first ← memberLetter low
    let last ← memberLetter high
    if last.char < first.char then fail .setRange ⟨low.1.first, high.1.past⟩
    return .range first last

def namedClass? (text : List Char) : Option (String × Bool × Nat) :=
  match text with
  | '[' :: ':' :: rest =>
      let negated := rest.head? = some '^'
      let inner := if negated then rest.drop 1 else rest
      let name := inner.takeWhile (· ≠ ':')
      match inner.drop name.length with
      | ':' :: ']' :: _ =>
          if (namedClasses.lookup (String.ofList name)).isSome then
            some (String.ofList name, negated, name.length + if negated then 5 else 4)
          else none
      | _ => none
  | _ => none

/-- The start of a set: its span, whether the set is negated, and the members that stand for
themselves only here. -/
def readOpening : Reading (Span × Bool × List SetItem) := do
  let start ← position
  let unclosed {α : Type} : Reading α := do fail .setUnclosed ⟨start, ← position⟩
  unless ← advanceOn do unclosed
  let negated := (← current?) = some '^'
  if negated then
    unless ← advanceOn do unclosed
  let first ← position
  let hyphens ← collect (· = '-') (discard advanceOn)
  if !hyphens.isEmpty && (← atEnd) then fail .setUnclosed (.place start)
  let item (c : Char) : SetItem := .single ⟨.single first, c, false⟩
  if hyphens.isEmpty && (← current?) = some ']' then
    unless ← advanceOn do unclosed
    return (⟨start, ← position⟩, negated, [item ']'])
  else return (⟨start, ← position⟩, negated, hyphens.map item)

def setOperation? (c : Char) : Option SetOperation :=
  [('&', SetOperation.intersection), ('-', .difference), ('~', .symmetricDifference)].lookup c

def joinSet (place : Nat) (items : List SetItem) : Option (SetOperation × CharSet) → CharSet
  | none => .items place items
  | some (kind, left) => .operation kind left (.items place items)

mutual

def readBracket : Nat → Reading SetItem
  | 0 => do fail .setUnclosed (.single (← position))
  | fuel + 1 => do
      let start ← position
      let (opened, negated, items) ← readOpening
      let set ← readSet fuel opened opened.past items none
      return .bracket ⟨start, ← position⟩ negated set

def readSet : Nat → Span → Nat → List SetItem → Option (SetOperation × CharSet) → Reading CharSet
  | 0, opened, _, _, _ => fail .setUnclosed opened
  | fuel + 1, opened, place, items, before? => do
      skipBlank
      let some c ← current? | fail .setUnclosed opened
      let rest := (← get).rest
      if c = '[' then
        match namedClass? rest with
        | some (name, negated, length) =>
            let start ← position
            advanceBy length
            readSet fuel opened place (items ++ [.named ⟨start, ← position⟩ name negated]) before?
        | none => readSet fuel opened place (items ++ [← readBracket fuel]) before?
      else if c = ']' then
        advance
        return joinSet place items before?
      else
        match setOperation? c with
        | some kind =>
            if rest.drop 1 |>.head? |>.any (· = c) then
              advanceBy 2
              readSet fuel opened (← position) [] (some (kind, joinSet place items before?))
            else readSet fuel opened place (items ++ [← readRange opened]) before?
        | none => readSet fuel opened place (items ++ [← readRange opened]) before?

end

/-! ## Groups -/

def flagOf? (c : Char) : Option Flag :=
  [('i', Flag.ignoreCase), ('m', .multiLine), ('s', .dotAll), ('U', .swapGreed), ('u', .codePoints),
    ('R', .linePairs), ('x', .verbose)].lookup c

/-- The flags up to a colon or a parenthesis; a hyphen is listed without a flag. -/
def readFlagItems : Nat → List (Option Flag × Span) → Reading (List (Option Flag × Span))
  | 0, _ => do fail .flagUnfinished (.place (← position))
  | fuel + 1, items => do
      let some c ← current? | fail .flagUnfinished (.place (← position))
      if c = ':' || c = ')' then return items
      let span := Span.single (← position)
      let flag? ←
        if c = '-' then pure none
        else
          match flagOf? c with
          | some flag => pure (some flag)
          | none => fail .flagUnknown span
      if let some first := items.lookup flag? then
        throw (.mistake (if c = '-' then .flagNegatedTwice else .flagTwice) span (some first))
      advance
      readFlagItems fuel (items ++ [(flag?, span)])

def flagChange : Bool → List (Option Flag × Span) → FlagChange
  | _, [] => []
  | _, (none, _) :: items => flagChange false items
  | on, (some flag, _) :: items => (flag, on) :: flagChange on items

def readFlags : Reading (List (Option Flag × Span)) := do
  let items ← readFlagItems ((← get).rest.length + 1) []
  if let some (none, span) := items.getLast? then fail .flagDangling span
  return items

def isGroupNameStart (c : Char) : Bool := c = '_' || Text.isAlphabetic c

def isGroupNamePart (c : Char) : Bool :=
  isGroupNameStart c || c = '.' || c = '[' || c = ']' || Text.isNumeric c

def readGroupName : Reading Unit := do
  if ← atEnd then fail .nameUnfinished (.place (← position))
  let start ← position
  let name ←
    if (← current?).any isGroupNameStart then collect isGroupNamePart advance else pure []
  let past ← position
  match ← current? with
  | none => fail .nameUnfinished (.place past)
  | some '>' =>
      advance
      if name.isEmpty then fail .nameEmpty (.place start)
      let names := (← get).names
      if let some first := names.lookup (String.ofList name) then
        throw (.mistake .nameTwice ⟨start, past⟩ (some first))
      modify fun cursor =>
        { cursor with names := (String.ofList name, ⟨start, past⟩) :: cursor.names }
  | some _ => fail .nameInvalid (.single past)

/-- How a parenthesis goes on. -/
inductive GroupStart where
  | flags (change : FlagChange)
  | body (captures : Bool) (change : FlagChange)

def readGroupStart : Reading GroupStart := do
  let opened := Span.single (← position)
  advance
  skipBlank
  for mark in ["?=", "?!", "?<=", "?<!"] do
    if ← skipText mark then fail .lookAround ⟨opened.first, ← position⟩
  let inner := Span.place (← position)
  if ← skipText "?P<" then
    readGroupName
    return .body true []
  else if ← skipText "?<" then
    readGroupName
    return .body true []
  else if ← skipText "?" then
    if ← atEnd then fail .groupUnclosed opened
    let items ← readFlags
    let ending ← current?
    advance
    if ending = some ')' then
      if items.isEmpty then fail .nothingToRepeat inner
      return .flags (flagChange true items)
    else return .body false (flagChange true items)
  else return .body true []

def signBounds? (c : Char) : Option (Nat × Option Nat) :=
  [('?', (0, some 1)), ('*', (0, none)), ('+', (1, none))].lookup c

/-- What has been read of a group or of the whole pattern, the last option and the last part first.
Each part comes with the place where it begins. -/
structure Body where
  start : Nat
  optionStart : Nat
  options : List Expression
  parts : List (Nat × Expression)

namespace Body

def startingAt (place : Nat) : Body := ⟨place, place, [], []⟩

def add (body : Body) (start : Nat) (part : Expression) : Body :=
  { body with parts := (start, part) :: body.parts }

def optionsUpTo (body : Body) (past : Nat) : List Expression :=
  .sequence ⟨body.optionStart, past⟩ (body.parts.reverse.map (·.2)) :: body.options

/-- Ends an option at a place; the next one begins behind the sign there. -/
def nextOption (body : Body) (past : Nat) : Body :=
  { body with optionStart := past + 1, options := body.optionsUpTo past, parts := [] }

def finish (body : Body) (past : Nat) : Expression :=
  match body.optionsUpTo past with
  | [only] => only
  | options => .choice ⟨body.start, past⟩ options.reverse

/-- Repeats the last part; the repetition ends at a place. -/
def repeatLast (body : Body) (bounds : Nat × Option Nat) (past : Nat) : Body :=
  match body.parts with
  | [] => body
  | (start, last) :: parts =>
      { body with parts := (start, .repeated ⟨start, past⟩ bounds.1 bounds.2 last) :: parts }

def isRepeatable (body : Body) : Bool :=
  match body.parts with
  | [] | (_, .flags _) :: _ => false
  | _ => true

end Body

def readBody : Nat → Option Span → Body → Reading Expression
  | 0, _, _ => do fail .groupUnclosed (.place (← position))
  | fuel + 1, opened?, body => do
      skipBlank
      let here ← position
      match ← current? with
      | none =>
          match opened? with
          | some opened => fail .groupUnclosed opened
          | none => return body.finish here
      | some c =>
          if c = '(' then
            match ← readGroupStart with
            | .flags change =>
                setVerbose change
                readBody fuel opened? (body.add here (.flags change))
            | .body captures change =>
                let outer := (← get).verbose
                setVerbose change
                let inner ← readBody fuel (some (.single here)) (.startingAt (← position))
                modify fun cursor => { cursor with verbose := outer }
                let span : Span := ⟨here, ← position⟩
                readBody fuel opened? (body.add here (.group span captures change inner))
          else if c = ')' then
            if opened?.isNone then fail .groupUnopened (.single here)
            advance
            return body.finish here
          else if c = '|' then
            advance
            readBody fuel opened? (body.nextOption here)
          else if c = '[' then
            let item ← readBracket fuel
            readBody fuel opened? (body.add here (.set item))
          else if c = '\x7b' then
            unless body.isRepeatable do fail .nothingToRepeat (.place here)
            let bounds ← readCount
            readBody fuel opened? (body.repeatLast bounds (← position))
          else
            match signBounds? c with
            | some bounds =>
                unless body.isRepeatable do fail .nothingToRepeat (.place here)
                advance
                if (← current?) = some '?' then advance
                readBody fuel opened? (body.repeatLast bounds (← position))
            | none =>
                if c = '\\' then
                  let (_, expression) ← readEscape
                  readBody fuel opened? (body.add here expression)
                else
                  advance
                  let expression : Expression :=
                    if c = '.' then .dot (.single here)
                    else if c = '^' then .assertion .lineStart
                    else if c = '$' then .assertion .lineEnd
                    else .letter ⟨.single here, c, false⟩
                  readBody fuel opened? (body.add here expression)

def Expression.ofText (text : String) : Except Problem Expression := do
  let cursor : Cursor := ⟨text.toList, 0, false, []⟩
  let (expression, _) ← (readBody (text.length + 1) none (.startingAt 0)).run cursor
  match expression.tooDeep? Problem.nestLimit with
  | some span => throw (.mistake .nestedTooDeep span none)
  | none => return expression

end CallScript.Regex
