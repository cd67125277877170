import CallScript.Shell.Number
import CallScript.Shell.Pattern

/-!
# Patterns of lines

The regular expressions by which lines are searched. Of all matches the one that begins first is
taken, and of those that begin there the longest; within it each part, from the left, is as long as
it can be.

A pattern is matched by finding the places that can be reached from a place, the most preferred way
to each of them. Each place is kept once, so that the number of ways does not grow.
-/

namespace CallScript.Shell

inductive LinePattern where
  | nothing
  | any
  | set (negated : Bool) (choices : List Pattern.Choice)
  | sequence (first second : LinePattern)
  | either (first second : LinePattern)
  | star (body : LinePattern)
  | group (number : Nat) (body : LinePattern)
  | back (number : Nat)
  | lineStart
  | lineEnd
  /-- A place between characters, by whether a word is in front and whether one is behind. -/
  | between (holds : Bool → Bool → Bool)

namespace LinePattern

def literal (c : Char) : LinePattern := .set false [.range c c]

/-! ## Matching -/

/-- A place in a text, with the places where groups begin and end. -/
structure Reach where
  place : Nat
  groups : List (Nat × Nat × Nat)

/-- A text that is searched. -/
structure Subject where
  text : Array Char
  ignoresCase : Bool
  hasLines : Bool

namespace Subject

def same (subject : Subject) (a b : Char) : Bool :=
  a = b || (subject.ignoresCase && a.toLower = b.toLower)

def accepts (subject : Subject) (choices : List Pattern.Choice) (c : Char) : Bool :=
  let holds (c : Char) : Bool := choices.any fun choice => choice.accepts c
  holds c || (subject.ignoresCase && (holds c.toLower || holds c.toUpper))

def isWord (subject : Subject) (place : Nat) : Bool :=
  (subject.text[place]?).any fun c => c.isAlphanum || c = '_'

def isStart (subject : Subject) (place : Nat) : Bool :=
  place = 0 || (subject.hasLines && subject.text[place - 1]? = some '\n')

def isEnd (subject : Subject) (place : Nat) : Bool :=
  place = subject.text.size || (subject.hasLines && subject.text[place]? = some '\n')

def repeats (subject : Subject) (start count place : Nat) : Bool :=
  (List.range count).all fun n =>
    match subject.text[start + n]?, subject.text[place + n]? with
    | some a, some b => subject.same a b
    | _, _ => false

end Subject

def keepFirst (size : Nat) (ways : List Reach) : List Reach :=
  let (kept, _) := ways.foldl
    (fun ((kept, seen) : List Reach × Array Bool) way =>
      if (seen[way.place]?).getD true then (kept, seen)
      else (way :: kept, seen.set! way.place true))
    ([], Array.replicate (size + 1) false)
  kept.reverse

def farthestFirst (ways : List Reach) : List Reach :=
  ways.mergeSort fun a b => b.place ≤ a.place

/-- The places that repeated steps lead to. The first list holds the ways that are still to be gone
on from. -/
def stepsFrom (size : Nat) (step : Reach → List Reach) : Nat → List Reach → List Reach → List Reach
  | 0, _, found => found.reverse
  | _, [], found => found.reverse
  | fuel + 1, way :: ways, found =>
      if found.any fun other => other.place = way.place then stepsFrom size step fuel ways found
      else
        let next := (step way).filter fun other => way.place < other.place
        stepsFrom size step fuel (next ++ ways) (way :: found)

def reach (subject : Subject) : LinePattern → Reach → List Reach
  | .nothing, way => [way]
  | .any, way => if way.place < subject.text.size then [{ way with place := way.place + 1 }] else []
  | .set negated choices, way =>
      match subject.text[way.place]? with
      | some c =>
          if subject.accepts choices c != negated then [{ way with place := way.place + 1 }] else []
      | none => []
  | .sequence first second, way =>
      keepFirst subject.text.size ((reach subject first way).flatMap (reach subject second))
  | .either first second, way =>
      keepFirst subject.text.size
        (farthestFirst (reach subject first way ++ reach subject second way))
  | .star body, way =>
      let limit := (subject.text.size + 2) * (subject.text.size + 2)
      farthestFirst (stepsFrom subject.text.size (reach subject body) limit [way] [])
  | .group number body, way =>
      (farthestFirst (reach subject body way)).map fun other =>
        { other with
          groups := (number, way.place, other.place) ::
            other.groups.filter fun group => group.1 ≠ number }
  | .back number, way =>
      match way.groups.lookup number with
      | some (first, last) =>
          if subject.repeats first (last - first) way.place then
            [{ way with place := way.place + (last - first) }]
          else []
      | none => []
  | .lineStart, way => if subject.isStart way.place then [way] else []
  | .lineEnd, way => if subject.isEnd way.place then [way] else []
  | .between holds, way =>
      let front := way.place > 0 && subject.isWord (way.place - 1)
      if holds front (subject.isWord way.place) then [way] else []

/-- A match: where it begins and ends, and its groups. -/
structure Found where
  first : Nat
  last : Nat
  groups : List (Nat × Nat × Nat)

def matchAt? (subject : Subject) (pattern : LinePattern) (start : Nat) : Option Found :=
  (farthestFirst (reach subject pattern ⟨start, []⟩)).head?.map fun way =>
    ⟨start, way.place, way.groups⟩

def find? (subject : Subject) (pattern : LinePattern) (start : Nat) : Option Found :=
  (List.range (subject.text.size + 1 - start)).findSome? fun n =>
    matchAt? subject pattern (start + n)

/-- The part of a text that a group has matched; group zero is the whole match. -/
def Found.part (found : Found) (text : Array Char) (number : Nat) : List Char :=
  let range? := if number = 0 then some (found.first, found.last) else found.groups.lookup number
  (range?.map fun (first, last) => (text.extract first last).toList).getD []

/-! ## Reading -/

/-- How patterns are spelled. -/
structure Spelling where
  isExtended : Bool
  escapes : List (Char × Char)
  isStrict : Bool
  refusesBareNames : Bool

/-- What is left to be read, how many groups there are so far, and the operators, the last one
first, that have been skipped because they have nothing to work on. -/
structure Rest where
  text : List Char
  groups : Nat
  skipped : List String

def wordChoices : List Pattern.Choice := [.named Char.isAlphanum, .range '_' '_']

def spaceChoices : List Pattern.Choice :=
  [.named ((charClasses.lookup "space").getD fun _ => false)]

/-- What a letter behind a backslash matches, where it is no operator of one of the spellings. -/
def escapeOf? (c : Char) : Option LinePattern :=
  match c with
  | 'w' => some (.set false wordChoices)
  | 'W' => some (.set true wordChoices)
  | 's' => some (.set false spaceChoices)
  | 'S' => some (.set true spaceChoices)
  | 'b' => some (.between fun front behind => front != behind)
  | 'B' => some (.between fun front behind => front == behind)
  | '<' => some (.between fun front behind => !front && behind)
  | '>' => some (.between fun front behind => front && !behind)
  | '\x60' => some .lineStart
  | '\'' => some .lineEnd
  | _ => none

/-- What stands between brackets with a mark inside of them, and what is behind. -/
def splitMark (mark : Char) : List Char → List Char → Option (List Char × List Char)
  | inner, c :: ']' :: rest =>
      if c = mark then some (inner.reverse, rest) else splitMark mark (c :: inner) (']' :: rest)
  | inner, c :: rest => splitMark mark (c :: inner) rest
  | _, [] => none

def openBracket : String := "Unmatched [, [^, [:, [., or [="

/-- A single member of a set that can begin or end a range, and what is behind it. -/
def setChar (spelling : Spelling) : List Char → Except String (Char × List Char)
  | '[' :: mark :: rest =>
      if mark = '.' || mark = '=' then
        match splitMark mark [] rest with
        | some ([c], rest) => .ok (c, rest)
        | some _ => .error "Invalid collation character"
        | none => .error openBracket
      else .ok ('[', mark :: rest)
  | '\\' :: c :: rest =>
      match spelling.escapes.lookup c with
      | some meant => .ok (meant, rest)
      | none => .ok ('\\', c :: rest)
  | c :: rest => .ok (c, rest)
  | [] => .error openBracket

def setMembers (spelling : Spelling) :
    Nat → Bool → List Char → Except String (List Pattern.Choice × List Char)
  | 0, _, _ => .error openBracket
  | _, isFirst, [] => .error (if isFirst then "Invalid regular expression" else openBracket)
  | fuel + 1, isFirst, text => do
      match text with
      | ']' :: rest => if !isFirst then return ([], rest)
      | _ => pure ()
      match text with
      | '[' :: ':' :: rest =>
          match splitMark ':' [] rest with
          | none => throw openBracket
          | some (name, rest) =>
              match charClasses.lookup (String.ofList name) with
              | none => throw "Invalid character class name"
              | some holds =>
                  let (others, rest) ← setMembers spelling fuel false rest
                  return (.named holds :: others, rest)
      | _ =>
          let (first, rest) ← setChar spelling text
          match rest with
          | '-' :: next :: _ =>
              if next = ']' then
                let (others, rest) ← setMembers spelling fuel false rest
                return (.range first first :: others, rest)
              else
                let (last, rest) ← setChar spelling rest.tail
                if last < first then throw "Invalid range end"
                let (others, rest) ← setMembers spelling fuel false rest
                return (.range first last :: others, rest)
          | _ =>
              let (others, rest) ← setMembers spelling fuel false rest
              return (.range first first :: others, rest)

/-- The operators of patterns. -/
inductive Operator where
  | opening
  | closing
  | either
  | star
  | some
  | optional
  | interval
deriving DecidableEq

def operator? (spelling : Spelling) (text : List Char) : Option (Operator × List Char) :=
  let named : List (Char × Operator) :=
    [('(', .opening), (')', .closing), ('|', .either), ('+', .some), ('?', .optional),
      ('{', .interval)]
  match text with
  | '*' :: rest => .some (.star, rest)
  | '\\' :: c :: rest =>
      if spelling.isExtended then .none else (named.lookup c).map fun operator => (operator, rest)
  | c :: rest =>
      if spelling.isExtended then (named.lookup c).map fun operator => (operator, rest) else .none
  | [] => .none

def repeatLimit : Nat := 32767

/-- What stands behind the opening of an interval. -/
inductive Interval where
  | bounds (least : Nat) (most? : Option Nat) (rest : List Char)
  | broken (isOpen : Bool)
  | refused (text : String)

def intervalEnd (spelling : Spelling) : List Char :=
  if spelling.isExtended then ['\x7d'] else ['\\', '\x7d']

/-- The characters of a bound, up to a comma or the closing of the interval, and what is behind. -/
def bound (spelling : Spelling) : List Char → List Char × List Char
  | [] => ([], [])
  | c :: rest =>
      if c = ',' || (intervalEnd spelling).isPrefixOf (c :: rest) then ([], c :: rest)
      else
        let (inner, behind) := bound spelling rest
        (c :: inner, behind)

def badInterval : String := "Invalid content of \\\x7b\\\x7d"

def interval (spelling : Spelling) (text : List Char) : Interval :=
  let (low, behind) := bound spelling text
  let (high?, behind) : Option (List Char) × List Char :=
    match behind with
    | ',' :: rest =>
        let (high, behind) := bound spelling rest
        (some high, behind)
    | _ => (none, behind)
  let isNumber (digits : List Char) : Bool := digits.all Char.isDigit
  let least := Number.ofDigits 10 low
  let most? :=
    match high? with
    | none => some least
    | some high => if high.isEmpty then none else some (Number.ofDigits 10 high)
  if low.isEmpty && high?.isNone && !behind.isEmpty then .refused badInterval
  else if behind.isEmpty || !isNumber low || !(high?.all isNumber) then .broken behind.isEmpty
  else if behind.head? = some ',' then .refused badInterval
  else if most?.any fun most => most < least then .refused badInterval
  else if most?.getD least > repeatLimit then .refused "Regular expression too big"
  else .bounds least most? (behind.drop (intervalEnd spelling).length)

def repeated (least : Nat) (most? : Option Nat) (body : LinePattern) : LinePattern :=
  let chain (count : Nat) (last : LinePattern) : LinePattern :=
    (List.range count).foldl (fun chain _ => .sequence body chain) last
  match most? with
  | none => chain least (.star body)
  | some most =>
      let optional := (List.range (most - least)).foldl
        (fun chain _ => .either (.sequence body chain) .nothing) .nothing
      chain least optional

def badOperand : String := "Invalid preceding regular expression"

def bareName : String := "character class syntax is [[:space:]], not [:space:]"

/-- Whether the members of a set, which stand in front of a rest, are single characters between
colons. -/
def isBareName (text behind : List Char) : Bool :=
  let inner := text.take (text.length - behind.length - 1)
  inner.head? = some ':' && inner.getLast? = some ':' && inner.any (· ≠ ':') &&
    !inner.contains '[' && !(inner.drop 1).dropLast.contains '-'

def isEndPlace (spelling : Spelling) (rest : List Char) : Bool :=
  spelling.isExtended || rest.isEmpty ||
    (operator? spelling rest).any fun operator => operator.1 = .closing || operator.1 = .either

mutual

def readEither (spelling : Spelling) : Nat → Nat → Rest → Except String (LinePattern × Rest)
  | 0, _, _ => .error "Regular expression too big"
  | fuel + 1, depth, rest => do
      let (first, rest) ← readSequence spelling fuel depth true .nothing rest
      match operator? spelling rest.text with
      | some (.either, text) =>
          let (second, rest) ← readEither spelling fuel depth { rest with text := text }
          return (.either first second, rest)
      | _ => return (first, rest)

def readSequence (spelling : Spelling) :
    Nat → Nat → Bool → LinePattern → Rest → Except String (LinePattern × Rest)
  | 0, _, _, _, _ => .error "Regular expression too big"
  | fuel + 1, depth, isStart, before, rest => do
      let goOn (part : LinePattern) (rest : Rest) : Except String (LinePattern × Rest) := do
        let (part, text) ← readRepeats spelling fuel part rest.text
        readSequence spelling fuel depth false (.sequence before part) { rest with text := text }
      let plain (c : Char) (text : List Char) : Except String (LinePattern × Rest) :=
        goOn (.literal c) { rest with text := text }
      let anchor (part : LinePattern) (text : List Char) : Except String (LinePattern × Rest) :=
        readSequence spelling fuel depth false (.sequence before part) { rest with text := text }
      let skip (name : String) (text : List Char) : Except String (LinePattern × Rest) :=
        if spelling.isStrict then throw badOperand
        else
          let rest : Rest := { rest with text := text, skipped := name :: rest.skipped }
          match text with
          | ')' :: text => goOn (.literal ')') { rest with text := text }
          | _ => readSequence spelling fuel depth false before rest
      match operator? spelling rest.text, rest.text with
      | _, [] => return (before, rest)
      | some (.either, _), _ => return (before, rest)
      | some (.closing, text), c :: _ =>
          if depth > 0 then return (before, rest)
          else if spelling.isExtended && !spelling.isStrict then plain c text
          else throw "Unmatched ) or \\)"
      | some (.opening, text), _ =>
          let number := rest.groups + 1
          let (inner, rest) ←
            readEither spelling fuel (depth + 1) { rest with text := text, groups := number }
          match operator? spelling rest.text with
          | some (.closing, text) => goOn (.group number inner) { rest with text := text }
          | _ => throw "Unmatched ( or \\("
      | some (operator, text), c :: _ =>
          if spelling.isExtended then
            match operator, interval spelling text with
            | .interval, .bounds _ _ behind => skip "\x7b...\x7d" behind
            | .interval, _ => if spelling.isStrict then throw badOperand else plain c text
            | _, _ => skip (String.ofList [c]) text
          else if operator = .star then plain c text
          else if operator = .interval && spelling.isStrict then throw badOperand
          else plain ((rest.text.drop 1).headD c) text
      | none, '\\' :: c :: text =>
          if c.isDigit && c ≠ '0' then
            let number := c.toNat - '0'.toNat
            if number > rest.groups then throw "Invalid back reference"
            goOn (.back number) { rest with text := text }
          else
            match spelling.escapes.lookup c, escapeOf? c with
            | some meant, _ => plain meant text
            | none, some (.set negated choices) =>
                goOn (.set negated choices) { rest with text := text }
            | none, some part => anchor part text
            | none, none => plain c text
      | none, ['\\'] => throw "Trailing backslash"
      | none, '[' :: text =>
          let (negated, text) : Bool × List Char :=
            match text with
            | '^' :: text => (true, text)
            | _ => (false, text)
          let (choices, behind) ← setMembers spelling (text.length + 1) true text
          if spelling.refusesBareNames && isBareName text behind then throw bareName
          goOn (.set negated choices) { rest with text := behind }
      | none, '.' :: text => goOn .any { rest with text := text }
      | none, '^' :: text =>
          if isStart || spelling.isExtended then anchor .lineStart text else plain '^' text
      | none, '$' :: text =>
          if isEndPlace spelling text then anchor .lineEnd text else plain '$' text
      | none, c :: text => plain c text

def readRepeats (spelling : Spelling) :
    Nat → LinePattern → List Char → Except String (LinePattern × List Char)
  | 0, part, text => .ok (part, text)
  | fuel + 1, part, text => do
      let again (part : LinePattern) (rest : List Char) :
          Except String (LinePattern × List Char) :=
        match operator? spelling rest with
        | some (operator, _) =>
            if spelling.isStrict && !spelling.isExtended &&
                (operator = .star || operator = .interval) then throw badOperand
            else readRepeats spelling fuel part rest
        | none => .ok (part, rest)
      match operator? spelling text with
      | some (.star, rest) => again (.star part) rest
      | some (.some, rest) => again (.sequence part (.star part)) rest
      | some (.optional, rest) => again (.either part .nothing) rest
      | some (.interval, rest) =>
          match interval spelling rest with
          | .bounds least most? rest => again (repeated least most? part) rest
          | .broken isOpen =>
              if spelling.isExtended && !spelling.isStrict then return (part, text)
              else throw (if isOpen then "Unmatched \\\x7b" else badInterval)
          | .refused reason => throw reason
      | _ => return (part, text)

end

/-- A pattern that has been read. -/
structure Parsed where
  pattern : LinePattern
  groups : Nat
  skipped : List String

def ofText (spelling : Spelling) (text : List Char) : Except String Parsed := do
  let (pattern, rest) ← readEither spelling (4 * text.length + 8) 0 ⟨text, 0, []⟩
  return ⟨pattern, rest.groups, rest.skipped.reverse⟩

end LinePattern
end CallScript.Shell
