import CallScript.Shell.Quantity
import CallScript.Shell.Utility.Basic

/-!
# Lines in order

The utilities that put lines in order, and those that compare neighbouring lines or sorted files.
The order is that of the bytes, unless the options ask for another one.
-/

namespace CallScript.Shell

def lineLess (a b : List Char) : Ordering := compare a b

/-! ## Numbers in lines -/

/-- A number in plain decimal form, without the digits behind the last one that counts. -/
structure PlainNumber where
  isNegative : Bool
  whole : Nat
  part : List Char

namespace PlainNumber

def split (text : List Char) : PlainNumber × List Char :=
  let text := text.dropWhile fun c => c = ' ' || c = '\t'
  let isNegative := text.head? = some '-'
  let text := if isNegative then text.tail else text
  let whole := text.takeWhile Char.isDigit
  let behind := text.drop whole.length
  let part := if behind.head? = some '.' then behind.tail.takeWhile Char.isDigit else []
  let rest := if behind.head? = some '.' then behind.drop (part.length + 1) else behind
  let trimmed := (part.reverse.dropWhile (· = '0')).reverse
  (⟨isNegative, Number.ofDigits 10 whole, trimmed⟩, rest)

def isZero (number : PlainNumber) : Bool := number.whole = 0 && number.part.isEmpty

def order (a b : PlainNumber) : Ordering :=
  let size := (compare a.whole b.whole).then (compare a.part b.part)
  match a.isNegative && !a.isZero, b.isNegative && !b.isZero with
  | true, true => size.swap
  | true, false => .lt
  | false, true => .gt
  | false, false => size

end PlainNumber

def Quantity.order (a b : Quantity) : Ordering :=
  let rank (quantity : Quantity) : Nat :=
    match quantity.size, quantity.isNegative with
    | .undefined, _ => 0
    | .infinite, true => 1
    | .finite .., _ => 2
    | .infinite, false => 3
  match a.size, b.size with
  | .finite n d, .finite m e =>
      let signed (isNegative : Bool) (n : Nat) : Int := if isNegative then -n else n
      compare (signed a.isNegative (n * e)) (signed b.isNegative (m * d))
  | _, _ => compare (rank a) (rank b)

def sizeLetters : List Char := "KMGTPEZY".toList

def sizeOrder (a b : List Char) : Ordering :=
  let rank (text : List Char) : Int × PlainNumber :=
    let (number, rest) := PlainNumber.split text
    let letter := (rest.head?.map Char.toUpper).bind sizeLetters.idxOf?
    let size : Int := if number.isZero then 0 else ((letter.map (· + 1)).getD 0 : Nat)
    (if number.isNegative then -size else size, number)
  let sign (number : PlainNumber) : Int :=
    if number.isZero then 0 else if number.isNegative then -1 else 1
  let (a, b) := (rank a, rank b)
  (compare (sign a.2) (sign b.2)).then ((compare a.1 b.1).then (a.2.order b.2))

def monthNames : List String :=
  ["JAN", "FEB", "MAR", "APR", "MAY", "JUN", "JUL", "AUG", "SEP", "OCT", "NOV", "DEC"]

def monthOf (text : List Char) : Nat :=
  let front := ((text.dropWhile fun c => c = ' ' || c = '\t').take 3).map Char.toUpper
  ((monthNames.idxOf? (String.ofList front)).map (· + 1)).getD 0

/-- The order of texts with version numbers in them: runs of digits go by their value, and letters
come before other characters. -/
def versionOrder : Nat → List Char → List Char → Ordering
  | 0, _, _ => .eq
  | _, [], [] => .eq
  | fuel + 1, a, b =>
      let rank (text : List Char) : Int :=
        match text with
        | [] => 0
        | c :: _ => if c = '~' then -1 else if c.isDigit then 0 else
            if c.isAlpha then c.toNat else c.toNat + 256
      if (a.head?.any fun c => !c.isDigit) || (b.head?.any fun c => !c.isDigit) then
        (compare (rank a) (rank b)).then (versionOrder fuel a.tail b.tail)
      else
        let (m, restA) := Number.splitDigits 10 a
        let (n, restB) := Number.splitDigits 10 b
        (compare m n).then (versionOrder fuel restA restB)

/-! ## Sorting -/

/-- A part of a line by which it is sorted. Fields and characters are counted from zero. -/
structure SortKey where
  field : Nat
  char : Nat
  last? : Option (Nat × Nat)
  /-- Whether blanks are passed over in front of the start and in front of the end. -/
  skipsFront : Bool
  skipsBack : Bool
  letters : List Char

namespace SortKey

def isBlank (c : Char) : Bool := c = ' ' || c = '\t'

def whole (letters : List Char) : SortKey :=
  let skips := letters.contains 'b'
  ⟨0, 0, none, skips, skips, letters⟩

/-- The text behind so many fields. What follows the last separator is still passed over, where it
counts. -/
def behindFields (tab? : Option Char) : Nat → Bool → List Char → List Char
  | 0, _, text => text
  | count + 1, passesLast, text =>
      match tab? with
      | some tab =>
          let rest := text.dropWhile (· ≠ tab)
          behindFields tab? count passesLast (if count > 0 || passesLast then rest.drop 1 else rest)
      | none => behindFields tab? count passesLast ((text.dropWhile isBlank).dropWhile (!isBlank ·))

def extract (tab? : Option Char) (key : SortKey) (line : List Char) : List Char :=
  let start := behindFields tab? key.field true line
  let start := (if key.skipsFront then start.dropWhile isBlank else start).drop key.char
  match key.last? with
  | none => start
  | some (field, char) =>
      let behind :=
        if char = 0 then behindFields tab? (field + 1) false line
        else
          let rest := behindFields tab? field true line
          (if key.skipsBack then rest.dropWhile isBlank else rest).drop char
      start.take (start.length - behind.length)

def order (key : SortKey) (a b : List Char) : Ordering :=
  let has := key.letters.contains
  let plain (text : List Char) : List Char :=
    let kept := text.filter fun c =>
      (!has 'd' || c.isAlphanum || isBlank c) && (!has 'i' || isPrintable c)
    if has 'f' then kept.map Char.toUpper else kept
  let found :=
    if has 'n' then (PlainNumber.split a).1.order (PlainNumber.split b).1
    else if has 'g' then
      match Quantity.split? a, Quantity.split? b with
      | some (a, _), some (b, _) => a.order b
      | none, some _ => .lt
      | some _, none => .gt
      | none, none => .eq
    else if has 'h' then sizeOrder a b
    else if has 'M' then compare (monthOf a) (monthOf b)
    else if has 'V' then versionOrder (a.length + b.length + 2) a b
    else lineLess (plain a) (plain b)
  if has 'r' then found.swap else found

def orderLetters : List Char := "bdfghiMnrV".toList

def count (text : List Char) (problem : String) : Except String (Nat × List Char) :=
  let digits := text.takeWhile Char.isDigit
  if digits.isEmpty then
    .error (problem ++ ": invalid count at start of " ++ quoted (String.ofList text))
  else .ok (Number.ofDigits 10 digits, text.drop digits.length)

/-- A place in a key: its field, its character and its letters, and what is behind it. -/
def place (spec text : List Char) (problem : String) (isStart : Bool) :
    Except String (Nat × Nat × List Char × List Char) := do
  let bad (reason : String) : String :=
    reason ++ ": invalid field specification " ++ quoted (String.ofList spec)
  let (field, rest) ← count text problem
  if field = 0 then throw (bad "field number is zero")
  let (char, rest) ←
    match rest with
    | '.' :: rest => count rest "invalid number after '.'"
    | _ => pure (if isStart then 1 else 0, rest)
  if isStart && char = 0 then throw (bad "character offset is zero")
  let letters := rest.takeWhile orderLetters.contains
  return (field - 1, if isStart then char - 1 else char, letters, rest.drop letters.length)

/-- The key that a text spells. Without letters of its own it takes those of the whole. -/
def ofText (general : List Char) (text : String) : Except String SortKey := do
  let spec := text.toList
  let (field, char, letters, rest) ← place spec spec "invalid number at field start" true
  let (last?, others, rest) ←
    match rest with
    | ',' :: rest => do
        let (field, char, letters, rest) ← place spec rest "invalid number after ','" false
        pure (some (field, char), letters, rest)
    | _ => pure (none, [], rest)
  if !rest.isEmpty then
    throw ("stray character in field spec: invalid field specification " ++ quoted text)
  let own := letters ++ others
  if own.isEmpty then
    let skips := general.contains 'b'
    return ⟨field, char, last?, skips, skips, general⟩
  else return ⟨field, char, last?, letters.contains 'b', others.contains 'b', own⟩

end SortKey

/-- How lines are put in order. -/
structure Sorting where
  keys : List SortKey
  tab? : Option Char
  isStable : Bool
  isReversed : Bool

namespace Sorting

def keyOrder (sorting : Sorting) (a b : List Char) : Ordering :=
  sorting.keys.foldl
    (fun found key =>
      found.then (key.order (key.extract sorting.tab? a) (key.extract sorting.tab? b))) .eq

def order (sorting : Sorting) (a b : List Char) : Ordering :=
  let last :=
    if sorting.isStable then .eq
    else if sorting.isReversed then (lineLess a b).swap else lineLess a b
  (sorting.keyOrder a b).then last

end Sorting

def withoutRepeats (isSame : List Char → List Char → Bool) : List (List Char) → List (List Char)
  | a :: b :: rest =>
      let others := withoutRepeats isSame (b :: rest)
      if isSame a b then a :: others.tail else a :: others
  | lines => lines

def firstDisorder (isOrdered : List Char → List Char → Bool) :
    Nat → List (List Char) → Option (Nat × List Char)
  | n, a :: b :: rest =>
      if isOrdered a b then firstDisorder isOrdered (n + 1) (b :: rest) else some (n + 1, b)
  | _, _ => none

namespace Invocation

def sortOptions : OptionSpec where
  flags := "bcCdfghiMmnrsuVz"
  valued := "kotST"
  names := [.flag "ignore-leading-blanks" "b", .flag "dictionary-order" "d",
    .flag "ignore-case" "f", .flag "general-numeric-sort" "g", .flag "human-numeric-sort" "h",
    .flag "ignore-nonprinting" "i", .flag "month-sort" "M", .flag "merge" "m",
    .flag "numeric-sort" "n", .flag "reverse" "r", .flag "stable" "s", .flag "unique" "u",
    .flag "version-sort" "V", .flag "zero-terminated" "z", ⟨"check", "c", .optional⟩,
    .valued "key" "k", .valued "output" "o", .valued "field-separator" "t",
    .valued "buffer-size" "S", .valued "temporary-directory" "T"]

def linesEndedBy (ended : Char) (text : String) : List (List Char) :=
  let pieces := Text.pieces ended text.toList
  if pieces.getLast? = some [] then pieces.dropLast else pieces

def joinEnded (ended : Char) (lines : List (List Char)) : String :=
  String.ofList (lines.flatMap fun line => line ++ [ended])

def separatorOf (text : String) : Except String Char :=
  match text.toList with
  | [] => .error "empty tab"
  | [c] => .ok c
  | ['\\', '0'] => .ok '\x00'
  | _ => .error ("multi-character tab " ++ quoted text)

def sort (call : Invocation) (arguments : Arguments) : Reply :=
  let general := SortKey.orderLetters.filter fun c => arguments.has (String.ofList [c])
  let plan : Except String Sorting := do
    let tab? ← (arguments.value? "t").mapM separatorOf
    let keys ← (arguments.values "k").mapM (SortKey.ofText general)
    return ⟨if keys.isEmpty then [.whole general] else keys, tab?,
      arguments.has "s" || arguments.has "u", general.contains 'r'⟩
  let ended := if arguments.has "z" then '\x00' else '\n'
  let paths := pathsOf arguments
  match plan with
  | .error text => call.fail text 2
  | .ok sorting =>
      let failing? := paths.findSome? fun path =>
        match call.content path with
        | .ok _ => none
        | .error .isDirectory => some ("read failed: " ++ path ++ ": " ++ OsError.isDirectory.text)
        | .error e => some ("cannot read: " ++ path ++ ": " ++ e.text)
      match failing?, arguments.operands with
      | some text, _ => call.fail text 2
      | none, operands =>
          let content := paths.flatMap fun path =>
            linesEndedBy ended ((call.content path).toOption.getD "")
          if arguments.has "c" || arguments.has "C" then
            match operands with
            | _ :: extra :: _ => call.misuse ("extra operand " ++ quoted extra ++
                " not allowed with -" ++ (if arguments.has "C" then "C" else "c")) 2
            | _ =>
                let isOrdered (a b : List Char) : Bool :=
                  if arguments.has "u" then sorting.order a b = .lt else sorting.order a b ≠ .gt
                match firstDisorder isOrdered 1 content with
                | none => call.done
                | some (n, line) =>
                    if arguments.has "C" then { call.done with code := 1 }
                    else call.fail (paths.headD "-" ++ ":" ++ toString n ++ ": disorder: " ++
                      String.ofList line) 1
          else
            let sorted := content.mergeSort fun a b => sorting.order a b ≠ .gt
            let sorted :=
              if arguments.has "u" then
                withoutRepeats (fun a b => sorting.keyOrder a b = .eq) sorted
              else sorted
            let text := joinEnded ended sorted
            let reply := { call.done with use := useOf paths }
            match arguments.value? "o" with
            | none => reply.out text
            | some path =>
                match call.tree.writeBytes call.directory path (Octets.toBytes text)
                  call.fileMode with
                | .ok tree => { reply with tree := tree }
                | .error e => call.fail ("open failed: " ++ path ++ ": " ++ e.text) 2

/-! ## Repeated lines -/

def uniqOptions : OptionSpec where
  flags := "cdDiuz"
  valued := "fsw"
  names := [.flag "count" "c", .flag "repeated" "d", ⟨"all-repeated", "D", .optional⟩,
    .flag "ignore-case" "i", .flag "unique" "u", .flag "zero-terminated" "z",
    .valued "skip-fields" "f", .valued "skip-chars" "s", .valued "check-chars" "w"]

def sameGroups (key : List Char → List Char) : List (List Char) → List (List (List Char))
  | [] => []
  | line :: rest =>
      match sameGroups key rest with
      | (other :: others) :: groups =>
          if key line = key other then (line :: other :: others) :: groups
          else [line] :: (other :: others) :: groups
      | groups => [line] :: groups

def rightAligned (width n : Nat) : List Char :=
  let digits := Nat.toDigits 10 n
  List.replicate (width - digits.length) ' ' ++ digits

def uniq (call : Invocation) (arguments : Arguments) : Reply :=
  let number (key problem : String) (default : Nat) : Except String Nat :=
    match arguments.value? key with
    | none => .ok default
    | some text =>
        match Number.natural? text.toList with
        | some n => .ok n
        | none => .error (text ++ ": invalid number of " ++ problem)
  let numbers : Except String (Nat × Nat × Option Nat) := do
    let fields ← number "f" "fields to skip" 0
    let chars ← number "s" "bytes to skip" 0
    let size ← number "w" "bytes to compare" 0
    return (fields, chars, if arguments.has "w" then some size else none)
  let ended := if arguments.has "z" then '\x00' else '\n'
  match numbers, arguments.operands with
  | .error text, _ => call.fail text 1
  | _, _ :: _ :: extra :: _ => call.misuse ("extra operand " ++ quoted extra) 1
  | .ok (fields, chars, size?), operands =>
      let path := operands.headD "-"
      match call.content path with
      | .error .isDirectory =>
          call.fail ("error reading " ++ quoted path ++ ": " ++ OsError.isDirectory.text) 1
      | .error e => call.fail (shown path ++ ": " ++ e.text) 1
      | .ok content =>
          let key (line : List Char) : List Char :=
            let rest := (SortKey.behindFields none fields true line).drop chars
            let rest := (size?.map rest.take).getD rest
            if arguments.has "i" then rest.map Char.toUpper else rest
          let groups := sameGroups key (linesEndedBy ended content)
          let isShown (group : List (List Char)) : Bool :=
            (!arguments.hasAny ["d", "D"] || group.length > 1) &&
              (!arguments.has "u" || group.length = 1)
          let shownLines (group : List (List Char)) : List (List Char) :=
            if arguments.has "D" then group
            else if arguments.has "c" then
              group.head?.toList.map fun line => rightAligned 7 group.length ++ ' ' :: line
            else group.take 1
          let text := joinEnded ended ((groups.filter isShown).flatMap shownLines)
          let reply := { call.done with use := useOf [path] }
          match operands[1]? with
          | none | some "-" => reply.out text
          | some output =>
              match call.tree.writeBytes call.directory output (Octets.toBytes text)
                call.fileMode with
              | .ok tree => { reply with tree := tree }
              | .error e => call.fail (shown output ++ ": " ++ e.text) 1

/-! ## Sorted files -/

def commOptions : OptionSpec where
  flags := "123z"
  names := [.alone "check-order", .alone "nocheck-order",
    ⟨"output-delimiter", "output-delimiter", .required⟩, .alone "total",
    .flag "zero-terminated" "z"]

/-- The lines of two sorted texts, each with whether it is in the first and in the second. -/
def commonLines : Nat → List (List Char) → List (List Char) → List (List Char × Bool × Bool)
  | 0, _, _ => []
  | _, [], second => second.map fun line => (line, false, true)
  | _, first, [] => first.map fun line => (line, true, false)
  | fuel + 1, a :: first, b :: second =>
      match lineLess a b with
      | .lt => (a, true, false) :: commonLines fuel first (b :: second)
      | .gt => (b, false, true) :: commonLines fuel (a :: first) second
      | .eq => (a, true, true) :: commonLines fuel first second

def comm (call : Invocation) (arguments : Arguments) : Reply :=
  let ended := if arguments.has "z" then '\x00' else '\n'
  match arguments.operands with
  | [] => call.misuse "missing operand" 1
  | [path] => call.misuse ("missing operand after " ++ quoted path) 1
  | [first, second] =>
      match call.content first, call.content second with
      | .error e, _ => call.fail (shown first ++ ": " ++ e.text) 1
      | _, .error e => call.fail (shown second ++ ": " ++ e.text) 1
      | .ok a, .ok b =>
          let (a, b) := (linesEndedBy ended a, linesEndedBy ended b)
          let delimiter := ((arguments.value? "output-delimiter").getD "\t").toList
          let column (key : String) : List Char := if arguments.has key then [] else delimiter
          let line (entry : List Char × Bool × Bool) : Option (List Char) :=
            match entry with
            | (text, true, false) => if arguments.has "1" then none else some text
            | (text, false, _) => if arguments.has "2" then none else some (column "1" ++ text)
            | (text, true, true) =>
                if arguments.has "3" then none else some (column "1" ++ column "2" ++ text)
          let entries := commonLines (a.length + b.length + 1) a b
          let isSorted (lines : List (List Char)) : Bool :=
            (firstDisorder (fun a b => lineLess a b ≠ .gt) 1 lines).isNone
          let reply := call.done.out (joinEnded ended (entries.filterMap line))
          let isPaired := entries.all fun entry => entry.2.1 && entry.2.2
          let problems :=
            if arguments.has "nocheck-order" || (isPaired && !arguments.has "check-order") then []
            else
              (if isSorted a then [] else ["file 1 is not in sorted order"]) ++
                (if isSorted b then [] else ["file 2 is not in sorted order"])
          let reply := problems.foldl (warn call) reply
          let reply := if problems.isEmpty || arguments.has "check-order" then reply
            else call.warn reply "input is not in sorted order"
          { reply with use := useOf [first, second] }
  | _ :: _ :: extra :: _ => call.misuse ("extra operand " ++ quoted extra) 1

/-! ## The other way round -/

def tacOptions : OptionSpec where
  flags := "br"
  valued := "s"
  names := [.flag "before" "b", .flag "regex" "r", .valued "separator" "s"]

def piecesBehind (mark : List Char) : List Char → List Char → List (List Char)
  | current, [] => if current.isEmpty then [] else [current.reverse]
  | current, c :: rest =>
      let current := c :: current
      if mark.reverse.isPrefixOf current && !mark.isEmpty then
        current.reverse :: piecesBehind mark [] rest
      else piecesBehind mark current rest

def piecesBefore (mark : List Char) (text : List Char) : List (List Char) :=
  (piecesBehind mark.reverse [] text.reverse).reverse.map List.reverse

def tac (call : Invocation) (arguments : Arguments) : Reply :=
  let mark := ((arguments.value? "s").getD "\n").toList
  let paths := pathsOf arguments
  let reply := paths.foldl
    (fun reply path =>
      match call.content path with
      | .ok content =>
          let pieces :=
            if arguments.has "b" then piecesBefore mark content.toList
            else piecesBehind mark [] content.toList
          reply.out (String.ofList pieces.reverse.flatten)
      | .error .isDirectory =>
          call.warn reply (shown path ++ ": read error: " ++ OsError.invalid.text)
      | .error e =>
          call.warn reply ("failed to open " ++ quoted path ++ " for reading: " ++ e.text))
    call.done
  { reply with use := useOf paths }

end Invocation
end CallScript.Shell
