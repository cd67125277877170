import CallScript.Shell.Alignment
import CallScript.Shell.Calendar
import CallScript.Shell.Utility.Columns

/-!
# Differences between texts

The utility that shows which lines make one text of another: as commands with the lines that are
taken out and put in, or as pieces of both texts with some lines around them. Of directories it
compares the files of the same names.
-/

namespace CallScript.Shell

/-- A line of a text, and whether a line break ends it. -/
abbrev EndedLine := List Char × Bool

/-- How lines are compared and differences shown. -/
structure DiffStyle where
  arguments : Arguments
  /-- How many lines are shown around the differences, if pieces of both texts are shown. -/
  around? : Option Nat

namespace DiffStyle

def has (style : DiffStyle) (key : String) : Bool := style.arguments.has key

def key (style : DiffStyle) (line : EndedLine) : List Char × Bool :=
  let text := if style.has "i" then line.1.map Char.toLower else line.1
  let isBlank (c : Char) : Bool := c = ' ' || ('\t' ≤ c && c ≤ '\x0d')
  let trimmed (text : List Char) : List Char := (text.reverse.dropWhile isBlank).reverse
  if style.has "w" then (text.filter fun c => !isBlank c, true)
  else if style.has "b" then
    let (joined, _) := (trimmed text).foldl
      (fun ((joined, isBehind) : List Char × Bool) c =>
        if isBlank c then (if isBehind then joined else ' ' :: joined, true)
        else (c :: joined, false))
      ([], false)
    (joined.reverse, true)
  else if style.has "Z" then (trimmed text, true)
  else (text, line.2)

def shows (style : DiffStyle) (first second : Array EndedLine) (change : Change) : Bool :=
  let isEmpty (line : EndedLine) : Bool := line.1.isEmpty
  let lines := (first.extract change.first (change.first + change.firstCount)) ++
    second.extract change.second (change.second + change.secondCount)
  !(style.has "B" && lines.all isEmpty)

end DiffStyle

/-- The changes that make one text of another. Lines that begin or end both texts are left out,
except for some that may be shown around a change. Texts that do not end in the same way have no
common end. -/
def textChanges (style : DiffStyle) (first second : Array EndedLine) : List Change :=
  let common (a b : List EndedLine) : Nat := ((a.zip b).takeWhile fun (x, y) => x = y).length
  let around := style.around?.getD 0
  let front := common first.toList second.toList - around
  let (a, b) := (first.extract front first.size, second.extract front second.size)
  let back := common a.toList.reverse b.toList.reverse - around
  let (a, b) := (a.extract 0 (a.size - back), b.extract 0 (b.size - back))
  let keys := (a ++ b).map style.key
  let numbers := keys.map fun key => (keys.findIdx? (· = key)).getD 0
  let pair : LinePair := ⟨numbers.extract 0 a.size, numbers.extract a.size numbers.size⟩
  (pair.changes.map fun change =>
    { change with first := change.first + front, second := change.second + front }).filter
      (style.shows first second)

/-! ## Changes as commands -/

def markedLine (mark : String) (line : EndedLine) : String :=
  mark ++ String.ofList line.1 ++ "\n" ++
    (if line.2 then "" else "\\ No newline at end of file\n")

def markedLines (mark : String) (lines : Array EndedLine) (start count : Nat) : String :=
  String.join ((lines.extract start (start + count)).toList.map (markedLine mark))

/-- The lines of a range, counted from one; an empty range is the line before it. -/
def rangeText (start count : Nat) : String :=
  if count ≤ 1 then toString (start + count)
  else toString (start + 1) ++ "," ++ toString (start + count)

def Change.command (first second : Array EndedLine) (change : Change) : String :=
  let letter :=
    if change.firstCount = 0 then "a" else if change.secondCount = 0 then "d" else "c"
  rangeText change.first change.firstCount ++ letter ++
    rangeText change.second change.secondCount ++ "\n" ++
    markedLines "< " first change.first change.firstCount ++
    (if letter = "c" then "---\n" else "") ++
    markedLines "> " second change.second change.secondCount

/-! ## Changes with the lines around them -/

/-- Changes that are shown together, because not more than some lines are between them. -/
def groupChanges (around : Nat) : List Change → List (List Change)
  | [] => []
  | change :: changes =>
      match groupChanges around changes with
      | (next :: others) :: groups =>
          if next.first - (change.first + change.firstCount) ≤ 2 * around then
            (change :: next :: others) :: groups
          else [change] :: (next :: others) :: groups
      | groups => [change] :: groups

def groupBody (first second : Array EndedLine) (stop : Nat) : Nat → List Change → String
  | x, [] => markedLines " " first x (stop - x)
  | x, change :: changes =>
      markedLines " " first x (change.first - x) ++
        markedLines "-" first change.first change.firstCount ++
        markedLines "+" second change.second change.secondCount ++
        groupBody first second stop (change.first + change.firstCount) changes

def sizedRange (start count : Nat) : String :=
  if count = 1 then toString (start + 1)
  else toString (if count = 0 then start else start + 1) ++ "," ++ toString count

def groupText (around : Nat) (first second : Array EndedLine) (group : List Change) : String :=
  match group.head?, group.getLast? with
  | some head, some last =>
      let before := min around (min head.first head.second)
      let (x, y) := (head.first - before, head.second - before)
      let stop := min first.size (last.first + last.firstCount + around)
      let otherStop := min second.size (last.second + last.secondCount + around)
      "@@ -" ++ sizedRange x (stop - x) ++ " +" ++ sizedRange y (otherStop - y) ++ " @@\n" ++
        groupBody first second stop x group
  | _, _ => ""

namespace Invocation

def diffOptions : OptionSpec where
  flags := "qsiwbBZauNrdEt"
  valued := "UL"
  names := [.flag "brief" "q", .flag "report-identical-files" "s", .flag "ignore-case" "i",
    .flag "ignore-all-space" "w", .flag "ignore-space-change" "b", .flag "ignore-blank-lines" "B",
    .flag "ignore-trailing-space" "Z", .flag "text" "a", ⟨"unified", "U", .optional⟩,
    .valued "label" "L", .flag "new-file" "N", .flag "recursive" "r", .flag "minimal" "d",
    .alone "normal"]

def refuseDiff (call : Invocation) (text : String) : Reply :=
  { call.done.err (call.message text ++ call.name ++ ": " ++ call.helpHint) with code := 2 }

def diffHeading (call : Invocation) (mark path : String) (label? : Option String) : String :=
  let label := label?.getD (path ++ "\t" ++
    match call.tree.find call.directory path with
    | .ok (_, node) => Calendar.text node.time
    | .error _ => Calendar.text call.tree.now)
  mark ++ " " ++ label ++ "\n"

/-- Compares two texts. `above` is written above any differences. -/
def diffTexts (call : Invocation) (style : DiffStyle) (above : String) (paths : String × String)
    (texts : String × String) (reply : Reply) : Reply :=
  let names := paths.1 ++ " and " ++ paths.2
  let same := if style.has "s" then reply.out ("Files " ++ names ++ " are identical\n") else reply
  let differing (text : String) : Reply := { reply.out text with code := max reply.code 1 }
  let isBinary := !style.has "a" &&
    (texts.1.toList.contains '\x00' || texts.2.toList.contains '\x00')
  if texts.1 = texts.2 then same
  else if isBinary then
    differing ((if style.has "q" then "Files " else "Binary files ") ++ names ++ " differ\n")
  else
    let first := (endedLines texts.1.toList).toArray
    let second := (endedLines texts.2.toList).toArray
    let changes := textChanges style first second
    if changes.isEmpty then same
    else if style.has "q" then differing ("Files " ++ names ++ " differ\n")
    else
      match style.around? with
      | none => differing (above ++ String.join (changes.map (Change.command first second)))
      | some around =>
          let labels := style.arguments.values "L"
          let groups := groupChanges around changes
          differing (above ++ call.diffHeading "---" paths.1 labels[0]? ++
            call.diffHeading "+++" paths.2 labels[1]? ++
            String.join (groups.map (groupText around first second)))

/-- What is found at a path: nothing, a directory or the content of a file. -/
inductive DiffSide where
  | nothing
  | directory (place : Location)
  | text (text : String)
  | trouble (e : OsError)

def diffSide (call : Invocation) (path : String) : DiffSide :=
  match if path = "-" then none else (call.tree.find call.directory path).toOption with
  | some (place, node) =>
      if node.isDirectory then .directory place
      else
        match call.content path with
        | .ok text => .text text
        | .error e => .trouble e
  | none =>
      match call.content path with
      | .ok text => .text text
      | .error .noEntry => .nothing
      | .error e => .trouble e

/-- Compares what is at two paths. Directories within directories are only compared when that is
asked for. -/
def diffPaths (call : Invocation) (style : DiffStyle) (options : String) :
    Nat → Bool → String × String → Reply → Reply
  | 0, _, _, reply => reply
  | fuel + 1, isWithin, (first, second), reply =>
      let trouble (reply : Reply) (path : String) (e : OsError) : Reply :=
        { reply.err (call.message (path ++ ": " ++ e.text)) with code := 2 }
      let above :=
        if isWithin then "diff" ++ options ++ " " ++ first ++ " " ++ second ++ "\n" else ""
      let only (path : String) : Reply :=
        let names := Path.names path
        { reply.out ("Only in " ++ String.ofList (path.toList.take
            (path.length - (names.getLastD "").length - 1)) ++ ": " ++ names.getLastD "" ++
            "\n") with
          code := max reply.code 1 }
      let within (a? b? : Option Location) : Reply :=
        let names (place : Location) : List String := (call.tree.children place).map (·.1)
        let all := ((a?.toList ++ b?.toList).flatMap names).eraseDups.mergeSort
        all.foldl
          (fun reply name =>
            call.diffPaths style options fuel true (Path.push first name, Path.push second name)
              reply)
          reply
      match call.diffSide first, call.diffSide second with
      | .directory a, .directory b =>
          if isWithin && !style.has "r" then
            reply.out ("Common subdirectories: " ++ first ++ " and " ++ second ++ "\n")
          else within (some a) (some b)
      | .trouble e, .trouble f => trouble (trouble reply first e) second f
      | .trouble e, _ => trouble reply first e
      | _, .trouble e => trouble reply second e
      | .nothing, .nothing => trouble (trouble reply first .noEntry) second .noEntry
      | .nothing, other =>
          match other with
          | .text text =>
              if style.has "N" then call.diffTexts style above (first, second) ("", text) reply
              else if isWithin then only second
              else trouble reply first .noEntry
          | .directory place =>
              if style.has "N" && style.has "r" then within none (some place)
              else if isWithin then only second
              else trouble reply first .noEntry
          | _ => if isWithin then only second else trouble reply first .noEntry
      | other, .nothing =>
          match other with
          | .text text =>
              if style.has "N" then call.diffTexts style above (first, second) (text, "") reply
              else if isWithin then only first
              else trouble reply second .noEntry
          | .directory place =>
              if style.has "N" && style.has "r" then within (some place) none
              else if isWithin then only first
              else trouble reply second .noEntry
          | _ => if isWithin then only first else trouble reply second .noEntry
      | .text a, .text b => call.diffTexts style above (first, second) (a, b) reply
      | .directory _, .text text =>
          if isWithin then
            { reply.out ("File " ++ first ++ " is a directory while file " ++ second ++
                " is a regular file\n") with
              code := max reply.code 1 }
          else
            let inner := Path.push first ((Path.names second).getLastD "")
            match call.diffSide inner with
            | .text other => call.diffTexts style above (inner, second) (other, text) reply
            | .trouble e => trouble reply inner e
            | _ => trouble reply inner .noEntry
      | .text text, .directory _ =>
          if isWithin then
            { reply.out ("File " ++ first ++ " is a regular file while file " ++ second ++
                " is a directory\n") with
              code := max reply.code 1 }
          else
            let inner := Path.push second ((Path.names first).getLastD "")
            match call.diffSide inner with
            | .text other => call.diffTexts style above (first, inner) (text, other) reply
            | .trouble e => trouble reply inner e
            | _ => trouble reply inner .noEntry

def depthOfTree : Nat := 64

/-- The arguments with a number among the letters of an option spelled as the size that it is. -/
def expandAround (args : List String) : List String :=
  args.map fun arg =>
    match arg.toList with
    | '-' :: 'u' :: digit :: digits =>
        if (digit :: digits).all Char.isDigit then "-U" ++ String.ofList (digit :: digits) else arg
    | _ => arg

def diff (call : Invocation) : Reply :=
  match diffOptions.read (expandAround call.args) with
  | .error text => call.refuseDiff text
  | .ok arguments =>
      if arguments.has "version" then call.write call.about
      else if arguments.has "help" then call.write (call.usage "[OPTION]... FILES")
      else
        let size? := arguments.value? "U"
        match size?.filter fun text => (Number.natural? text.toList).isNone with
        | some text => call.refuseDiff ("invalid context length '" ++ text ++ "'")
        | none =>
            let around? :=
              match size?.bind fun text => Number.natural? text.toList with
              | some n => some n
              | none => if arguments.hasAny ["u", "U"] then some 3 else none
            match arguments.operands with
            | [] =>
                call.refuseDiff ("missing operand after '" ++ call.args.getLastD call.name ++ "'")
            | [_] =>
                call.refuseDiff ("missing operand after '" ++ call.args.getLastD call.name ++ "'")
            | [first, second] =>
                let options := call.args.filter fun arg => arg.startsWith "-" && arg ≠ "-"
                let options := String.join (options.map fun option => " " ++ option)
                let reply := call.diffPaths ⟨arguments, around?⟩ options depthOfTree false
                  (first, second) call.done
                { reply with use := useOf [first, second] }
            | _ :: _ :: extra :: _ => call.refuseDiff ("extra operand '" ++ extra ++ "'")

end Invocation
end CallScript.Shell
