import CallScript.Shell.LinePattern
import CallScript.Shell.Utility.Basic

/-!
# Searching lines

The utility that shows the lines in which patterns are found.
-/

namespace CallScript.Shell

/-- How lines are searched. -/
structure LineSearch where
  /-- The patterns; a line has to match one of them. -/
  patterns : List LinePattern
  ignoresCase : Bool
  isWhole : Bool
  isWord : Bool
  isInverted : Bool

namespace LineSearch

/-- Whether a part of a text has no word character right before it and right behind it. -/
def standsAlone (subject : LinePattern.Subject) (first last : Nat) : Bool :=
  !(first > 0 && subject.isWord (first - 1)) && !subject.isWord last

/-- The first match from a place on; of those that begin there the longest that will do. -/
def find? (search : LineSearch) (line : List Char) (start : Nat) : Option (Nat × Nat) :=
  let subject : LinePattern.Subject := ⟨line.toArray, search.ignoresCase, false⟩
  let size := line.length
  let fits (first last : Nat) : Bool :=
    (!search.isWhole || (first = 0 && last = size)) &&
      (!search.isWord || standsAlone subject first last)
  (List.range (size + 1 - start)).findSome? fun n =>
    let first := start + n
    let ends := search.patterns.flatMap fun pattern =>
      (LinePattern.reach subject pattern ⟨first, []⟩).map LinePattern.Reach.place
    (ends.filter (fits first)).max?.map fun last => (first, last)

def findAll (search : LineSearch) (line : List Char) : Nat → Nat → List (Nat × Nat)
  | 0, _ => []
  | fuel + 1, start =>
      match search.find? line start with
      | none => []
      | some (first, last) =>
          if last = first then
            if first < line.length then search.findAll line fuel (first + 1) else []
          else (first, last) :: search.findAll line fuel last

def isSelected (search : LineSearch) (line : List Char) : Bool :=
  (search.find? line 0).isSome != search.isInverted

end LineSearch

/-- A line of a file that is searched. -/
structure SearchedLine where
  number : Nat
  offset : Nat
  text : List Char

/-- The lines of a text that end in a character, with their numbers and offsets. -/
def searchedLines (ended : Char) (text : String) : List SearchedLine :=
  let pieces := Text.pieces ended text.toList
  let pieces := if pieces.getLast? = some [] then pieces.dropLast else pieces
  let (lines, _) := pieces.zipIdx.foldl
    (fun ((lines, offset) : List SearchedLine × Nat) (text, index) =>
      (⟨index + 1, offset, text⟩ :: lines, offset + text.length + 1))
    ([], 0)
  lines.reverse

namespace Invocation

def grepOptions : OptionSpec where
  flags := "EFGPivwxycLlnqsbHhorRazTUZ"
  valued := "efmABCdD"
  names := [.flag "extended-regexp" "E", .flag "fixed-strings" "F", .flag "basic-regexp" "G",
    .flag "perl-regexp" "P", .valued "regexp" "e", .valued "file" "f", .flag "ignore-case" "i",
    .alone "no-ignore-case", .flag "word-regexp" "w", .flag "line-regexp" "x",
    .flag "null-data" "z", .flag "no-messages" "s", .flag "invert-match" "v",
    .valued "max-count" "m", .flag "byte-offset" "b", .flag "line-number" "n",
    .alone "line-buffered", .flag "with-filename" "H", .flag "no-filename" "h",
    ⟨"label", "label", .required⟩, .flag "only-matching" "o", .flag "quiet" "q",
    .flag "silent" "q", ⟨"binary-files", "binary-files", .required⟩, .flag "text" "a",
    .valued "directories" "d", .valued "devices" "D", .flag "recursive" "r",
    .flag "dereference-recursive" "R", ⟨"include", "include", .required⟩,
    ⟨"exclude", "exclude", .required⟩, ⟨"exclude-dir", "exclude-dir", .required⟩,
    .flag "null" "Z", .flag "files-without-match" "L",
    .flag "files-with-matches" "l", .flag "count" "c", .flag "initial-tab" "T",
    .valued "before-context" "B", .valued "after-context" "A", .valued "context" "C",
    ⟨"color", "color", .optional⟩, ⟨"colour", "color", .optional⟩]

def grepHint (name : String) : String :=
  "Usage: " ++ name ++ " [OPTION]... PATTERNS [FILE]...\nTry '" ++ name ++
    " --help' for more information.\n"

def literalPattern (text : List Char) : LinePattern :=
  text.foldl (fun pattern c => .sequence pattern (.literal c)) .nothing

def grepPatterns (call : Invocation) (arguments : Arguments) :
    Except String (List (List Char) × List String) := do
  let given := arguments.values "e"
  let fromFiles ← (arguments.values "f").mapM fun path =>
    match call.content path with
    | .ok content => .ok (linesOf content)
    | .error e => .error (path ++ ": " ++ e.text)
  if given.isEmpty && (arguments.values "f").isEmpty then
    match arguments.operands with
    | [] => throw ""
    | first :: rest => return (Text.pieces '\n' first.toList, rest)
  else
    let lines := given.flatMap fun text => Text.pieces '\n' text.toList
    return (lines ++ fromFiles.flatten, arguments.operands)

def grepContext (arguments : Arguments) : Except String (Nat × Nat × Bool) := do
  let read (key : String) : Except String (Option Nat) :=
    (arguments.value? key).mapM fun text =>
      match Number.natural? text.toList with
      | some n => .ok n
      | none => .error (text ++ ": invalid context length argument")
  let both? ← read "C"
  let before? ← read "B"
  let behind? ← read "A"
  let some? := (before? <|> behind?) <|> both?
  return ((before? <|> both?).getD 0, (behind? <|> both?).getD 0, some?.isSome)

/-- The lines that are shown, each with whether it is selected itself, and with whether a gap is in
front of it. -/
def withContext (before behind : Nat) (lines : List (SearchedLine × Bool)) :
    List (SearchedLine × Bool × Bool) :=
  let chosen := lines.filterMap fun (line, isSelected) =>
    if isSelected then some line.number else none
  let isNear (number : Nat) : Bool := chosen.any fun other =>
    number ≤ other + behind && other ≤ number + before
  let near := lines.filter fun (line, _) => isNear line.number
  let previous := none :: near.map fun (line, _) => some line.number
  (near.zip previous).map fun ((line, isSelected), previous?) =>
    (line, isSelected, previous?.any fun previous => previous + 1 < line.number)

/-- How what is found is shown. -/
structure SearchDisplay where
  arguments : Arguments
  isNamed : Bool
  ended : Char
  before : Nat
  behind : Nat
  hasContext : Bool
  most? : Option Nat

def SearchDisplay.text (display : SearchDisplay) (search : LineSearch) (name : String)
    (lines : List (SearchedLine × Bool)) : String :=
  let has := display.arguments.has
  let front (mark : String) (number offset : Nat) : String :=
    (if display.isNamed then name ++ (if has "Z" then "\x00" else mark) else "") ++
      (if has "n" then toString number ++ mark else "") ++
      (if has "b" then toString offset ++ mark else "")
  let ended := String.ofList [display.ended]
  let shown (line : SearchedLine) (isSelected : Bool) : String :=
    if has "o" then
      if !isSelected || search.isInverted then ""
      else
        String.join ((search.findAll line.text (line.text.length + 2) 0).map fun (first, last) =>
          front ":" line.number (line.offset + first) ++
            String.ofList ((line.text.drop first).take (last - first)) ++ ended)
    else
      front (if isSelected then ":" else "-") line.number line.offset ++
        String.ofList line.text ++ ended
  let near := withContext display.before display.behind lines
  String.join (near.map fun (line, isSelected, isBehindGap) =>
    (if isBehindGap && display.hasContext then "--\n" else "") ++ shown line isSelected)

/-- Takes the lines up to the most that may be selected. What follows the last of them is context at
most. -/
def limitSelected (most? : Option Nat) (lines : List (SearchedLine × Bool)) :
    List (SearchedLine × Bool) :=
  match most? with
  | none => lines
  | some most =>
      let (limited, _) := lines.foldl
        (fun ((limited, count) : List (SearchedLine × Bool) × Nat) (line, isSelected) =>
          if count < most then ((line, isSelected) :: limited, count + if isSelected then 1 else 0)
          else if isSelected then (limited, most + 1)
          else if count = most then ((line, false) :: limited, count)
          else (limited, count))
        ([], 0)
      limited.reverse

def isDeepSearch (arguments : Arguments) : Bool :=
  arguments.hasAny ["r", "R"] || arguments.value? "d" = some "recurse"

def isIncluded (arguments : Arguments) (name : String) : Bool :=
  let fits (key : String) : Bool := (arguments.values key).any fun glob =>
    (Pattern.ofText glob).fits name.toList
  ((arguments.values "include").isEmpty || fits "include") && !fits "exclude"

/-- The files that an operand stands for. Files in the working directory are named without it where
there was no operand. -/
def grepFiles (call : Invocation) (arguments : Arguments) (isImplied : Bool) (path : String) :
    List String :=
  if !isDeepSearch arguments || path = "-" then [path]
  else
    match call.tree.find call.directory path with
    | .ok (place, node) =>
        if !node.isDirectory then [path]
        else
          (call.tree.listing place).filterMap fun (below, node) =>
            let names := below.splitOn "/"
            let isExcluded := names.dropLast.any fun name =>
              (arguments.values "exclude-dir").any fun glob =>
                (Pattern.ofText glob).fits name.toList
            if node.isFile && !isExcluded && isIncluded arguments (names.getLastD "") then
              some (if isImplied then below else Path.push path below)
            else none
    | .error _ => [path]

/-- What has come out of a search so far. -/
structure SearchState where
  reply : Reply
  isFound : Bool
  isFailed : Bool

def searchFile (call : Invocation) (display : SearchDisplay) (search : LineSearch)
    (state : SearchState) (path : String) : SearchState :=
  let has := display.arguments.has
  let lineMark := if has "Z" then "\x00" else "\n"
  let name := if path = "-" then (display.arguments.value? "label").getD "(standard input)"
    else path
  match call.content path with
  | .error .isDirectory =>
      if display.arguments.value? "d" = some "skip" then state
      else
        { state with
          reply := if has "s" then state.reply
            else state.reply.err (call.message (path ++ ": " ++ OsError.isDirectory.text))
          isFailed := true }
  | .error e =>
      let reply := if has "s" then state.reply
        else state.reply.err (call.message (path ++ ": " ++ e.text))
      { state with reply := reply, isFailed := true }
  | .ok content =>
      let isShort := ["q", "l", "L", "c"].any has || display.most?.any (· ≤ 1)
      if !isShort && call.isOutput path then
        { state with
          reply := if has "s" then state.reply
            else state.reply.err (call.message (name ++ ": input file is also the output"))
          isFailed := true }
      else
      let all := (searchedLines display.ended content).map fun line =>
        (line, search.isSelected line.text)
      let lines := limitSelected display.most? all
      let lines := if display.most? = some 0 then [] else lines
      let count := lines.countP (·.2)
      let isFound := count > 0
      let isBinary := content.toList.contains '\x00' && !has "a" && !has "z"
      let text :=
        if has "q" then ""
        else if has "l" then if isFound then name ++ lineMark else ""
        else if has "L" then if isFound then "" else name ++ lineMark
        else if has "c" then
          (if display.isNamed then name ++ (if has "Z" then "\x00" else ":") else "") ++
            toString count ++ "\n"
        else if isBinary then ""
        else display.text search name lines
      let reply := state.reply.out text
      let isSummary := has "q" || has "l" || has "L" || has "c"
      let reply :=
        if isBinary && isFound && !isSummary then
          reply.err (call.message (name ++ ": binary file matches"))
        else reply
      let isFound := if has "L" then !isFound else isFound
      { state with reply := reply, isFound := state.isFound || isFound }

/-- How much of the input a search uses that stops behind so many selected lines. -/
def usedFront (call : Invocation) (display : SearchDisplay) (search : LineSearch) (most : Nat) :
    Use :=
  match call.content "-" with
  | .error _ => .nothing
  | .ok content =>
      let lines := searchedLines display.ended content
      let selected := lines.filter fun line => search.isSelected line.text
      match selected[most - 1]? with
      | some line => .front (min content.length (line.offset + line.text.length + 1))
      | none => .all

/-- How much of the input a search uses. One that only tells whether it finds something stops early,
but it leaves nothing of a file. -/
def searchUse (call : Invocation) (display : SearchDisplay) (search : LineSearch)
    (paths : List String) : Use :=
  match display.most?, paths with
  | some (most + 1), ["-"] => call.usedFront display search (most + 1)
  | _, ["-"] =>
      if display.arguments.has "q" && call.inputSize?.isNone then call.usedFront display search 1
      else .all
  | _, _ => useOf paths

/-- What is meant by the arguments of a search. -/
structure SearchPlan where
  search : LineSearch
  display : SearchDisplay
  paths : List String
  skipped : List String

/-- The patterns of texts, and the operators in them that have nothing to work on. -/
def searchPatterns (kind : String) (texts : List (List Char)) :
    Except String (List LinePattern × List String) := do
  if kind = "F" then return (texts.map literalPattern, [])
  let parsed ← texts.mapM (LinePattern.ofText ⟨kind = "E" || kind = "P", [], false, true⟩)
  return (parsed.map LinePattern.Parsed.pattern, parsed.flatMap LinePattern.Parsed.skipped)

def searchPlan (call : Invocation) (arguments : Arguments) : Except String SearchPlan := do
  let (texts, operands) ← call.grepPatterns arguments
  let (before, behind, hasContext) ← grepContext arguments
  let most? ← (arguments.value? "m").mapM fun text =>
    match Number.decimal? text with
    | some n => .ok n
    | none => .error "invalid max count"
  let (patterns, skipped) ←
    searchPatterns ((arguments.last? ["E", "F", "G", "P"]).getD "G") texts
  let isDeep := isDeepSearch arguments
  let paths := if operands.isEmpty then [if isDeep then "." else "-"] else operands
  let isNamed :=
    match arguments.last? ["H", "h"] with
    | some "H" => true
    | some _ => false
    | none => isDeep || paths.length > 1
  let search : LineSearch :=
    ⟨patterns, arguments.hasAny ["i", "y"], arguments.has "x", arguments.has "w",
      arguments.has "v"⟩
  let most? := most?.bind fun most => if most < 0 then none else some most.toNat
  let display : SearchDisplay :=
    ⟨arguments, isNamed, if arguments.has "z" then '\x00' else '\n', before, behind, hasContext,
      most?⟩
  return ⟨search, display, paths.flatMap (call.grepFiles arguments operands.isEmpty), skipped⟩

/-- The arguments with numbers among the letters of an option spelled as the context they stand for.
-/
def expandContext (args : List String) : List String :=
  args.flatMap fun arg =>
    match arg.toList with
    | '-' :: inner =>
        let digits := inner.filter Char.isDigit
        let letters := inner.filter fun c => !c.isDigit
        if digits.isEmpty || !letters.all (grepOptions.flags.toList.contains ·) then [arg]
        else
          ["-C", String.ofList digits] ++
            if letters.isEmpty then [] else [String.ofList ('-' :: letters)]
    | _ => [arg]

def grep (call : Invocation) : Reply :=
  match grepOptions.read (expandContext call.args) with
  | .error text =>
      { call.done.err (call.message text ++ grepHint call.name) with code := 2 }
  | .ok arguments =>
      if arguments.has "version" then call.write call.about
      else if arguments.has "help" then call.write (grepHint call.name)
      else
        match call.searchPlan arguments with
        | .error "" => { call.done.err (grepHint call.name) with code := 2 }
        | .error text => call.fail text 2
        | .ok plan =>
            let start := plan.skipped.foldl
              (fun reply name =>
                reply.err (call.message ("warning: " ++ name ++ " at start of expression")))
              call.done
            let last := plan.paths.foldl (searchFile call plan.display plan.search)
              ⟨start, false, false⟩
            let code :=
              if last.isFailed && !(last.isFound && arguments.has "q") then 2
              else if last.isFound then 0 else 1
            { last.reply with
              code := code, isOrdered := true
              use := call.searchUse plan.display plan.search plan.paths }

end Invocation
end CallScript.Shell
