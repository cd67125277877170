import CallScript.Shell.Number
import CallScript.Shell.Utility.Basic

/-!
# Lines in another form

The utilities that number lines, turn them round, break them, widen their tabs and put lines side by
side.
-/

namespace CallScript.Shell

def endedLines (text : List Char) : List (List Char × Bool) :=
  let lines := linesOf (String.ofList text)
  let isEnded := text.getLast? = some '\n'
  lines.zipIdx.map fun (line, index) => (line, index + 1 < lines.length || isEnded)

def mapLines (change : List Char → List Char) (text : List Char) : List Char :=
  (endedLines text).flatMap fun (line, isEnded) =>
    change line ++ if isEnded then ['\n'] else []

namespace Invocation

def positive? (text : String) : Except String Nat :=
  match Number.natural? text.toList with
  | some 0 => .error (quoted text ++ ": Numerical result out of range")
  | some n => .ok n
  | none => .error (quoted text)

/-! ## Numbers in front of lines -/

def nlOptions : OptionSpec where
  flags := "p"
  valued := "bdfhilnsvw"
  names := [.valued "body-numbering" "b", .valued "section-delimiter" "d",
    .valued "footer-numbering" "f", .valued "header-numbering" "h",
    .valued "line-increment" "i", .valued "join-blank-lines" "l", .valued "number-format" "n",
    .flag "no-renumber" "p", .valued "number-separator" "s",
    .valued "starting-line-number" "v", .valued "number-width" "w"]

/-- How line numbers are written. -/
structure LineNumbering where
  style : String
  step : Int
  format : String
  separator : List Char
  width : Nat

def LineNumbering.number (numbering : LineNumbering) (n : Int) : List Char :=
  let sign := if n < 0 then ['-'] else []
  let digits := Nat.toDigits 10 n.natAbs
  let fill (c : Char) : List Char :=
    List.replicate (numbering.width - digits.length - sign.length) c
  match numbering.format with
  | "ln" => sign ++ digits ++ fill ' '
  | "rz" => sign ++ fill '0' ++ digits
  | _ => fill ' ' ++ sign ++ digits

/-- Writes lines with their numbers. A line of nothing but section marks starts anew. -/
def LineNumbering.write (numbering : LineNumbering) (start : Int) :
    Int → List (List Char) → List Char
  | _, [] => []
  | n, line :: rest =>
      if line = "\\:\\:".toList || line = "\\:\\:\\:".toList || line = "\\:".toList then
        '\n' :: numbering.write start start rest
      else if numbering.style = "a" || (numbering.style = "t" && !line.isEmpty) then
        numbering.number n ++ numbering.separator ++ line ++
          '\n' :: numbering.write start (n + numbering.step) rest
      else
        List.replicate (numbering.width + numbering.separator.length) ' ' ++ line ++
          '\n' :: numbering.write start n rest

def nl (call : Invocation) (arguments : Arguments) : Reply :=
  let value (key default : String) : String := (arguments.value? key).getD default
  let number (key default problem : String) : Except String Int :=
    match Number.decimal? (value key default) with
    | some n => .ok n
    | none => .error ("invalid " ++ problem ++ ": " ++ quoted (value key default))
  let plan : Except String (LineNumbering × Int) := do
    let start ← number "v" "1" "starting line number"
    let step ← number "i" "1" "line number increment"
    let width ← (positive? (value "w" "6")).mapError ("invalid line number field width: " ++ ·)
    return (⟨value "b" "t", step, value "n" "rn", (value "s" "\t").toList, width⟩, start)
  match plan with
  | .error text => call.fail text 1
  | .ok (numbering, start) =>
      let paths := pathsOf arguments
      let (reply, lines) := paths.foldl
        (fun ((reply, lines) : Reply × List (List Char)) path =>
          match call.content path with
          | .ok content => (reply, lines ++ linesOf content)
          | .error e => (call.warn reply (shown path ++ ": " ++ e.text), lines))
        (call.done, [])
      { reply.out (String.ofList (numbering.write start start lines)) with use := useOf paths }

/-! ## Changes within lines -/

def rev (call : Invocation) (arguments : Arguments) : Reply :=
  let paths := pathsOf arguments
  let reply := paths.foldl
    (fun reply path =>
      match call.content path with
      | .ok content => reply.out (String.ofList (mapLines List.reverse content.toList))
      | .error e => call.warn reply ("cannot open " ++ path ++ ": " ++ e.text))
    call.done
  { reply with use := useOf paths }

def foldOptions : OptionSpec where
  flags := "bs"
  valued := "w"
  names := [.flag "bytes" "b", .flag "spaces" "s", .valued "width" "w"]

def columnBehind (countsBytes : Bool) (column : Nat) (c : Char) : Nat :=
  if countsBytes then column + 1
  else if c = '\t' then column + 8 - column % 8
  else if c = '\x08' then column - 1
  else if c = '\x0d' then 0
  else column + 1

/-- Breaks a line where it becomes too wide, and if that is asked for behind a blank. `current` is
what has been taken since the last break, the last character first. -/
def foldLine (width : Nat) (countsBytes atBlanks : Bool) :
    Nat → List Char → Nat → List Char → List Char
  | 0, current, _, rest => current.reverse ++ rest
  | _, current, _, [] => current.reverse
  | fuel + 1, current, column, c :: rest =>
      let behind := columnBehind countsBytes column c
      if behind ≤ width then foldLine width countsBytes atBlanks fuel (c :: current) behind rest
      else if current.isEmpty then
        foldLine width countsBytes atBlanks fuel [c] behind rest
      else
        let isBlank (c : Char) : Bool := c = ' ' || c = '\t'
        let kept := if atBlanks then current.dropWhile (!isBlank ·) else current
        let kept := if kept.isEmpty then current else kept
        let moved := (current.take (current.length - kept.length)).reverse
        kept.reverse ++ '\n' :: foldLine width countsBytes atBlanks fuel [] 0 (moved ++ c :: rest)

def fold (call : Invocation) (arguments : Arguments) : Reply :=
  match positive? ((arguments.value? "w").getD "80") with
  | .error text => call.fail ("invalid number of columns: " ++ text) 1
  | .ok width =>
      call.eachContent (pathsOf arguments) fun reply _ content =>
        let change (line : List Char) : List Char :=
          foldLine width (arguments.has "b") (arguments.has "s")
            ((line.length + 1) * (line.length + 2)) [] 0 line
        reply.out (String.ofList (mapLines change content.toList))

def expandWidth (key : String) (args : List String) : List String :=
  args.flatMap fun arg =>
    match arg.toList with
    | '-' :: digits =>
        if (Number.natural? digits).isSome then [key, String.ofList digits] else [arg]
    | _ => [arg]

def expandOptions : OptionSpec where
  flags := "i"
  valued := "t"
  names := [.flag "initial" "i", .valued "tabs" "t"]

def tabStops (text : String) : Except String (List Nat) := do
  let pieces := (Text.pieces ',' text.toList).flatMap (Text.pieces ' ')
  let stops ← pieces.mapM fun piece =>
    match Number.natural? piece with
    | some n => .ok n
    | none => .error ("tab size contains invalid character(s): " ++ quoted (String.ofList piece))
  if stops.contains 0 then throw "tab size cannot be 0"
  return stops

def tabWidth (stops : List Nat) (column : Nat) : Nat :=
  match stops with
  | [size] => size - column % size
  | _ => ((stops.find? fun stop => column < stop).map (· - column)).getD 1

def expandLine (stops : List Nat) (onlyFront : Bool) : Nat → List Char → List Char
  | _, [] => []
  | column, c :: rest =>
      if c = '\t' then
        let width := tabWidth stops column
        List.replicate width ' ' ++ expandLine stops onlyFront (column + width) rest
      else if onlyFront && c ≠ ' ' then c :: rest
      else
        let behind := if c = '\x08' then column - 1 else column + 1
        c :: expandLine stops onlyFront behind rest

def expand (call : Invocation) (arguments : Arguments) : Reply :=
  match tabStops ((arguments.value? "t").getD "8") with
  | .error text => call.fail text 1
  | .ok stops =>
      call.eachContent (pathsOf arguments) fun reply _ content =>
        reply.out (String.ofList
          (mapLines (expandLine stops (arguments.has "i") 0) content.toList))

/-! ## Lines side by side -/

def pasteOptions : OptionSpec where
  flags := "sz"
  valued := "d"
  names := [.valued "delimiters" "d", .flag "serial" "s", .flag "zero-terminated" "z"]

def delimitersOf : List Char → Option (List (List Char))
  | [] => some []
  | ['\\'] => none
  | '\\' :: c :: rest => do
      let others ← delimitersOf rest
      let meant := [('0', []), ('b', ['\x08']), ('f', ['\x0c']), ('n', ['\n']), ('r', ['\x0d']),
        ('t', ['\t']), ('v', ['\x0b'])]
      return (meant.lookup c).getD [c] :: others
  | c :: rest => (delimitersOf rest).map ([c] :: ·)

def joinInTurn (delimiters : List (List Char)) (texts : List (List Char)) : List Char :=
  texts.zipIdx.flatMap fun (text, index) =>
    if index = 0 then text
    else (delimiters[(index - 1) % delimiters.length]?).getD [] ++ text

/-- Where the lines of each operand come from. All dashes share the lines of one input. -/
def columnsOf (paths : List String) (contents : List (List (List Char))) :
    List (List (List Char)) :=
  let dashes := paths.countP (· = "-")
  let (columns, _) := (paths.zip contents).foldl
    (fun ((columns, seen) : List (List (List Char)) × Nat) (path, lines) =>
      if path = "-" then
        let own := lines.zipIdx.filterMap fun (line, index) =>
          if index % dashes = seen then some line else none
        (columns ++ [own], seen + 1)
      else (columns ++ [lines], seen))
    ([], 0)
  columns

def paste (call : Invocation) (arguments : Arguments) : Reply :=
  let ended := if arguments.has "z" then '\x00' else '\n'
  let list := (arguments.value? "d").getD "\t"
  let paths := pathsOf arguments
  match delimitersOf list.toList with
  | none => call.fail ("delimiter list ends with an unescaped backslash: " ++ list) 1
  | some delimiters =>
      let delimiters := if delimiters.isEmpty then [[]] else delimiters
      let lines (content : String) : List (List Char) :=
        let pieces := Text.pieces ended content.toList
        if pieces.getLast? = some [] then pieces.dropLast else pieces
      let written (rows : List (List (List Char))) : String :=
        String.ofList (rows.flatMap fun row => joinInTurn delimiters row ++ [ended])
      let reply :=
        if arguments.has "s" then
          paths.foldl
            (fun reply path =>
              match call.content path with
              | .ok content => reply.out (written [lines content])
              | .error e => call.warn reply (shown path ++ ": " ++ e.text))
            call.done
        else
          match paths.mapM fun path => (call.content path).mapError (path, ·) with
          | .error (path, e) => call.warn call.done (shown path ++ ": " ++ e.text)
          | .ok contents =>
              let columns := columnsOf paths (contents.map lines)
              let height := (columns.map List.length).foldl max 0
              call.done.out (written ((List.range height).map fun row =>
                columns.map fun column => column[row]?.getD []))
      { reply with use := useOf paths }

end Invocation
end CallScript.Shell
