import CallScript.Shell.Utility.Touch

/-!
# Parts of texts

The utilities that show the beginning of a text, its end, or some columns of its lines.
-/

namespace CallScript.Shell

/-- How much of a text is meant: a number of lines or bytes, counted from one end. -/
structure Extent where
  isBytes : Bool
  count : Nat
  isOpposite : Bool

namespace Extent

def pieces (text : List Char) : List (List Char) :=
  let lines := linesOf (String.ofList text)
  let isEnded := text.getLast? = some '\n'
  lines.zipIdx.map fun (line, index) =>
    if index + 1 < lines.length || isEnded then line ++ ['\n'] else line

def front (extent : Extent) (text : List Char) : List Char :=
  let count (size : Nat) : Nat := if extent.isOpposite then size - extent.count else extent.count
  if extent.isBytes then text.take (count text.length)
  else
    let lines := pieces text
    (lines.take (count lines.length)).flatten

def back (extent : Extent) (text : List Char) : List Char :=
  let passed (size : Nat) : Nat :=
    if extent.isOpposite then extent.count - 1 else size - extent.count
  if extent.isBytes then text.drop (passed text.length)
  else
    let lines := pieces text
    (lines.drop (passed lines.length)).flatten

end Extent

namespace Invocation

/-! ## The beginning and the end -/

def count? (text : List Char) : Option Nat := do
  guard (text.head?.any Char.isDigit)
  size? text

/-- The extent that a value of an option means. The sign of the opposite end stands in front. -/
def extentOf (isBytes : Bool) (opposite : Char) (text : String) : Except String Extent :=
  let (isOpposite, digits) :=
    match text.toList with
    | c :: rest =>
        if c = opposite then (true, rest) else if c = '+' || c = '-' then (false, rest)
        else (false, text.toList)
    | [] => (false, [])
  match count? digits with
  | some count => .ok ⟨isBytes, count, isOpposite⟩
  | none =>
      let shown := if opposite = '-' && isOpposite then String.ofList digits else text
      .error ("invalid number of " ++ (if isBytes then "bytes" else "lines") ++ ": " ++
        quoted shown)

/-- The first argument in its short form, a number with a letter for the unit behind it. -/
def expandShort (signs : List Char) (args : List String) : List String :=
  match args with
  | first :: rest =>
      match first.toList with
      | sign :: text =>
          let digits := text.takeWhile Char.isDigit
          let letters := text.drop digits.length
          let number := String.ofList (if sign = '+' then sign :: digits else digits)
          if signs.contains sign && !digits.isEmpty then
            match letters with
            | [] | ['l'] => ["-n", number] ++ rest
            | ['c'] => ["-c", number] ++ rest
            | ['q'] => ["-q", "-n", number] ++ rest
            | ['v'] => ["-v", "-n", number] ++ rest
            | _ => args
          else args
      | [] => args
  | [] => []

def extentOptions : OptionSpec where
  flags := "qvzf"
  valued := "nc"
  names := [.valued "lines" "n", .valued "bytes" "c", .flag "quiet" "q", .flag "silent" "q",
    .flag "verbose" "v", .flag "zero-terminated" "z", ⟨"follow", "f", .optional⟩]

def showParts (call : Invocation) (opposite : Char) (part : Extent → List Char → List Char)
    (arguments : Arguments) : Reply :=
  let isBytes := arguments.last? ["n", "c"] = some "c"
  let text := (arguments.value? (if isBytes then "c" else "n")).getD "10"
  match extentOf isBytes opposite text with
  | .error text => call.fail text 1
  | .ok extent =>
      let paths := pathsOf arguments
      let isTitled := arguments.last? ["q", "v"] = some "v" ||
        (paths.length > 1 && !arguments.has "q")
      let name (path : String) : String := if path = "-" then "standard input" else path
      let title (path : String) (isFirst : Bool) : String :=
        if isTitled then (if isFirst then "" else "\n") ++ "==> " ++ name path ++ " <==\n" else ""
      let (reply, _) := paths.foldl
        (fun ((reply, isFirst) : Reply × Bool) path =>
          match call.content path with
          | .ok content =>
              let shown := String.ofList (part extent content.toList)
              (reply.out (title path isFirst ++ shown), false)
          | .error .isDirectory =>
              (call.warn (reply.out (title path isFirst))
                ("error reading " ++ quoted (name path) ++ ": " ++ OsError.isDirectory.text), false)
          | .error e =>
              (call.warn reply
                ("cannot open " ++ quoted (name path) ++ " for reading: " ++ e.text), isFirst))
        (call.done, true)
      let shownSize := match call.content "-" with
        | .ok content => (part extent content.toList).length
        | .error _ => 0
      let isFront := opposite = '-'
      { reply with
        use :=
          if !paths.contains "-" then .nothing
          else if !isFront then .all
          else if isBytes then .exactly shownSize
          else .front shownSize }

def head (call : Invocation) : Reply :=
  withOptions extentOptions 1 (fun call => showParts call '-' Extent.front)
    { call with args := expandShort ['-'] call.args }

def tail (call : Invocation) : Reply :=
  withOptions extentOptions 1 (fun call => showParts call '+' Extent.back)
    { call with args := expandShort ['-', '+'] call.args }

/-! ## Columns -/

/-- The columns from one on, up to another one if there is an end. -/
structure ColumnRange where
  first : Nat
  last? : Option Nat

def ColumnRange.has (range : ColumnRange) (column : Nat) : Bool :=
  range.first ≤ column && range.last?.all fun last => column ≤ last

/-- What a list of columns is made of. -/
structure ColumnKind where
  zero : String
  value : String
  range : String

def fieldKind : ColumnKind :=
  ⟨"fields are numbered from 1", "invalid field value ", "invalid field range"⟩

def byteKind : ColumnKind :=
  ⟨"byte/character positions are numbered from 1", "invalid byte/character position ",
    "invalid byte or character range"⟩

def columnRange (kind : ColumnKind) (piece : List Char) : Except String ColumnRange := do
  let number (digits : List Char) : Except String Nat :=
    match Number.natural? digits with
    | some 0 => throw kind.zero
    | some n => return n
    | none => throw (kind.value ++ quoted (String.ofList digits))
  match Text.pieces '-' piece with
  | [[]] => throw kind.zero
  | [digits] =>
      let n ← number digits
      return ⟨n, some n⟩
  | [[], []] => throw "invalid range with no endpoint: -"
  | [first, last] =>
      let first ← if first.isEmpty then pure 1 else number first
      if last.isEmpty then return ⟨first, none⟩
      let last ← number last
      if last < first then throw "invalid decreasing range"
      return ⟨first, some last⟩
  | _ => throw kind.range

def columnList (kind : ColumnKind) (text : String) : Except String (List ColumnRange) :=
  (Text.pieces ',' text.toList |>.flatMap (Text.pieces ' ')).mapM (columnRange kind)

def cutOptions : OptionSpec where
  flags := "nsz"
  valued := "bcdf"
  names := [.valued "bytes" "b", .valued "characters" "c", .valued "delimiter" "d",
    .valued "fields" "f", .alone "complement", .flag "only-delimited" "s",
    ⟨"output-delimiter", "output-delimiter", .required⟩, .flag "zero-terminated" "z"]

/-- Runs of chosen columns. A run ends where nothing is chosen, and where a range begins that does
not overlap the one before. -/
def chosenRuns (isChosen : Nat → Bool) (starts : Nat → Bool) :
    Nat → List Char → List (List Char)
  | _, [] => []
  | column, c :: rest =>
      let others := chosenRuns isChosen starts (column + 1) rest
      if !isChosen column then others
      else
        let isJoined := isChosen (column + 1) && !starts (column + 1) && !rest.isEmpty
        match isJoined, others with
        | true, run :: runs => (c :: run) :: runs
        | _, runs => [c] :: runs

def cutLine (arguments : Arguments) (isFields : Bool) (delimiter : Char)
    (ranges : List ColumnRange) (line : List Char) : Option (List Char) :=
  let isComplement := arguments.has "complement"
  let isChosen (column : Nat) : Bool := (ranges.any fun range => range.has column) != isComplement
  let between? := (arguments.value? "output-delimiter").map String.toList
  if isFields then
    let fields := Text.pieces delimiter line
    if fields.length = 1 then if arguments.has "s" then none else some line
    else
      let chosen := fields.zipIdx.filterMap fun (field, index) =>
        if isChosen (index + 1) then some field else none
      some ((between?.getD [delimiter]).intercalate chosen)
  else
    let starts (column : Nat) : Bool :=
      !isComplement && (ranges.any fun range => range.first = column) &&
        !ranges.any fun range => range.has column && range.has (column - 1)
    some ((between?.getD []).intercalate (chosenRuns isChosen starts 1 line))

def cut (call : Invocation) (arguments : Arguments) : Reply :=
  let lists := arguments.options.filter fun option => ["b", "c", "f"].contains option.1
  let isFields := arguments.has "f"
  match lists with
  | [] => call.misuse "you must specify a list of bytes, characters, or fields" 1
  | [(_, list?)] =>
      match columnList (if isFields then fieldKind else byteKind) (list?.getD "") with
      | .error text => call.misuse text 1
      | .ok ranges =>
          let delimiter := (arguments.value? "d").getD "\t"
          if delimiter.length > 1 then
            call.misuse "the delimiter must be a single character" 1
          else if !isFields && arguments.has "d" then
            call.misuse "an input delimiter may be specified only when operating on fields" 1
          else if !isFields && arguments.has "s" then
            call.misuse
              "suppressing non-delimited lines makes sense\n\tonly when operating on fields" 1
          else
            let ended := if arguments.has "z" then '\x00' else '\n'
            call.eachContent (pathsOf arguments) fun reply _ content =>
              let pieces := Text.pieces ended content.toList
              let lines := if pieces.getLast? = some [] then pieces.dropLast else pieces
              let mark := delimiter.toList.headD '\x00'
              let cuts := lines.filterMap (cutLine arguments isFields mark ranges)
              reply.out (String.ofList (cuts.flatMap fun line => line ++ [ended]))
  | _ => call.misuse "only one list may be specified" 1

end Invocation
end CallScript.Shell
