import CallScript.Shell.Utility.Touch

/-!
# Dumps

The utility that shows the bytes of files in lines, each with the offset of its first byte. A line
is shown once for each form that is asked for; fields of different forms stand below one another.
-/

namespace CallScript.Shell

/-- How the bytes of a field are shown. -/
inductive DumpForm where
  | char
  | name
  | octal
  | hex
  | signed
  | unsigned
deriving DecidableEq

structure DumpSpec where
  form : DumpForm
  size : Nat
  hasText : Bool

namespace DumpSpec

def width (spec : DumpSpec) : Nat :=
  match spec.form with
  | .char | .name => 3
  | .octal => (8 * spec.size + 2) / 3
  | .hex => 2 * spec.size
  | .signed => [(1, 4), (2, 6), (4, 11)].lookup spec.size |>.getD 20
  | .unsigned => [(1, 3), (2, 5), (4, 10)].lookup spec.size |>.getD 20

def controlNames : List String :=
  ["nul", "soh", "stx", "etx", "eot", "enq", "ack", "bel", "bs", "ht", "nl", "vt", "ff", "cr", "so",
    "si", "dle", "dc1", "dc2", "dc3", "dc4", "nak", "syn", "etb", "can", "em", "sub", "esc", "fs",
    "gs", "rs", "us", "sp"]

def charText (c : Char) : List Char :=
  if c = '\x00' then ['\\', '0']
  else if isPrintable c then [c]
  else if (escapeLetters.lookup c).isSome then escaped c
  else (escaped c).drop 1

def nameText (c : Char) : List Char :=
  let low := c.toNat % 128
  match controlNames[low]? with
  | some name => name.toList
  | none => if low = 127 then "del".toList else [Char.ofNat low]

def digits (base count n : Nat) : List Char :=
  let digits := Nat.toDigits base n
  List.replicate (count - digits.length) '0' ++ digits

def text (spec : DumpSpec) (bytes : List Char) : List Char :=
  let value := bytes.reverse.foldl (fun n c => n * 256 + c.toNat) 0
  let count := Nat.pow 256 spec.size
  match spec.form, bytes with
  | .char, c :: _ => charText c
  | .name, c :: _ => nameText c
  | .octal, _ => digits 8 spec.width value
  | .hex, _ => digits 16 spec.width value
  | .signed, _ =>
      let number : Int := if 2 * value ≥ count then (value : Int) - count else value
      (toString number).toList
  | _, _ => (toString value).toList

/-- The fields of a line. What a full line has to be filled up with is spread over all of its
fields, of which a shorter line has only the first ones. -/
def fields (spec : DumpSpec) (lineSize lineWidth : Nat) (bytes : List Char) : List Char :=
  let count := lineSize / spec.size
  let padding := lineWidth - spec.width * count
  let used := (bytes.length + spec.size - 1) / spec.size
  let place (n : Nat) : Nat := padding * (count - n) / count
  (List.range used).flatMap fun n =>
    let piece := (bytes.drop (n * spec.size)).take spec.size
    let piece := piece ++ List.replicate (spec.size - piece.length) '\x00'
    let shown := spec.text piece
    let width := place n - place (n + 1) + spec.width
    List.replicate (width - shown.length) ' ' ++ shown

def trailer (spec : DumpSpec) (lineSize lineWidth : Nat) (bytes : List Char) : List Char :=
  let count := lineSize / spec.size
  let missing := (lineSize - bytes.length) / spec.size
  let padding := (lineWidth - spec.width * count) * missing / count
  List.replicate (missing * spec.width + padding) ' ' ++ "  >".toList ++
    bytes.map (fun c => if isPrintable c then c else '.') ++ ['<']

/-! ## Reading forms -/

def splitSize (start : Nat) (text : List Char) : Except String (Nat × List Char) :=
  match text with
  | 'C' :: rest => .ok (1, rest)
  | 'S' :: rest => .ok (2, rest)
  | 'I' :: rest => .ok (4, rest)
  | 'L' :: rest => .ok (8, rest)
  | _ =>
      let number := text.takeWhile Char.isDigit
      let size := if number.isEmpty then start else Number.ofDigits 10 number
      if [1, 2, 4, 8].contains size then .ok (size, text.drop number.length)
      else .error (toString size)

def readAll (whole : String) : Nat → List Char → Except String (List DumpSpec)
  | 0, _ => .ok []
  | _, [] => .ok []
  | fuel + 1, c :: rest => do
      let numbers := [('o', DumpForm.octal), ('x', .hex), ('d', .signed), ('u', .unsigned)]
      let (form, size, rest) : DumpForm × Nat × List Char ←
        if c = 'c' then pure (.char, 1, rest)
        else if c = 'a' then pure (.name, 1, rest)
        else
          match numbers.lookup c with
          | none =>
              throw ("invalid character '" ++ String.ofList [c] ++ "' in type string '" ++ whole ++
                "'")
          | some form =>
              match splitSize 4 rest with
              | .ok (size, rest) => pure (form, size, rest)
              | .error size =>
                  throw ("invalid type string '" ++ whole ++
                    "';\nthis system doesn't provide a " ++ size ++ "-byte integral type")
      let (hasText, rest) : Bool × List Char :=
        match rest with
        | 'z' :: rest => (true, rest)
        | _ => (false, rest)
      return ⟨form, size, hasText⟩ :: (← readAll whole fuel rest)

end DumpSpec

namespace Invocation

def odOptions : OptionSpec where
  flags := "abBcdDefFhHiIlLoOsvxX"
  valued := "AjNSt"
  names := [.valued "address-radix" "A", .valued "skip-bytes" "j", .valued "read-bytes" "N",
    .valued "format" "t", .flag "output-duplicates" "v", ⟨"width", "w", .optional⟩,
    ⟨"strings", "S", .optional⟩, ⟨"endian", "endian", .required⟩]

def expandLineWidth (args : List String) : List String :=
  args.map fun arg =>
    if arg = "-w" then "--width"
    else if arg.startsWith "-w" then "--width=" ++ (arg.drop 2).toString
    else arg

def dumpLetters : List (String × String) :=
  [("a", "a"), ("b", "o1"), ("B", "o2"), ("c", "c"), ("d", "u2"), ("D", "u4"), ("h", "x2"),
    ("H", "x4"), ("i", "d4"), ("I", "d8"), ("l", "d8"), ("L", "d8"), ("o", "o2"), ("O", "o4"),
    ("s", "d2"), ("x", "x2"), ("X", "x4")]

def dumpSpecs (arguments : Arguments) : Except String (List DumpSpec) := do
  let asked := arguments.options.filterMap fun (key, value?) =>
    if key = "t" then value? else dumpLetters.lookup key
  let asked := if asked.isEmpty then ["o2"] else asked
  return (← asked.mapM fun text => DumpSpec.readAll text (text.length + 1) text.toList).flatten

/-- How a dump is laid out. -/
structure DumpLayout where
  specs : List DumpSpec
  offset? : Option (Nat × Nat)
  size : Nat
  showsRepeats : Bool
  isHighFirst : Bool

namespace DumpLayout

def offsetText (layout : DumpLayout) (offset : Nat) : List Char :=
  match layout.offset? with
  | some (base, count) => DumpSpec.digits base count offset
  | none => []

def pieceText (layout : DumpLayout) (offset : Nat) (bytes : List Char) : List Char :=
  let width := (layout.specs.map fun spec =>
    (spec.width + 1) * (layout.size / spec.size)).foldl max 0
  let front := layout.offsetText offset
  (layout.specs.zipIdx.flatMap fun (spec, index) =>
    let ordered :=
      if layout.isHighFirst then
        let count := (bytes.length + spec.size - 1) / spec.size
        (List.range count).flatMap fun n =>
          let piece := (bytes.drop (n * spec.size)).take spec.size
          (piece ++ List.replicate (spec.size - piece.length) '\x00').reverse
      else bytes
    (if index = 0 then front else front.map fun _ => ' ') ++
      spec.fields layout.size width ordered ++
      (if spec.hasText then spec.trailer layout.size width bytes else []) ++ ['\n'])

/-- The lines for the rest of the input. A full piece that is like the one in front of it is shown
by a star, and only once. -/
def text (layout : DumpLayout) : Nat → Nat → Option (List Char) → Bool → List Char → List Char
  | 0, _, _, _, _ => []
  | _, offset, _, _, [] =>
      if layout.offset?.isSome then layout.offsetText offset ++ ['\n'] else []
  | fuel + 1, offset, previous?, isStarred, bytes =>
      let piece := bytes.take layout.size
      let rest := bytes.drop layout.size
      let next := offset + piece.length
      if !layout.showsRepeats && piece.length = layout.size && previous? = some piece then
        (if isStarred then [] else ['*', '\n']) ++ text layout fuel next previous? true rest
      else layout.pieceText offset piece ++ text layout fuel next (some piece) false rest

end DumpLayout

def dumpLayout (arguments : Arguments) : Except String DumpLayout := do
  let offset? ←
    match (arguments.value? "A").getD "o" with
    | "o" => .ok (some (8, 7))
    | "d" => .ok (some (10, 7))
    | "x" => .ok (some (16, 6))
    | "n" => .ok none
    | text =>
        .error ("invalid output address radix '" ++ text ++
          "'; it must be one character from [doxn]")
  let specs ← dumpSpecs arguments
  let unit := (specs.map DumpSpec.size).foldl max 1
  let size ←
    match arguments.options.reverse.find? fun option => option.1 = "w" with
    | none => .ok 16
    | some (_, none) => .ok 32
    | some (_, some text) =>
        match Number.natural? text.toList with
        | some n => .ok (if n % unit = 0 && n > 0 then n else unit)
        | none => .error ("invalid --width argument '" ++ text ++ "'")
  return ⟨specs, offset?, size, arguments.has "v", arguments.value? "endian" = some "big"⟩

def operandOffset? (text : String) : Option Nat := do
  let digits := if text.startsWith "+" then text.toList.drop 1 else text.toList
  if digits.getLast? = some '.' then Number.natural? digits.dropLast
  else
    guard (!digits.isEmpty && digits.all fun c => '0' ≤ c && c < '8')
    return Number.ofDigits 8 digits

def dumpOperands (arguments : Arguments) : List String × Option Nat :=
  if arguments.hasAny ["A", "j", "N", "t", "v", "w"] then (arguments.operands, none)
  else
    match arguments.operands with
    | [text] =>
        if text.startsWith "+" && (operandOffset? text).isSome then ([], operandOffset? text)
        else ([text], none)
    | [path, text] =>
        let skipped? := operandOffset? text
        if skipped?.isSome then ([path], skipped?) else ([path, text], none)
    | operands => (operands, none)

def od (call : Invocation) (arguments : Arguments) : Reply :=
  let count (key option : String) : Except String (Option Nat) :=
    (arguments.value? key).mapM fun text =>
      match size? text.toList with
      | some n => .ok n
      | none => .error ("invalid " ++ option ++ " argument '" ++ text ++ "'")
  let plan : Except String (DumpLayout × Option Nat × Option Nat) := do
    let skip? ← count "j" "-j"
    let most? ← count "N" "-N"
    return (← dumpLayout arguments, skip?, most?)
  match plan with
  | .error text => call.fail text 1
  | .ok (layout, skip?, most?) =>
      let (paths, offset?) := dumpOperands arguments
      let paths := if paths.isEmpty then ["-"] else paths
      let (reply, text, isOpened) := paths.foldl
        (fun ((reply, text, isOpened) : Reply × List Char × Bool) path =>
          match call.content path with
          | .ok content => (reply, text ++ content.toList, true)
          | .error e =>
              (call.warn reply (shown path ++ ": " ++ e.text), text,
                isOpened || e = .isDirectory))
        (call.done, [], false)
      let skip := (skip? <|> offset?).getD 0
      let reply :=
        if !isOpened then reply
        else if skip > text.length then
          call.warn reply "cannot skip past end of combined input"
        else
          let rest := text.drop skip
          let rest := match most? with
            | some most => rest.take most
            | none => rest
          reply.out (String.ofList (layout.text (rest.length + 1) skip none false rest))
      { reply with use := useOf paths }

end Invocation
end CallScript.Shell
