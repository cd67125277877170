import CallScript.Shell.Utility.Basic

/-!
# Counting

The utility that counts the lines, words and bytes of texts.
-/

namespace CallScript.Shell

/-- What is counted in a text. -/
structure TextCounts where
  lines : Nat
  words : Nat
  bytes : Nat
  width : Nat

namespace TextCounts

def none : TextCounts := ⟨0, 0, 0, 0⟩

def add (a b : TextCounts) : TextCounts :=
  ⟨a.lines + b.lines, a.words + b.words, a.bytes + b.bytes, max a.width b.width⟩

/-- Where the counting of a text has come to. -/
structure Place where
  counts : TextCounts
  isWord : Bool
  column : Nat

/-- Counts one more character. Those that cannot be printed neither make a word nor end it. -/
def Place.next (place : Place) (c : Char) : Place :=
  let counts := { place.counts with bytes := place.counts.bytes + 1 }
  let widest (column : Nat) : Nat := max counts.width column
  if c = '\n' then
    ⟨{ counts with lines := counts.lines + 1, width := widest place.column }, false, 0⟩
  else if c = '\x0d' || c = '\x0c' then
    ⟨{ counts with width := widest place.column }, false, 0⟩
  else if c = '\t' then ⟨counts, false, place.column + 8 - place.column % 8⟩
  else if c = '\x0b' then ⟨counts, false, place.column⟩
  else if c = ' ' then ⟨counts, false, place.column + 1⟩
  else if isPrintable c then
    let words := if place.isWord then counts.words else counts.words + 1
    ⟨{ counts with words := words }, true, place.column + 1⟩
  else ⟨counts, place.isWord, place.column⟩

def ofText (text : List Char) : TextCounts :=
  let last := text.foldl Place.next ⟨.none, false, 0⟩
  { last.counts with width := max last.counts.width last.column }

end TextCounts

namespace Invocation

def wcOptions : OptionSpec where
  flags := "clLmw"
  names := [.flag "bytes" "c", .flag "chars" "m", .flag "lines" "l", .flag "words" "w",
    .flag "max-line-length" "L"]

def shownCounts (arguments : Arguments) (counts : TextCounts) : List Nat :=
  let isPlain := !arguments.hasAny ["c", "l", "L", "m", "w"]
  let choices := [("l", counts.lines, isPlain), ("w", counts.words, isPlain),
    ("m", counts.bytes, false), ("c", counts.bytes, isPlain), ("L", counts.width, false)]
  choices.filterMap fun (key, count, isShown) =>
    if isShown || arguments.has key then some count else Option.none

/-- The size of the regular file that a path leads to, and whether it leads anywhere. -/
def sizeAt (call : Invocation) (path : String) : Bool × Option Nat :=
  if path = "-" then (call.input.toOption.isSome, call.inputSize?)
  else
    match call.tree.find call.directory path with
    | .ok (_, node) => (true, if node.isFile then some node.content.size else Option.none)
    | .error _ => (false, Option.none)

/-- How wide the counts are written: as wide as the size of all files. -/
def countWidth (call : Invocation) (paths : List String) (columns : Nat) : Nat :=
  if paths.length ≤ 1 && columns = 1 then 1
  else
    let sizes := paths.map (sizeAt call)
    if sizes.head?.any fun size => !size.1 then 1
    else
      let total := (sizes.filterMap (·.2)).foldl (· + ·) 0
      let least := if sizes.any fun size => size.1 && size.2.isNone then 7 else 1
      max least (Nat.toDigits 10 total).length

def wc (call : Invocation) (arguments : Arguments) : Reply :=
  let paths := pathsOf arguments
  let width := countWidth call paths (shownCounts arguments .none).length
  let line (counts : TextCounts) (name : String) : String :=
    let columns := (shownCounts arguments counts).map fun count =>
      let digits := toString count
      String.ofList (List.replicate (width - digits.length) ' ') ++ digits
    " ".intercalate columns ++ (if name.isEmpty then "" else " " ++ name) ++ "\n"
  let name (path : String) : String := if arguments.operands.isEmpty then "" else path
  let (reply, total) := paths.foldl
    (fun ((reply, total) : Reply × TextCounts) path =>
      match call.content path with
      | .ok content =>
          let counts := TextCounts.ofText content.toList
          (reply.out (line counts (name path)), total.add counts)
      | .error e =>
          let reply := call.warn reply (shown path ++ ": " ++ e.text)
          if e = .isDirectory then (reply.out (line .none (name path)), total) else (reply, total))
    (call.done, .none)
  let reply := if paths.length > 1 then reply.out (line total "total") else reply
  { reply with use := useOf paths }

end Invocation
end CallScript.Shell
