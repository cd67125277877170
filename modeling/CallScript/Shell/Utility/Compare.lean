import CallScript.Shell.Utility.Order
import CallScript.Shell.Utility.Touch

/-!
# Comparing files byte by byte

The utility that says where two files differ first, or lists all the bytes in which they differ.
-/

namespace CallScript.Shell

/-- A place at which two files differ, counted from one. -/
structure Difference where
  place : Nat
  first : Char
  second : Char

def differences : Nat → List Char → List Char → List Difference
  | place, a :: first, b :: second =>
      let others := differences (place + 1) first second
      if a = b then others else ⟨place, a, b⟩ :: others
  | _, _, _ => []

def octalColumn (c : Char) : List Char :=
  let digits := Nat.toDigits 8 c.toNat
  List.replicate (3 - digits.length) ' ' ++ digits

namespace Invocation

def cmpOptions : OptionSpec where
  flags := "blsv"
  valued := "in"
  names := [.flag "print-bytes" "b", .valued "ignore-initial" "i", .flag "verbose" "l",
    .valued "bytes" "n", .flag "quiet" "s", .flag "silent" "s"]

/-- What is compared: two files, how much of each is skipped, and how much counts at most. -/
structure Comparison where
  first : String
  second : String
  firstSkip : Nat
  secondSkip : Nat
  most? : Option Nat

def byteCount (option text : String) : Except String Nat :=
  match size? text.toList with
  | some n => .ok n
  | none => .error ("invalid " ++ option ++ " value '" ++ text ++ "'")

def skips (text : String) : Except String (Nat × Nat) := do
  let skip (piece : List Char) : Except String Nat :=
    match size? piece with
    | some n => .ok n
    | none => .error ("invalid --ignore-initial value '" ++ text ++ "'")
  match Text.pieces ':' text.toList with
  | [both] => do
      let n ← skip both
      return (n, n)
  | [first, second] => return (← skip first, ← skip second)
  | _ => throw ("invalid --ignore-initial value '" ++ text ++ "'")

def comparisonOf (arguments : Arguments) : Except String Comparison := do
  if arguments.has "l" && arguments.has "s" then throw "options -l and -s are incompatible"
  let (a, b) ←
    match arguments.value? "i" with
    | some text => skips text
    | none => .ok (0, 0)
  let most? ← (arguments.value? "n").mapM (byteCount "--bytes")
  let operandSkip (text : String) : Except String Nat := byteCount "--ignore-initial" text
  match arguments.operands with
  | [] => throw "missing operand after 'cmp'"
  | [first] => return ⟨first, "-", a, b, most?⟩
  | [first, second] => return ⟨first, second, a, b, most?⟩
  | [first, second, skip] => return ⟨first, second, max a (← operandSkip skip), b, most?⟩
  | [first, second, skip, other] =>
      return ⟨first, second, max a (← operandSkip skip), max b (← operandSkip other), most?⟩
  | _ :: _ :: _ :: _ :: extra :: _ => throw ("extra operand '" ++ extra ++ "'")

def endingText (arguments : Arguments) (name : String) (text : List Char) : String :=
  let count := text.length
  let lines := text.countP (· = '\n')
  let place :=
    if count = 0 then " which is empty"
    else if arguments.has "l" then " after byte " ++ toString count
    else
      " after byte " ++ toString count ++
        (if text.getLast? = some '\n' then ", line " ++ toString lines
          else ", in line " ++ toString (lines + 1))
  "cmp: EOF on " ++ name ++ place ++ "\n"

def differenceText (arguments : Arguments) (comparison : Comparison) (width : Nat)
    (first : List Char) (found : List Difference) : String :=
  if arguments.has "l" then
    String.join (found.map fun difference =>
      let places := rightAligned width difference.place
      let shown := caretChar difference.first
      let columns :=
        if arguments.has "b" then
          octalColumn difference.first ++ ' ' :: shown ++
            List.replicate (4 - shown.length) ' ' ++ ' ' :: octalColumn difference.second ++
            ' ' :: caretChar difference.second
        else octalColumn difference.first ++ ' ' :: octalColumn difference.second
      String.ofList (places ++ ' ' :: columns ++ ['\n']))
  else
    match found with
    | [] => ""
    | difference :: _ =>
        let line := (first.take (difference.place - 1)).countP (· = '\n') + 1
        let bytes :=
          " is " ++ String.ofList (octalColumn difference.first ++ ' ' ::
            caretChar difference.first ++ ' ' :: octalColumn difference.second ++
            ' ' :: caretChar difference.second)
        comparison.first ++ " " ++ comparison.second ++ " differ: " ++
          (if arguments.has "b" then "byte " else "char ") ++ toString difference.place ++
          ", line " ++ toString line ++ (if arguments.has "b" then bytes else "") ++ "\n"

def compareTexts (call : Invocation) (arguments : Arguments) (comparison : Comparison)
    (firstText secondText : String) : Reply :=
  let cut (skip : Nat) (text : String) : List Char :=
    let rest := text.toList.drop skip
    match comparison.most? with
    | some most => rest.take most
    | none => rest
  let (first, second) := (cut comparison.firstSkip firstText, cut comparison.secondSkip secondText)
  let found := differences 1 first second
  let isPlain := !(comparison.first = "-") && !(comparison.second = "-")
  let width := if isPlain then (toString (min first.length second.length)).length else 19
  let reply :=
    if arguments.has "s" then call.done
    else call.done.out (differenceText arguments comparison width first found)
  let isCut := first.length ≠ second.length && (found.isEmpty || arguments.has "l")
  let reply :=
    if !isCut || arguments.has "s" then reply
    else
      let (name, shorter) := if first.length < second.length then (comparison.first, first)
        else (comparison.second, second)
      reply.err (endingText arguments name shorter)
  { reply with code := if found.isEmpty && !isCut then 0 else 1 }

def cmp (call : Invocation) : Reply :=
  let refuse (text : String) : Reply :=
    let hint := call.message ("Try 'cmp --help' for more information.")
    { call.done.err (call.message text ++ hint) with code := 2 }
  match cmpOptions.read call.args with
  | .error text => refuse text
  | .ok arguments =>
      if arguments.hasAny ["version", "v"] then call.write call.about
      else if arguments.has "help" then
        call.write (call.usage "[OPTION]... FILE1 [FILE2 [SKIP1 [SKIP2]]]")
      else
        match comparisonOf arguments with
        | .error text => refuse text
        | .ok comparison =>
            let number? (path : String) : Option Nat :=
              (call.tree.find call.directory path).toOption.bind fun found =>
                call.tree.number? found.1
            let isSame := comparison.firstSkip = comparison.secondSkip &&
              (comparison.first = comparison.second ||
                ((number? comparison.first).isSome &&
                  number? comparison.first = number? comparison.second))
            let fail (path : String) (e : OsError) : Reply :=
              if arguments.has "s" && e ≠ .isDirectory then { call.done with code := 2 }
              else call.fail (path ++ ": " ++ e.text) 2
            let reply :=
              match call.content comparison.first, call.content comparison.second with
              | .error .isDirectory, .error .isDirectory =>
                  if isSame then call.done else fail comparison.first .isDirectory
              | .error e, .error .isDirectory => fail comparison.first e
              | .error .isDirectory, .error e => fail comparison.second e
              | .error e, _ => fail comparison.first e
              | _, .error e => fail comparison.second e
              | .ok first, .ok second =>
                  if isSame then call.done
                  else call.compareTexts arguments comparison first second
            { reply with use := useOf [comparison.first, comparison.second] }

end Invocation
end CallScript.Shell
