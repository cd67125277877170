import CallScript.Shell.Utility.Basic

/-!
# Showing files

The utility that writes files one after the other, and its ways to make visible what is in them.
-/

namespace CallScript.Shell

/-- What is made visible. -/
structure Display where
  numbers : Bool
  skipsEmpty : Bool
  squeezes : Bool
  ends : Bool
  tabs : Bool
  controls : Bool

namespace Display

def isPlain (display : Display) : Bool :=
  !(display.numbers || display.squeezes || display.ends || display.tabs || display.controls)

def char (display : Display) (c : Char) : List Char :=
  if c = '\t' && !display.tabs then [c]
  else if c = '\t' || display.controls then caretChar c
  else [c]

end Display

/-- Where the display stands: the number of the last line, whether a line begins, and how many empty
lines have come before. -/
structure DisplayPlace where
  number : Nat
  isStart : Bool
  empties : Nat

def lineNumber (n : Nat) : List Char :=
  let digits := (toString n).toList
  List.replicate (6 - digits.length) ' ' ++ digits ++ ['\t']

def displayText (display : Display) : List Char → DisplayPlace → List Char × DisplayPlace
  | [], place => ([], place)
  | c :: rest, place =>
      let isEmpty := place.isStart && c = '\n'
      let empties := if isEmpty then place.empties + 1 else if c = '\n' then 0 else place.empties
      if isEmpty && display.squeezes && 1 < empties then
        displayText display rest { place with empties := empties }
      else
        let isNumbered := place.isStart && display.numbers && !(isEmpty && display.skipsEmpty)
        let number := if isNumbered then place.number + 1 else place.number
        let front := if isNumbered then lineNumber number else []
        let shown :=
          if c = '\n' then if display.ends then ['$', '\n'] else ['\n'] else display.char c
        let (more, last) := displayText display rest ⟨number, c = '\n', empties⟩
        (front ++ shown ++ more, last)

namespace Invocation

def catOptions : OptionSpec where
  flags := "benstuvAET"
  names := [.flag "number-nonblank" "b", .flag "number" "n", .flag "squeeze-blank" "s",
    .flag "show-nonprinting" "v", .flag "show-ends" "E", .flag "show-tabs" "T",
    .flag "show-all" "A"]

def cat (call : Invocation) (arguments : Arguments) : Reply :=
  let has := arguments.hasAny
  let display : Display :=
    ⟨has ["n", "b"], has ["b"], has ["s"], has ["A", "e", "E"], has ["A", "t", "T"],
      has ["A", "e", "t", "v"]⟩
  let paths := pathsOf arguments
  let (reply, _) := paths.foldl
    (fun ((reply, place) : Reply × DisplayPlace) path =>
      match call.content path with
      | .error e =>
          let closing := if path = "-" && e = .badDescriptor then
            call.message ("closing standard input: " ++ e.text) else ""
          ((call.warn reply (shown path ++ ": " ++ e.text)).err closing, place)
      | .ok content =>
          let isGrowing := !content.isEmpty || reply.parts.any fun part => part.1 = .out
          if isGrowing && call.isOutput path then
            (call.warn reply (shown path ++ ": input file is output file"), place)
          else if display.isPlain then (reply.out content, place)
          else
            let (text, place) := displayText display content.toList place
            (reply.out (String.ofList text), place))
    (call.done, (⟨0, true, 0⟩ : DisplayPlace))
  { reply with use := useOf paths, isOrdered := true }

end Invocation
end CallScript.Shell
