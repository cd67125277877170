import CallScript.Shell.Utility.Order

/-!
# Joining lines

The utility that puts lines of two files together that have the same key. Both files are in the
order of their keys; where one is not, that is only noticed once some line has had no partner.
-/

namespace CallScript.Shell

/-- A field of the output: the key, or a field of one of the files. -/
inductive JoinField where
  | key
  | ofFirst (index : Nat)
  | ofSecond (index : Nat)

/-- How lines are joined. Fields are counted from zero. -/
structure JoinPlan where
  firstKey : Nat
  secondKey : Nat
  mark? : Option Char
  filler : List Char
  fields? : Option (List JoinField)
  ignoresCase : Bool
  showsPairs : Bool
  showsFirst : Bool
  showsSecond : Bool
  checksOrder? : Option Bool

/-- A line, and its fields. -/
structure JoinLine where
  text : List Char
  fields : List (List Char)

namespace JoinPlan

/-- The fields of a line: between marks, or between blanks. Blanks at its end have an empty field
behind them. -/
def line (plan : JoinPlan) (text : List Char) : JoinLine :=
  match plan.mark? with
  | some mark => ⟨text, Text.pieces mark text⟩
  | none =>
      let spaced := text.map fun c => if c = '\t' then ' ' else c
      let fields := (Text.pieces ' ' spaced).filter fun field => !field.isEmpty
      let isOpen := !fields.isEmpty && spaced.getLast? = some ' '
      ⟨text, if isOpen then fields ++ [[]] else fields⟩

def key (plan : JoinPlan) (isFirst : Bool) (line : JoinLine) : List Char :=
  let field := line.fields.getD (if isFirst then plan.firstKey else plan.secondKey) []
  if plan.ignoresCase then field.map Char.toUpper else field

def field (plan : JoinPlan) (index : Nat) (line? : Option JoinLine) : List Char :=
  let field := (line?.bind fun line => line.fields[index]?).getD []
  if field.isEmpty then plan.filler else field

def joined (plan : JoinPlan) (first? second? : Option JoinLine) : List Char :=
  let key :=
    match first? with
    | some line => plan.field plan.firstKey (some line)
    | none => plan.field plan.secondKey second?
  let others (key : Nat) (line? : Option JoinLine) : List (List Char) :=
    let fields := (line?.map JoinLine.fields).getD []
    (fields.eraseIdx key).map fun field => if field.isEmpty then plan.filler else field
  let fields :=
    match plan.fields? with
    | none => key :: (others plan.firstKey first? ++ others plan.secondKey second?)
    | some fields => fields.map fun field =>
        match field with
        | .key => key
        | .ofFirst index => plan.field index first?
        | .ofSecond index => plan.field index second?
  [plan.mark?.getD ' '].intercalate fields

end JoinPlan

/-- How far lines have been joined. -/
structure Joining where
  out : List (List Char)
  isUnpaired : Bool
  firstDisorder? : Option (Nat × List Char)
  secondDisorder? : Option (Nat × List Char)

namespace Joining

def add (joining : Joining) (lines : List (List Char)) : Joining :=
  { joining with out := lines.reverse ++ joining.out }

def pass (joining : Joining) (plan : JoinPlan) (isFirst : Bool) (line : JoinLine × Nat)
    (next? : Option (JoinLine × Nat)) : Joining :=
  match next? with
  | none => joining
  | some (next, number) =>
      let isChecked := plan.checksOrder?.getD joining.isUnpaired
      let known? := if isFirst then joining.firstDisorder? else joining.secondDisorder?
      if isChecked && known?.isNone &&
          lineLess (plan.key isFirst line.1) (plan.key isFirst next) = .gt then
        if isFirst then { joining with firstDisorder? := some (number, next.text) }
        else { joining with secondDisorder? := some (number, next.text) }
      else joining

def passAll (joining : Joining) (plan : JoinPlan) (isFirst : Bool) :
    List (JoinLine × Nat) → Joining
  | [] => joining
  | line :: lines => (joining.pass plan isFirst line lines.head?).passAll plan isFirst lines

end Joining

/-- Lines of a file with their numbers. -/
abbrev NumberedLines := List (JoinLine × Nat)

def Joining.isOver (joining : Joining) (plan : JoinPlan) : Bool :=
  plan.checksOrder? = some true &&
    (joining.firstDisorder?.isSome || joining.secondDisorder?.isSome)

def joinLinesOf (plan : JoinPlan) : Nat → NumberedLines → NumberedLines → Joining → Joining
  | 0, _, _, joining => joining
  | fuel + 1, first, second, joining =>
      match if joining.isOver plan then ([], []) else (first, second) with
      | (a :: firstRest, b :: secondRest) =>
          match lineLess (plan.key true a.1) (plan.key false b.1) with
          | .lt =>
              let out := if plan.showsFirst then [plan.joined (some a.1) none] else []
              let joining := (joining.add out).pass plan true a firstRest.head?
              joinLinesOf plan fuel firstRest second { joining with isUnpaired := true }
          | .gt =>
              let out := if plan.showsSecond then [plan.joined none (some b.1)] else []
              let joining := (joining.add out).pass plan false b secondRest.head?
              joinLinesOf plan fuel first secondRest { joining with isUnpaired := true }
          | .eq =>
              let isMeant (line : JoinLine × Nat) : Bool :=
                plan.key true line.1 = plan.key false b.1
              let isMeantToo (line : JoinLine × Nat) : Bool :=
                plan.key false line.1 = plan.key true a.1
              let (here, there) := (first.takeWhile isMeant, second.takeWhile isMeantToo)
              let (firstRest, secondRest) := (first.drop here.length, second.drop there.length)
              let out := here.flatMap fun x => there.map fun y => plan.joined (some x.1) (some y.1)
              let joining := joining.passAll plan true (here ++ firstRest.take 1)
              let joining := joining.passAll plan false (there ++ secondRest.take 1)
              let isShown := plan.showsPairs && !joining.isOver plan
              joinLinesOf plan fuel firstRest secondRest
                (if isShown then joining.add out else joining)
      | ([], []) => joining
      | (first, second) =>
          let joining :=
            if plan.showsFirst then
              joining.add (first.map fun line => plan.joined (some line.1) none)
            else joining
          let joining :=
            if plan.showsSecond then
              joining.add (second.map fun line => plan.joined none (some line.1))
            else joining
          (joining.passAll plan true first).passAll plan false second

namespace Invocation

def joinOptions : OptionSpec where
  flags := "iz"
  valued := "12aejotv"
  names := [.flag "ignore-case" "i", .alone "check-order", .alone "nocheck-order",
    .flag "zero-terminated" "z", .alone "header"]

def fieldNumber? (text : String) : Except String Nat :=
  match Number.natural? text.toList with
  | some (n + 1) => .ok n
  | _ => .error ("invalid field number: " ++ quoted text)

def joinField? (text : List Char) : Except String JoinField :=
  match text with
  | ['0'] => .ok .key
  | '1' :: '.' :: rest => (fieldNumber? (String.ofList rest)).map .ofFirst
  | '2' :: '.' :: rest => (fieldNumber? (String.ofList rest)).map .ofSecond
  | '0' :: _ | '1' :: _ | '2' :: _ =>
      .error ("invalid field specifier: " ++ quoted (String.ofList text))
  | _ => .error ("invalid file number in field spec: " ++ quoted (String.ofList text))

def joinPlan (arguments : Arguments) : Except String JoinPlan := do
  let key (option : String) : Except String Nat := do
    match arguments.last? [option, "j"] with
    | some option => fieldNumber? ((arguments.value? option).getD "")
    | none => return 0
  let mark? ←
    match (arguments.value? "t").map String.toList with
    | none => .ok none
    | some [] => .ok (some '\n')
    | some ['\\', '0'] => .ok (some '\x00')
    | some [c] => .ok (some c)
    | some text => .error ("multi-character tab " ++ quoted (String.ofList text))
  let file (option : String) : Except String (List String) := do
    (arguments.values option).mapM fun text =>
      if text = "1" || text = "2" then .ok text
      else .error ("invalid field number: " ++ quoted text)
  let (also, only) := (← file "a", ← file "v")
  let fields ← (arguments.values "o").mapM fun text => do
    let pieces := Text.pieces ',' (text.toList.map fun c => if c = ' ' || c = '\t' then ',' else c)
    pieces.mapM joinField?
  return {
    firstKey := ← key "1"
    secondKey := ← key "2"
    mark? := mark?
    filler := ((arguments.value? "e").getD "").toList
    fields? := if fields.isEmpty then none else some fields.flatten
    ignoresCase := arguments.has "i"
    showsPairs := only.isEmpty
    showsFirst := (also ++ only).contains "1"
    showsSecond := (also ++ only).contains "2"
    checksOrder? := (arguments.last? ["check-order", "nocheck-order"]).map (· = "check-order") }

def join (call : Invocation) (arguments : Arguments) : Reply :=
  let ended := if arguments.has "z" then '\x00' else '\n'
  match joinPlan arguments, arguments.operands with
  | .error text, _ => call.fail text 1
  | .ok _, [] => call.misuse "missing operand" 1
  | .ok _, [path] => call.misuse ("missing operand after " ++ quoted path) 1
  | .ok _, ["-", "-"] => call.fail "both files cannot be standard input" 1
  | .ok plan, [first, second] =>
      let trouble (path : String) (e : OsError) : Reply :=
        call.fail ((if e = .isDirectory then "read error" else shown path) ++ ": " ++ e.text) 1
      match call.content first, call.content second with
      | .error e, _ => trouble first e
      | _, .error e => trouble second e
      | .ok a, .ok b =>
          let lines (text : String) : NumberedLines :=
            ((linesEndedBy ended text).map plan.line).zipIdx 1
          let (a, b) := (lines a, lines b)
          let (front, a, b) :=
            match arguments.has "header", a, b with
            | true, x :: a, y :: b => ([plan.joined (some x.1) (some y.1)], a, b)
            | _, a, b => ([], a, b)
          let joining := joinLinesOf plan (a.length + b.length + 1) a b ⟨[], false, none, none⟩
          let reply := call.done.out (joinEnded ended (front ++ joining.out.reverse))
          let problem (path : String) (disorder : Nat × List Char) : String :=
            path ++ ":" ++ toString disorder.1 ++ ": is not sorted: " ++ String.ofList disorder.2
          let isStopped := joining.isOver plan
          let problems := (joining.firstDisorder?.map (problem first)).toList ++
            (joining.secondDisorder?.map (problem second)).toList
          let problems := if isStopped then problems.take 1 else problems
          let reply := problems.foldl (warn call) reply
          let reply := if problems.isEmpty || plan.checksOrder? = some true then reply
            else call.warn reply "input is not in sorted order"
          { reply with use := useOf [first, second] }
  | .ok _, _ :: _ :: extra :: _ => call.misuse ("extra operand " ++ quoted extra) 1

end Invocation
end CallScript.Shell
