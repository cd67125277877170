import CallScript.Shell.Format
import CallScript.Shell.Utility.Basic

/-!
# Sequences

The utilities that write numbers in steps, or one line over and over again. What never ends is cut
off, because whoever reads it stops anyway.
-/

namespace CallScript.Shell

/-- A decimal number with a fixed number of places. -/
structure Decimal where
  digits : Int
  places : Nat
  width : Nat

namespace Decimal

/-- The number without its point when it has so many places, of which it has fewer itself. -/
def withPlaces (places : Nat) (number : Decimal) : Int :=
  number.digits * (Quantity.powerOf 10 (places - number.places) : Nat)

def ofText? (text : String) : Option (Option Decimal) := do
  let (quantity, rest) ← Quantity.split? text.toList
  guard rest.isEmpty
  match quantity.size with
  | .finite numerator denominator =>
      let mantissa := text.toList.takeWhile fun c => c ≠ 'e' && c ≠ 'E'
      let behind := (mantissa.dropWhile (· ≠ '.')).drop 1
      let places := if denominator = 1 then behind.length
        else max behind.length ((Nat.toDigits 10 denominator).length - 1)
      let scaled : Int := numerator * Quantity.powerOf 10 places / denominator
      let unsigned := mantissa.filter fun c => c ≠ '+'
      let isBare := (mantissa.takeWhile (· ≠ '.')).all fun c => !c.isDigit
      let hasPoint := mantissa.contains '.'
      let width :=
        unsigned.length + (if hasPoint && isBare && !behind.isEmpty then 1 else 0) -
          (if hasPoint && behind.isEmpty then 1 else 0)
      return some ⟨if quantity.isNegative then -scaled else scaled, places, width⟩
  | .infinite => return none
  | .undefined => none

def text (digits : Int) (places : Nat) : List Char :=
  (if digits < 0 then ['-'] else []) ++ Quantity.pointed places digits.natAbs false

end Decimal

namespace Invocation

def seqOptions : OptionSpec where
  flags := "w"
  valued := "fs"
  names := [.valued "format" "f", .valued "separator" "s", .flag "equal-width" "w"]
  inFront := true

def sequenceLimit : Nat := 100000

/-- A format for numbers: what is in front of its conversion, the field, its letter and what is
behind. -/
def numberFormat (format : String) :
    Except String (List Char × Format.Field × Char × List Char) := do
  let bad (reason : String) : String := "format " ++ quoted format ++ " " ++ reason
  let rec find : List Char → Option (List Char × List Char)
    | [] => none
    | '%' :: '%' :: rest => (find rest).map fun (front, back) => ('%' :: front, back)
    | '%' :: rest => some ([], rest)
    | c :: rest => (find rest).map fun (front, back) => (c :: front, back)
  match find format.toList with
  | none => throw (bad "has no % directive")
  | some (front, rest) =>
      let (field, rest, _) := Format.takeField rest []
      let rest := if rest.head? = some 'L' then rest.tail else rest
      match rest with
      | [] => throw (bad "ends in %")
      | letter :: rest =>
          if !"efgaEFGA".toList.contains letter then
            throw (bad ("has unknown %" ++ String.ofList [letter] ++ " directive"))
          if (find rest).isSome then throw (bad "has too many % directives")
          return (front, field, letter, rest)

def unescaped : List Char → List Char
  | '%' :: '%' :: rest => '%' :: unescaped rest
  | c :: rest => c :: unescaped rest
  | [] => []

def formatted (format : List Char × Format.Field × Char × List Char) (digits : Int)
    (places : Nat) : List Char :=
  let (front, field, letter, rest) := format
  let value : Quantity := ⟨digits < 0, .finite digits.natAbs (Quantity.powerOf 10 places)⟩
  let text := field.quantity letter.toLower value
  front ++ (if letter.isUpper then text.map Char.toUpper else text) ++ unescaped rest

def seq (call : Invocation) (arguments : Arguments) : Reply :=
  let number (text : String) : Except String (Option Decimal) :=
    match Decimal.ofText? text with
    | some number => .ok number
    | none =>
        if Quantity.startsWithWord "nan" text.toList then
          .error ("invalid 'not-a-number' argument: " ++ quoted text)
        else .error ("invalid floating point argument: " ++ quoted text)
  let one : Decimal := ⟨1, 0, 1⟩
  let plan : Except String (Decimal × Decimal × Option Decimal) := do
    match arguments.operands with
    | [] => throw "missing operand"
    | [last] => return (one, one, ← number last)
    | [first, last] => return ((← number first).getD one, one, ← number last)
    | [first, step, last] =>
        let first ← number first
        let size ← number step
        if size.any fun size => size.digits = 0 then
          throw ("invalid Zero increment value: " ++ quoted step)
        return (first.getD one, size.getD one, ← number last)
    | _ :: _ :: _ :: extra :: _ => throw ("extra operand " ++ quoted extra)
  match plan, (arguments.value? "f").mapM numberFormat with
  | .error text, _ => call.misuse text 1
  | _, .error text => call.fail text 1
  | .ok (first, step, last?), .ok format? =>
      if format?.isSome && arguments.has "w" then
        call.misuse "format string may not be specified when printing equal width strings" 1
      else
        let places := max first.places step.places
        let all := max places ((last?.map Decimal.places).getD 0)
        let start := first.withPlaces all
        let size := step.withPlaces all
        let count :=
          match last? with
          | none => sequenceLimit
          | some last =>
              let range := (last.withPlaces all - start) * size.sign
              if range < 0 then 0 else min sequenceLimit (range.toNat / size.natAbs + 1)
        let adjusted (number : Decimal) : Nat :=
          number.width + places - number.places +
            (if number.places = 0 && places > 0 then 1 else 0) -
            (if number.places > 0 && places = 0 then 1 else 0)
        let width := max (adjusted first) ((last?.map adjusted).getD 0)
        let cut : Int := (Quantity.powerOf 10 (all - places) : Nat)
        let written (index : Nat) : List Char :=
          let value := (start + size * index).tdiv cut
          match format? with
          | some format => formatted format value places
          | none =>
              let text := Decimal.text value places
              if arguments.has "w" then
                let sign := text.takeWhile (· = '-')
                sign ++ List.replicate (width - text.length) '0' ++ text.drop sign.length
              else text
        let between := ((arguments.value? "s").getD "\n").toList
        let texts := (List.range count).map written
        if texts.isEmpty then call.done
        else call.write (String.ofList (between.intercalate texts) ++ "\n")

/-- Arguments with a mark in front of the first negative number, so that it is no option. -/
def markNegative : List String → List String
  | [] => []
  | arg :: args =>
      match arg.toList with
      | '-' :: c :: _ =>
          if c.isDigit || c = '.' then "--" :: arg :: args
          else if arg = "-s" || arg = "-f" then arg :: args.take 1 ++ markNegative (args.drop 1)
          else arg :: markNegative args
      | _ => arg :: args
termination_by args => args.length

def endlessSize : Nat := 65536

def yes (call : Invocation) (arguments : Arguments) : Reply :=
  let text := if arguments.operands.isEmpty then "y" else " ".intercalate arguments.operands
  let line := text.toList ++ ['\n']
  call.write (String.ofList (List.replicate (endlessSize / line.length) line).flatten)

end Invocation
end CallScript.Shell
