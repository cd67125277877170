import CallScript.Shell.Number
import CallScript.Shell.Utility.Basic

/-!
# Exchanging characters

The utility that puts characters in the place of others, takes characters out, or leaves one of
several that repeat. The characters are given by sets, in which ranges and classes can stand.
-/

namespace CallScript.Shell

/-- A part of a set. -/
inductive SetPart where
  | listed (chars : List Char)
  | named (name : String)
  | equal (c : Char)
  | fill (c : Char)

namespace SetPart

/-- The characters of a part; what fills up has none of its own. -/
def expand : SetPart → List Char
  | .listed chars => chars
  | .named name => allOctets.filter ((charClasses.lookup name).getD fun _ => false)
  | .equal c => [c]
  | .fill _ => []

/-- A character at the front, which may be spelled by an escape, and what is behind it. -/
def splitChar : List Char → Option (Char × List Char)
  | [] => none
  | '\\' :: rest =>
      match rest with
      | [] => some ('\\', [])
      | c :: others =>
          let isOctal (c : Char) : Bool := '0' ≤ c && c ≤ '7'
          if isOctal c then
            let digits := (rest.take 3).takeWhile isOctal
            let digits := if Number.ofDigits 8 digits < 256 then digits else digits.take 2
            some (Char.ofNat (Number.ofDigits 8 digits), rest.drop digits.length)
          else
            let letters := [('a', '\x07'), ('b', '\x08'), ('f', '\x0c'), ('n', '\n'),
              ('r', '\x0d'), ('t', '\t'), ('v', '\x0b')]
            some ((letters.lookup c).getD c, others)
  | c :: rest => some (c, rest)

/-- What stands between brackets and a mark on both sides, and what is behind it. -/
def splitMarked (mark : Char) (text : List Char) : Option (List Char × List Char) :=
  match text with
  | '[' :: c :: rest =>
      if c ≠ mark then none
      else
        let rec close : List Char → List Char → Option (List Char × List Char)
          | inner, a :: ']' :: behind =>
              if a = mark then some (inner.reverse, behind)
              else close (a :: inner) (']' :: behind)
          | inner, a :: rest => close (a :: inner) rest
          | _, [] => none
        close [] rest
  | _ => none

/-- A repeated character in brackets, how often it is meant, if not as often as it takes, and what
is behind it. -/
def splitRepeat (text : List Char) :
    Except String (Option (Char × Option Nat × List Char)) :=
  match text with
  | '[' :: rest =>
      match splitChar rest with
      | some (c, '*' :: behind) =>
          let digits := behind.takeWhile (· ≠ ']')
          if digits.length = behind.length then .ok none
          else
            let after := behind.drop (digits.length + 1)
            let base := if digits.head? = some '0' then 8 else 10
            let (count, left) := Number.splitDigits base digits
            if !left.isEmpty then
              .error ("invalid repeat count " ++ quoted (String.ofList digits) ++
                " in [c*n] construct")
            else .ok (some (c, if count = 0 then none else some count, after))
      | _ => .ok none
  | _ => .ok none

def parse : Nat → List Char → Except String (List SetPart)
  | 0, _ => .ok []
  | _, [] => .ok []
  | fuel + 1, text => do
      if let some (name, rest) := splitMarked ':' text then
        let name := String.ofList name
        if (charClasses.lookup name).isNone then
          throw ("invalid character class " ++ quoted name)
        return .named name :: (← parse fuel rest)
      if let some (chars, rest) := splitMarked '=' text then
        match chars with
        | [c] => return .equal c :: (← parse fuel rest)
        | _ => throw (String.ofList chars ++
            ": equivalence class operand must be a single character")
      match ← splitRepeat text with
      | some (c, some count, rest) =>
          return .listed (List.replicate count c) :: (← parse fuel rest)
      | some (c, none, rest) => return .fill c :: (← parse fuel rest)
      | none =>
          match splitChar text with
          | none => return []
          | some (first, '-' :: rest) =>
              match splitChar rest with
              | none => return .listed [first] :: (← parse fuel ('-' :: rest))
              | some (last, behind) =>
                  if last < first then
                    let shown (c : Char) : List Char := if isPrintable c then [c] else escaped c
                    throw ("range-endpoints of " ++
                      quoted (String.ofList (shown first ++ '-' :: shown last)) ++
                      " are in reverse collating sequence order")
                  let range := (List.range (last.toNat - first.toNat + 1)).map fun n =>
                    Char.ofNat (first.toNat + n)
                  return .listed range :: (← parse fuel behind)
          | some (c, rest) => return .listed [c] :: (← parse fuel rest)

def ofText (text : String) : Except String (List SetPart) :=
  parse (text.length + 1) text.toList

def fillTo (length : Nat) (parts : List SetPart) : List Char :=
  let missing := length - (parts.flatMap expand).length
  parts.flatMap fun part =>
    match part with
    | .fill c => List.replicate missing c
    | other => other.expand

def classPlaces (parts : List SetPart) : List (Nat × String) :=
  let (places, _) := parts.foldl
    (fun ((places, at?) : List (Nat × String) × Nat) part =>
      let next := at? + part.expand.length
      match part with
      | .named name => (places ++ [(at?, name)], next)
      | _ => (places, next))
    ([], 0)
  places

end SetPart

/-- What is done with the characters of a text. -/
structure Exchange where
  /-- What a character becomes; some go away. -/
  change : Char → Option Char
  isSqueezed : Char → Bool

/-- Carries out an exchange. `last?` is the last character that is left so far. -/
def Exchange.apply (exchange : Exchange) : Option Char → List Char → List Char
  | _, [] => []
  | last?, c :: rest =>
      match exchange.change c with
      | none => exchange.apply last? rest
      | some new =>
          if last? = some new && exchange.isSqueezed new then exchange.apply last? rest
          else new :: exchange.apply (some new) rest

namespace Invocation

def trOptions : OptionSpec where
  flags := "cCdst"
  names := [.flag "complement" "c", .flag "delete" "d", .flag "squeeze-repeats" "s",
    .flag "truncate-set1" "t"]
  inFront := true

/-- Why two sets do not fit together, if characters are to be put in the place of others. -/
def setProblem? (isComplement : Bool) (first second : List SetPart) : Option String :=
  let size := (first.flatMap SetPart.expand).length
  let places := SetPart.classPlaces second
  let firstPlaces := SetPart.classPlaces first
  let isCase (name : String) : Bool := name = "upper" || name = "lower"
  let hasEqual := second.any fun part => match part with | .equal _ => true | _ => false
  let fills := first.any fun part => match part with | .fill _ => true | _ => false
  if fills then some "the [c*] repeat construct may not appear in string1"
  else if hasEqual then
    some "[=c=] expressions may not appear in string2 when translating"
  else if places.any fun place => !isCase place.2 then
    some ("when translating, the only character classes that may appear in\n" ++
      "string2 are 'upper' and 'lower'")
  else if isComplement then
    if places.isEmpty then none
    else some ("when translating with string1 longer than string2,\n" ++
      "the latter string must not end with a character class")
  else if places.any fun place =>
      !firstPlaces.any fun other => other.1 = place.1 && isCase other.2 then
    some "misaligned [:upper:] and/or [:lower:] construct"
  else if size > 0 && (second.flatMap SetPart.expand).isEmpty &&
      !second.any fun part => match part with | .fill _ => true | _ => false then
    some "when not truncating set1, string2 must be non-empty"
  else none

def setCountProblem? (deletes squeezes : Bool) (operands : List String) : Option String :=
  let least := if deletes != squeezes then 1 else 2
  let most := if deletes && !squeezes then 1 else 2
  match operands with
  | [] => some "missing operand"
  | [only] =>
      if least = 2 then
        some ("missing operand after " ++ quoted only ++ "\nTwo strings must be given when " ++
          (if deletes then "both deleting and squeezing repeats." else "translating."))
      else none
  | _ :: extra :: others =>
      let extra? := if most = 1 then some extra else others.head?
      let reason := if most = 1 && others.isEmpty then
        "\nOnly one string may be given when deleting without squeezing repeats." else ""
      extra?.map fun extra => "extra operand " ++ quoted extra ++ reason

def tr (call : Invocation) (arguments : Arguments) : Reply :=
  let deletes := arguments.has "d"
  let squeezes := arguments.has "s"
  let isComplement := arguments.hasAny ["c", "C"]
  match setCountProblem? deletes squeezes arguments.operands with
  | some text => call.misuse text 1
  | none =>
      let sets : Except String (List SetPart × Option (List SetPart)) := do
        let first ← SetPart.ofText (arguments.operands.headD "")
        let second? ← (arguments.operands[1]?).mapM SetPart.ofText
        return (first, second?)
      match sets, call.input with
      | .error text, _ => call.fail text 1
      | _, .error e => call.fail ("read error: " ++ e.text) 1
      | .ok (first, second?), .ok input =>
          let chosen := first.flatMap SetPart.expand
          let source :=
            if isComplement then allOctets.filter fun c => !chosen.contains c else chosen
          let isEnding := (arguments.operands.any fun text => text.toList.getLast? = some '\\' &&
            (text.toList.reverse.takeWhile (· = '\\')).length % 2 = 1)
          let exchange : Except String Exchange :=
            match second? with
            | none =>
                let isSource := source.contains
                if deletes then
                  .ok ⟨fun c => if isSource c then none else some c, fun _ => false⟩
                else .ok ⟨some, isSource⟩
            | some second =>
                if deletes then
                  .ok ⟨fun c => if source.contains c then none else some c,
                    (second.flatMap SetPart.expand).contains⟩
                else
                  match if arguments.has "t" then none
                    else setProblem? isComplement first second with
                  | some text => .error text
                  | none =>
                      let target := SetPart.fillTo source.length second
                      let source := if arguments.has "t" then source.take target.length
                        else source
                      let padding := List.replicate (source.length - target.length)
                        (target.getLast?.getD '\x00')
                      let pairs := (source.zip (target ++ padding)).reverse
                      let change (c : Char) : Option Char := some ((pairs.lookup c).getD c)
                      .ok ⟨change, fun c => squeezes && target.contains c⟩
          match exchange with
          | .error text => call.fail text 1
          | .ok exchange =>
              let text := exchange.apply none (Octets.ofBytes input).toList
              let warning := if isEnding then
                call.message "warning: an unescaped backslash at end of string is not portable"
                else ""
              let reply := if warning.isEmpty then call.done else call.done.err warning
              { reply.out (String.ofList text) with use := .all }

end Invocation
end CallScript.Shell
