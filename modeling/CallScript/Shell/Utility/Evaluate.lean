import CallScript.Shell.LinePattern
import CallScript.Shell.Utility.Basic

/-!
# Expressions of arguments

The utility that evaluates an expression, of which every part is an argument. Values are texts, and
those that spell an integer can be calculated with.

Operators bind the tighter the higher their level. An operand that cannot change the value is read
but not calculated.
-/

namespace CallScript.Shell

namespace Evaluation

/-- What is left of an expression, and the argument in front of it. -/
structure Rest where
  args : List String
  last : String

def integer? (text : String) : Option Int :=
  match text.toList with
  | '-' :: digits => (Number.natural? digits).map fun n => -(n : Int)
  | digits => (Number.natural? digits).map fun n => (n : Int)

def isNull (text : String) : Bool := text.isEmpty || integer? text = some 0

def asNumber (holds : Bool) : String := if holds then "1" else "0"

def calculate (operator left right : String) : Except String String :=
  match integer? left, integer? right with
  | some a, some b =>
      if operator = "+" then .ok (toString (a + b))
      else if operator = "-" then .ok (toString (a - b))
      else if operator = "*" then .ok (toString (a * b))
      else if b = 0 then .error "division by zero"
      else if operator = "/" then .ok (toString (a.tdiv b))
      else .ok (toString (a.tmod b))
  | _, _ => .error "non-integer argument"

def compareValues (operator left right : String) : String :=
  let order :=
    match integer? left, integer? right with
    | some a, some b => compare a b
    | _, _ => compare left.toList right.toList
  asNumber
    (if operator = "<" then order == .lt
    else if operator = "<=" then order != .gt
    else if operator = ">" then order == .gt
    else if operator = ">=" then order != .lt
    else if operator = "!=" then order != .eq
    else order == .eq)

/-- Matches a pattern from the start on: its first group, or the length of the match if it has none.
-/
def matchValue (text pattern : String) : Except String String := do
  let parsed ← LinePattern.ofText ⟨false, [], false, false⟩ pattern.toList
  let subject : LinePattern.Subject := ⟨text.toList.toArray, false, true⟩
  match LinePattern.matchAt? subject parsed.pattern 0 with
  | some found =>
      if parsed.groups > 0 then return String.ofList (found.part subject.text 1)
      else return toString found.last
  | none => return if parsed.groups > 0 then "" else "0"

def levels : List (List String) :=
  [["|"], ["&"], ["<", "<=", "=", "==", "!=", ">=", ">"], ["+", "-"], ["*", "/", "%"], [":"]]

def isOpen (operator left : String) : Bool :=
  if operator = "|" then isNull left else if operator = "&" then !isNull left else true

def apply (operator left right : String) : Except String String :=
  if operator = "|" then
    .ok (if !isNull left then left else if isNull right then "0" else right)
  else if operator = "&" then .ok (if isNull left || isNull right then "0" else left)
  else if operator = ":" then matchValue left right
  else if ["+", "-", "*", "/", "%"].contains operator then calculate operator left right
  else .ok (compareValues operator left right)

def part (text first count : String) : String :=
  match integer? first, integer? count with
  | some first, some count =>
      if first ≤ 0 || count ≤ 0 then ""
      else String.ofList ((text.toList.drop (first.toNat - 1)).take count.toNat)
  | _, _ => ""

def placeOf (text letters : String) : String :=
  let front := text.toList.takeWhile fun c => !letters.toList.contains c
  toString (if front.length = text.length then 0 else front.length + 1)

def call (name : String) (operands : List String) : Except String String :=
  match name, operands with
  | "length", [text] => .ok (toString text.length)
  | "match", [text, pattern] => matchValue text pattern
  | "index", [text, letters] => .ok (placeOf text letters)
  | "substr", [text, first, count] => .ok (part text first count)
  | _, _ => .ok ""

def functions : List (String × Nat) := [("length", 1), ("match", 2), ("index", 2), ("substr", 3)]

mutual

def readLevel : Nat → List (List String) → Bool → Rest → Except String (String × Rest)
  | 0, _, _, _ => .error "syntax error"
  | fuel + 1, [], isMeant, rest => readOperand fuel isMeant rest
  | fuel + 1, operators :: higher, isMeant, rest => do
      let (left, rest) ← readLevel fuel higher isMeant rest
      readOperators fuel operators higher isMeant left rest

def readOperators : Nat → List String → List (List String) → Bool → String → Rest →
    Except String (String × Rest)
  | 0, _, _, _, _, _ => .error "syntax error"
  | fuel + 1, operators, higher, isMeant, left, rest =>
      match rest.args with
      | [] => .ok (left, rest)
      | operator :: args =>
          if !operators.contains operator then .ok (left, rest)
          else do
            let (right, rest) ←
              readLevel fuel higher (isMeant && isOpen operator left) ⟨args, operator⟩
            let value ← if isMeant then apply operator left right else .ok left
            readOperators fuel operators higher isMeant value rest

def readOperands : Nat → Nat → Bool → Rest → Except String (List String × Rest)
  | 0, _, _, _ => .error "syntax error"
  | _, 0, _, rest => .ok ([], rest)
  | fuel + 1, count + 1, isMeant, rest => do
      let (first, rest) ← readOperand fuel isMeant rest
      let (others, rest) ← readOperands fuel count isMeant rest
      return (first :: others, rest)

/-- A single operand: an argument, a function or an expression between parentheses. -/
def readOperand : Nat → Bool → Rest → Except String (String × Rest)
  | 0, _, _ => .error "syntax error"
  | fuel + 1, isMeant, rest =>
      match rest.args with
      | [] => .error ("syntax error: missing argument after '" ++ rest.last ++ "'")
      | arg :: args =>
          let behind : Rest := ⟨args, arg⟩
          match functions.lookup arg with
          | some count => do
              let (operands, rest) ← readOperands fuel count isMeant behind
              return (← if isMeant then call arg operands else .ok "", rest)
          | none =>
              if arg = "+" then
                match args with
                | [] => .error "syntax error: missing argument after '+'"
                | text :: args => .ok (text, ⟨args, text⟩)
              else if arg = "(" then do
                let (value, rest) ← readLevel fuel levels isMeant behind
                match rest.args with
                | [] => throw ("syntax error: expecting ')' after '" ++ rest.last ++ "'")
                | ")" :: args => return (value, ⟨args, ")"⟩)
                | other :: _ =>
                    throw ("syntax error: expecting ')' instead of '" ++ other ++ "'")
              else if arg = ")" then .error "syntax error: unexpected ')'"
              else .ok (arg, behind)

end

def value (args : List String) : Except String String := do
  let (value, rest) ← readLevel (10 * args.length + 20) levels true ⟨args, ""⟩
  match rest.args with
  | [] => return value
  | extra :: _ => throw ("syntax error: unexpected argument '" ++ extra ++ "'")

end Evaluation

namespace Invocation

def expr (call : Invocation) : Reply :=
  let args := if call.args.head? = some "--" then call.args.tail else call.args
  if call.args = ["--version"] then call.write call.about
  else if call.args = ["--help"] then call.write (call.usage "EXPRESSION")
  else if args.isEmpty then call.misuse "missing operand" 2
  else
    match Evaluation.value args with
    | .error text => call.fail text 2
    | .ok value =>
        { call.write (value ++ "\n") with code := if Evaluation.isNull value then 1 else 0 }

end Invocation
end CallScript.Shell
