import CallScript.Shell.Number
import CallScript.Shell.Script

/-!
# Arithmetic of the shell

Expressions over integers of 64 bits. Names are bound to texts, which are read as numbers where they
are used; a name without a binding counts as zero. Assigning changes the bindings.
-/

namespace CallScript.Shell.Arithmetic

inductive Sign where
  | number (value : Int)
  | name (name : String)
  | mark (text : String)
deriving DecidableEq

inductive Term where
  | number (value : Int)
  | stored (name : String)
  | unary (mark : String) (term : Term)
  | binary (mark : String) (left right : Term)
  | both (left right : Term)
  | either (left right : Term)
  | choose (condition yes no : Term)
  /-- Assigns the value, or the old value and the new one under an operator. -/
  | assign (name : String) (mark? : Option String) (term : Term)

/-- Why an expression has no value. -/
inductive Trouble where
  | malformed (reason : String)
  | notNumber (text : String)
  | overflow
deriving DecidableEq

/-! ## Reading -/

def marks : List String :=
  ["<<=", ">>=", "<=", ">=", "==", "!=", "&&", "||", "<<", ">>", "*=", "/=", "%=", "+=", "-=",
    "&=", "^=", "|=", "!", "~", "+", "-", "*", "/", "%", "<", ">", "&", "^", "|", "?", ":", "(",
    ")", "="]

def isBlank (c : Char) : Bool := c = ' ' || c = '\t' || c = '\n'

/-- The signs of an expression; a character that is none of them stands as an empty operator. -/
def signs : Nat → List Char → List Sign
  | 0, _ | _, [] => []
  | fuel + 1, c :: rest =>
      if isBlank c then signs fuel rest
      else if c.isDigit then
        let (value, behind) := Number.splitAnyBase (c :: rest)
        .number (Number.clamp value) :: signs fuel behind
      else if isNameStart c then
        .name (String.ofList (c :: rest.takeWhile isNamePart)) ::
          signs fuel (rest.dropWhile isNamePart)
      else
        match marks.find? fun mark => mark.toList.isPrefixOf (c :: rest) with
        | some mark => .mark mark :: signs fuel ((c :: rest).drop mark.length)
        | none => .mark "" :: signs fuel rest

def levels : List (List String) :=
  [["*", "/", "%"], ["+", "-"], ["<<", ">>"], ["<", "<=", ">", ">="], ["==", "!="], ["&"], ["^"],
    ["|"]]

abbrev Reader (α : Type) := List Sign → Except Trouble (α × List Sign)

def startsWith (mark : String) (input : List Sign) : Bool := input.head? = some (.mark mark)

mutual

def readPrimary : Nat → Reader Term
  | 0, _ => .error (.malformed "expecting primary")
  | fuel + 1, input =>
      match input with
      | .number value :: rest => .ok (.number value, rest)
      | .name name :: rest => .ok (.stored name, rest)
      | .mark "(" :: rest => do
          let (term, behind) ← readAssignment fuel rest
          if startsWith ")" behind then return (term, behind.tail)
          else throw (.malformed "expecting ')'")
      | .mark mark :: rest => do
          if mark = "+" then readPrimary fuel rest
          else if ["-", "!", "~"].contains mark then
            let (term, behind) ← readPrimary fuel rest
            return (.unary mark term, behind)
          else throw (.malformed "expecting primary")
      | [] => .error (.malformed "expecting primary")

def readBinary : Nat → List (List String) → Reader Term
  | 0, _, _ => .error (.malformed "expecting primary")
  | fuel + 1, [], input => readPrimary fuel input
  | fuel + 1, level :: tighter, input => do
      let (first, behind) ← readBinary fuel tighter input
      readBinaryBehind fuel level tighter first behind

def readBinaryBehind : Nat → List String → List (List String) → Term → Reader Term
  | 0, _, _, _, _ => .error (.malformed "expecting primary")
  | fuel + 1, level, tighter, first, input => do
      match input with
      | .mark mark :: rest =>
          if level.contains mark then
            let (second, behind) ← readBinary fuel tighter rest
            readBinaryBehind fuel level tighter (.binary mark first second) behind
          else return (first, input)
      | _ => return (first, input)

def readBoth : Nat → Reader Term
  | 0, _ => .error (.malformed "expecting primary")
  | fuel + 1, input => do
      let (first, behind) ← readBinary fuel levels.reverse input
      if startsWith "&&" behind then
        let (second, behind) ← readBoth fuel behind.tail
        return (.both first second, behind)
      else return (first, behind)

def readEither : Nat → Reader Term
  | 0, _ => .error (.malformed "expecting primary")
  | fuel + 1, input => do
      let (first, behind) ← readBoth fuel input
      if startsWith "||" behind then
        let (second, behind) ← readEither fuel behind.tail
        return (.either first second, behind)
      else return (first, behind)

def readChoice : Nat → Reader Term
  | 0, _ => .error (.malformed "expecting primary")
  | fuel + 1, input => do
      let (condition, behind) ← readEither fuel input
      if startsWith "?" behind then
        let (yes, behind) ← readAssignment fuel behind.tail
        if !startsWith ":" behind then throw (.malformed "expecting ':'")
        let (no, behind) ← readChoice fuel behind.tail
        return (.choose condition yes no, behind)
      else return (condition, behind)

def readAssignment : Nat → Reader Term
  | 0, _ => .error (.malformed "expecting primary")
  | fuel + 1, input =>
      match input with
      | .name name :: .mark mark :: rest => do
          let isCombined :=
            ["*=", "/=", "%=", "+=", "-=", "<<=", ">>=", "&=", "^=", "|="].contains mark
          if mark = "=" || isCombined then
            let (term, behind) ← readAssignment fuel rest
            let operator? := if isCombined then some (mark.dropEnd 1).toString else none
            return (.assign name operator? term, behind)
          else readChoice fuel input
      | _ => readChoice fuel input

end

def Term.ofText (text : List Char) : Except Trouble Term := do
  let input := signs (text.length + 1) text
  let (term, behind) ← readAssignment (16 * input.length + 16) input
  if behind.isEmpty then return term else throw (.malformed "expecting EOF")

/-! ## Values -/

abbrev Bindings := List (String × String)

def wrap (n : Int) : Int := Int.bmod n Number.wordCount

/-- The number that a text spells; blanks alone spell zero. -/
def numberOf (text : String) : Except Trouble Int :=
  let (negative, digits) := Number.splitSign (text.toList.dropWhile Number.isSpace)
  let (size, behind) := Number.splitAnyBase digits
  let value : Int := if negative then -size else size
  let isNumber := behind.length < digits.length && behind.all Number.isSpace
  if text.toList.all Number.isSpace then .ok 0
  else if isNumber && Number.clamp value = value then .ok value
  else .error (.notNumber text)

def valueOf (bindings : Bindings) (name : String) : Except Trouble Int :=
  numberOf ((bindings.lookup name).getD "")

def truth (b : Bool) : Int := if b then 1 else 0

def bits (n : Int) : Nat := (n % Number.wordCount).toNat

def shiftOf (n : Int) : Nat := (n % 64).toNat

def unaryValue (mark : String) (n : Int) : Int :=
  match mark with
  | "-" => wrap (-n)
  | "!" => truth (n = 0)
  | _ => -n - 1

def binaryValue (mark : String) (a b : Int) : Except Trouble Int :=
  let divided (result : Int) : Except Trouble Int :=
    if b = 0 then .error (.malformed "division by zero")
    else if a = Number.least && b = -1 then .error .overflow
    else .ok result
  match mark with
  | "*" => .ok (wrap (a * b))
  | "/" => divided (a.tdiv b)
  | "%" => divided (a.tmod b)
  | "+" => .ok (wrap (a + b))
  | "-" => .ok (wrap (a - b))
  | "<<" => .ok (wrap (a * (Nat.shiftLeft 1 (shiftOf b) : Nat)))
  | ">>" => .ok (Int.shiftRight a (shiftOf b))
  | "<" => .ok (truth (a < b))
  | "<=" => .ok (truth (a ≤ b))
  | ">" => .ok (truth (a > b))
  | ">=" => .ok (truth (a ≥ b))
  | "==" => .ok (truth (a = b))
  | "!=" => .ok (truth (a ≠ b))
  | "&" => .ok (wrap ((bits a).land (bits b)))
  | "^" => .ok (wrap ((bits a).xor (bits b)))
  | _ => .ok (wrap ((bits a).lor (bits b)))

def store (bindings : Bindings) (name value : String) : Bindings :=
  (name, value) :: bindings.filter fun other => other.1 ≠ name

/-- The value of a term, and the bindings behind it. What a choice does not need is not looked
at. -/
def Term.eval : Term → Bindings → Except Trouble (Int × Bindings)
  | .number value, bindings => .ok (value, bindings)
  | .stored name, bindings => do return (← valueOf bindings name, bindings)
  | .unary mark term, bindings => do
      let (n, bindings) ← term.eval bindings
      return (unaryValue mark n, bindings)
  | .binary mark left right, bindings => do
      let (a, bindings) ← left.eval bindings
      let (b, bindings) ← right.eval bindings
      return (← binaryValue mark a b, bindings)
  | .both left right, bindings => do
      let (a, bindings) ← left.eval bindings
      if a = 0 then return (0, bindings)
      else
        let (b, bindings) ← right.eval bindings
        return (truth (b ≠ 0), bindings)
  | .either left right, bindings => do
      let (a, bindings) ← left.eval bindings
      if a ≠ 0 then return (1, bindings)
      else
        let (b, bindings) ← right.eval bindings
        return (truth (b ≠ 0), bindings)
  | .choose condition yes no, bindings => do
      let (c, bindings) ← condition.eval bindings
      if c ≠ 0 then yes.eval bindings else no.eval bindings
  | .assign name mark? term, bindings => do
      let (n, bindings) ← term.eval bindings
      let value ←
        match mark? with
        | none => pure n
        | some mark => do binaryValue mark (← valueOf bindings name) n
      return (value, store bindings name (toString value))

def eval (text : List Char) (bindings : Bindings) : Except Trouble (Int × Bindings) := do
  (← Term.ofText text).eval bindings

end CallScript.Shell.Arithmetic
