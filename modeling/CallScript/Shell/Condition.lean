import CallScript.FileTree.Walk
import CallScript.Shell.Number

/-!
# Conditions

The conditions of `test`: words that ask about files, compare texts and numbers, and can be joined.
Which words are operators depends on their neighbours, so that any text can be an operand.

A cursor is the list of the words from the current one on. Evaluating leaves the cursor at the last
word that was used.
-/

namespace CallScript.Shell.Condition

inductive Operator where
  | unary (letter : Char)
  | binary (text : String)
  | negate
  | both
  | either
  | opening
  | closing
deriving DecidableEq

def unaryLetters : List Char := "rwxefdcbpugkstznhOGLS".toList

def binaryOperators : List String :=
  ["=", "!=", "<", ">", "-eq", "-ne", "-ge", "-gt", "-le", "-lt", "-nt", "-ot", "-ef"]

def operator? (word : String) : Option Operator :=
  match word with
  | "!" => some .negate
  | "-a" => some .both
  | "-o" => some .either
  | "(" => some .opening
  | ")" => some .closing
  | _ =>
      if binaryOperators.contains word then some (.binary word)
      else
        match word.toList with
        | ['-', letter] => if unaryLetters.contains letter then some (.unary letter) else none
        | _ => none

def isBinary (word : String) : Bool := binaryOperators.contains word

/-- The operator that the current word is. The operator of one operand is one only if its operand
follows and is not itself compared with something. -/
def operatorAt? : List String → Option Operator
  | [] => none
  | word :: rest =>
      match operator? word, rest with
      | some (.unary _), [] => none
      | some .opening, [] => none
      | some (.unary letter), next :: _ :: _ => if isBinary next then none else some (.unary letter)
      | operator?, _ => operator?

def numberOf (text : String) : Except String Int :=
  match Number.decimal? text with
  | some n => .ok n
  | none => .error ("Illegal number: " ++ text)

variable (tree : FileTree) (directory : Location)

def specialBits : List (Char × Nat) := [('u', 0o4000), ('g', 0o2000), ('k', 0o1000)]

def unaryValue (letter : Char) (operand : String) : Except String Bool :=
  let found? := (tree.find directory operand).toOption.map (·.2)
  let has (property : Inode → Bool) : Except String Bool := .ok (found?.any property)
  match letter with
  | 'n' => .ok (!operand.isEmpty)
  | 'z' => .ok operand.isEmpty
  | 'e' => .ok found?.isSome
  | 'd' => has Inode.isDirectory
  | 'c' => has fun node => match node.entry with | .null => true | _ => false
  | 'f' => has Inode.isFile
  | 's' => has fun node => node.isDirectory || !node.content.isEmpty
  | 'h' | 'L' =>
      .ok ((tree.findNamed directory operand).toOption.any fun (_, node) => node.linkTarget?.isSome)
  | 'r' => has fun node => node.allows .read
  | 'w' => has fun node => node.allows .write
  | 'x' => has fun node => node.allows .execute
  | 'O' | 'G' => has Inode.isOwn
  | 't' => do let _ ← numberOf operand; return false
  | _ => has fun node => node.mode.land ((specialBits.lookup letter).getD 0) != 0

def binaryValue (operator a b : String) : Except String Bool :=
  let numbers (holds : Int → Int → Bool) : Except String Bool := do
    return holds (← numberOf a) (← numberOf b)
  let files (holds : Location × Inode → Location × Inode → Bool) : Except String Bool :=
    match tree.find directory a, tree.find directory b with
    | .ok first, .ok second => .ok (holds first second)
    | _, _ => .ok false
  match operator with
  | "=" => .ok (a == b)
  | "!=" => .ok (a != b)
  | "<" => .ok (a < b)
  | ">" => .ok (b < a)
  | "-eq" => numbers (· == ·)
  | "-ne" => numbers (· != ·)
  | "-lt" => numbers (· < ·)
  | "-le" => numbers (· ≤ ·)
  | "-gt" => numbers (· > ·)
  | "-ge" => numbers (· ≥ ·)
  | "-nt" => files fun first second => first.2.time > second.2.time
  | "-ot" => files fun first second => first.2.time < second.2.time
  | _ => files fun first second => tree.number? first.1 = tree.number? second.1

/-- The value of the operand at the cursor, or of the comparison that it begins. -/
def operandValue : List String → Except String (Bool × List String)
  | [] => .ok (false, [])
  | word :: rest =>
      match operatorAt? rest, rest with
      | some (.binary operator), _ :: second :: behind => do
          return (← binaryValue tree directory operator word second, second :: behind)
      | some (.binary operator), _ => .error (operator ++ ": argument expected")
      | _, _ => .ok (!word.isEmpty, word :: rest)

mutual

def primaryValue : Nat → List String → Except String (Bool × List String)
  | 0, cursor => .ok (false, cursor)
  | fuel + 1, cursor =>
      match operatorAt? cursor, cursor with
      | some .opening, _ :: inner =>
          if operatorAt? inner = some .closing then .ok (false, inner)
          else do
            let (value, last) ← eitherValue fuel inner
            if operatorAt? last.tail = some .closing then return (value, last.tail)
            else throw "closing paren expected"
      | some (.unary letter), _ :: operand :: behind => do
          return (← unaryValue tree directory letter operand, operand :: behind)
      | _, _ => operandValue tree directory cursor

def negatedValue : Nat → List String → Except String (Bool × List String)
  | 0, cursor => .ok (false, cursor)
  | fuel + 1, cursor =>
      if operatorAt? cursor = some .negate then
        if cursor.tail.isEmpty then .ok (true, cursor)
        else do
          let (value, last) ← negatedValue fuel cursor.tail
          return (!value, last)
      else primaryValue fuel cursor

def bothValue : Nat → List String → Except String (Bool × List String)
  | 0, cursor => .ok (false, cursor)
  | fuel + 1, cursor => do
      let (first, last) ← negatedValue fuel cursor
      if operatorAt? last.tail = some .both then
        let (second, last) ← bothValue fuel last.tail.tail
        return (first && second, last)
      else return (first, last)

def eitherValue : Nat → List String → Except String (Bool × List String)
  | 0, cursor => .ok (false, cursor)
  | fuel + 1, cursor => do
      let (first, last) ← bothValue fuel cursor
      if operatorAt? last.tail = some .either then
        let (second, last) ← eitherValue fuel last.tail.tail
        return (first || second, last)
      else return (first, last)

end

def completed : Bool × List String → Except String Bool
  | (_, word :: _ :: _) =>
      .error (if word.isEmpty then "unexpected operator" else word ++ ": unexpected operator")
  | (value, _) => .ok value

def joinedValue (words : List String) : Except String Bool :=
  eitherValue tree directory (4 * words.length + 4) words >>= completed

/-- Evaluates the words of a condition. For three and four of them there are rules that come before
all others. -/
def eval : List String → Except String Bool
  | [a, operator, b] =>
      if isBinary operator then binaryValue tree directory operator a b
      else if a = "(" && b = ")" then joinedValue tree directory [operator]
      else if a = "!" then do return !(← joinedValue tree directory [operator, b])
      else joinedValue tree directory [a, operator, b]
  | [first, a, operator, b] =>
      if first = "(" && b = ")" then joinedValue tree directory [a, operator]
      else if first = "!" then do
        if isBinary operator then return !(← binaryValue tree directory operator a b)
        else if a = "(" && b = ")" then return !(← joinedValue tree directory [operator])
        else if a = "!" then return !(← joinedValue tree directory [operator, b])
        else return !(← joinedValue tree directory [a, operator, b])
      else joinedValue tree directory [first, a, operator, b]
  | [] => .ok false
  | words => joinedValue tree directory words

end CallScript.Shell.Condition
