import CallScript.Shell.Condition
import CallScript.Shell.Utility.Basic

/-!
# Conditions of utilities

The utility that asks about files, texts and numbers. How its words are read depends on how many of
them there are; from five words on they are read as alternatives of conjunctions.
-/

namespace CallScript.Shell

namespace WordTest

def integer? (text : String) : Option Int :=
  let (negative, digits) := Number.splitSign (text.toList.dropWhile Number.isSpace)
  let number := digits.takeWhile Char.isDigit
  if number.isEmpty || !(digits.drop number.length).all (fun c => c = ' ' || c = '\t') then none
  else
    let size : Int := Number.ofDigits 10 number
    some (if negative then -size else size)

def integer (text : String) : Except String Int :=
  match integer? text with
  | some n => .ok n
  | none => .error ("invalid integer " ++ quoted text)

def comparisons : List (String × (Int → Int → Bool)) :=
  [("-eq", (· == ·)), ("-ne", (· != ·)), ("-lt", (· < ·)), ("-le", (· ≤ ·)), ("-gt", (· > ·)),
    ("-ge", (· ≥ ·))]

def isBinary (word : String) : Bool := word = "==" || Condition.isBinary word

variable (tree : FileTree) (directory : Location)

def binary (operator a b : String) : Except String Bool :=
  let isThere (path : String) : Bool := (tree.find directory path).toOption.isSome
  match comparisons.lookup operator with
  | some holds => do return holds (← integer a) (← integer b)
  | none =>
      if operator = "-nt" && isThere a && !isThere b then .ok true
      else if operator = "-ot" && isThere b && !isThere a then .ok true
      else Condition.binaryValue tree directory (if operator = "==" then "=" else operator) a b

def unaryLetter? (word : String) : Option Char :=
  match word.toList with
  | ['-', letter] =>
      if "abcdefghkLnNoOprsStuvwxz".toList.contains letter then some letter else none
  | _ => none

def unary (letter : Char) (operand : String) : Except String Bool :=
  if letter = 't' then do
    let _ ← integer operand
    return false
  else Condition.unaryValue tree directory (if letter = 'a' then 'e' else letter) operand

def missing {α : Type} (last : String) : Except String α :=
  .error ("missing argument after " ++ quoted last)

def refuse {α : Type} (word kind : String) : Except String α :=
  .error (quoted word ++ ": " ++ kind ++ " operator expected")

mutual

/-- Reads so many words at the front by the rules for their number; `last` is the last word of all.
-/
def few (last : String) : Nat → Nat → List String → Except String (Bool × List String)
  | 0, _, words => .ok (false, words)
  | fuel + 1, count, words => do
      let negated (count : Nat) (rest : List String) : Except String (Bool × List String) := do
        let (value, behind) ← few last fuel count rest
        return (!value, behind)
      match count, words with
      | 1, a :: rest => return (!a.isEmpty, rest)
      | 2, "!" :: rest => negated 1 rest
      | 2, a :: b :: rest =>
          match unaryLetter? a with
          | some letter => return (← unary tree directory letter b, rest)
          | none =>
              if a.length = 2 && a.startsWith "-" then refuse a "unary" else missing last
      | 3, a :: b :: c :: rest =>
          if isBinary b then return (← binary tree directory b a c, rest)
          else if a = "!" then negated 2 (b :: c :: rest)
          else if a = "(" && c = ")" then return (!b.isEmpty, rest)
          else if b = "-a" || b = "-o" then either last fuel words
          else refuse b "binary"
      | 4, "!" :: rest => negated 3 rest
      | 4, "(" :: a :: b :: ")" :: rest => do
          let (value, _) ← few last fuel 2 [a, b]
          return (value, rest)
      | _, _ => either last fuel words

def either (last : String) : Nat → List String → Except String (Bool × List String)
  | 0, words => .ok (false, words)
  | fuel + 1, words => do
      let (first, rest) ← both last fuel words
      match rest with
      | "-o" :: rest => do
          let (second, rest) ← either last fuel rest
          return (first || second, rest)
      | _ => return (first, rest)

def both (last : String) : Nat → List String → Except String (Bool × List String)
  | 0, words => .ok (false, words)
  | fuel + 1, words => do
      let (first, rest) ← term last fuel words
      match rest with
      | "-a" :: rest => do
          let (second, rest) ← both last fuel rest
          return (first && second, rest)
      | _ => return (first, rest)

def term (last : String) : Nat → List String → Except String (Bool × List String)
  | 0, words => .ok (false, words)
  | fuel + 1, words =>
      match words with
      | [] => missing last
      | "!" :: rest => do
          let (value, rest) ← term last fuel rest
          return (!value, rest)
      | "(" :: rest => do
          if rest.isEmpty then missing last
          let inner := (rest.drop 1).takeWhile (· ≠ ")")
          let count := if inner.length < 3 then 1 + inner.length else rest.length
          let (value, behind) ← few last fuel count rest
          match behind with
          | ")" :: behind => return (value, behind)
          | [] => throw "')' expected"
          | other :: _ => throw ("')' expected, found " ++ other)
      | a :: rest =>
          match rest with
          | operator :: b :: behind =>
              if isBinary operator then do
                return (← binary tree directory operator a b, behind)
              else single last a (operator :: b :: behind)
          | _ => single last a rest

def single (last : String) (a : String) (rest : List String) : Except String (Bool × List String) :=
  if a.length = 2 && a.startsWith "-" then
    match unaryLetter? a, rest with
    | none, _ => refuse a "unary"
    | some _, [] => missing last
    | some letter, operand :: behind => do
        return (← unary tree directory letter operand, behind)
  else .ok (!a.isEmpty, rest)

end

def eval (words : List String) : Except String Bool := do
  if words.isEmpty then return false
  let (value, rest) ←
    few tree directory (words.getLastD "") (4 * words.length + 8) words.length words
  match rest with
  | [] => return value
  | extra :: _ => throw ("extra argument " ++ quoted extra)

end WordTest

namespace Invocation

def test (call : Invocation) (args : List String) : Reply :=
  match WordTest.eval call.tree call.directory args with
  | .ok true => call.done
  | .ok false => { call.done with code := 1 }
  | .error text => call.fail text 2

def bracket (call : Invocation) : Reply :=
  if call.args = ["--help"] then call.write (call.usage "EXPRESSION ]")
  else if call.args = ["--version"] then call.write call.about
  else if call.args.getLast? = some "]" then call.test call.args.dropLast
  else call.fail "missing ']'" 2

end Invocation
end CallScript.Shell
