import CallScript.HostSource
import CallScript.Proofs.Grammar
import CallScript.Proofs.Literal
import CallScript.Proofs.Scanning

/-!
# Reading host source back

A reader for each of the two host languages, of the part of the language in which programs are
written out: what precedes the body, one line for each call, and the closing brace. A line prints
operands or is a comment on an unknown call. The readers share the words and the operands; each has
the literals, the print and the file of its own language.
-/

namespace CallScript
namespace HostReader
open Literal

/-! ## What a program does -/

/-- What is printed: the value of a literal, or that of a name. -/
inductive Operand where
  | text (value : String)
  | word (name : String)
deriving DecidableEq

inductive Action where
  | print (operands : List Operand)
  | unknown (name : String)
deriving DecidableEq

def Action.isPrint : Action → Bool
  | .print _ => true
  | .unknown _ => false

def operand? : Node → Option Operand
  | .text value => some (.text value)
  | .word name => some (.word name)
  | .program _ | .call _ _ => none

/-- A call prints its texts and words; a call of any other name is unknown. -/
def action? : Node → Option Action
  | .call name args =>
      some (if name = "print" then .print (args.filterMap operand?) else .unknown name)
  | .program _ | .text _ | .word _ => none

def actions (program : Node) : List Action := program.statements.filterMap action?

/-! ## Names -/

def isWord (name : String) : Bool :=
  match name.toList with
  | [] => false
  | c :: rest => isWordStart c && rest.all isWordPart

/-- The calls of a program, and the words among their arguments, are named as the scanner names
words. Nothing is asked of texts, of other statements and of what is nested in arguments. -/
def NamedByWords (program : Node) : Prop :=
  ∀ name args, .call name args ∈ program.statements →
    isWord name = true ∧ ∀ word, .word word ∈ args → isWord word = true

def Operand.Named : Operand → Prop
  | .text _ => True
  | .word name => isWord name = true

/-! ## Readers of both languages -/

def expect (text : String) (source : List Char) : Option (List Char) :=
  text.toList.isPrefixOf? source

def readWord : List Char → Option (String × List Char)
  | [] => none
  | c :: source =>
      if isWordStart c then
        some (String.ofList (c :: source.takeWhile isWordPart), source.dropWhile isWordPart)
      else none

def readOperand (rules : Rules) (source : List Char) : Option (Operand × List Char) :=
  match rules.scan source with
  | some (text, rest) => some (.text (String.ofList text), rest)
  | none => (readWord source).map fun (name, rest) => (.word name, rest)

theorem scan_length {rules : Rules} {source text rest : List Char}
    (h : rules.scan source = some (text, rest)) : rest.length ≤ source.length := by
  unfold Rules.scan at h
  split at h
  · exact Nat.le_succ_of_le (Rules.scanBody_length h)
  · cases h

theorem readOperand_length {rules : Rules} {source rest : List Char} {operand : Operand}
    (h : readOperand rules source = some (operand, rest)) : rest.length ≤ source.length := by
  unfold readOperand at h
  split at h
  · next scanned =>
      cases h
      exact scan_length scanned
  · obtain ⟨⟨name, left⟩, read, same⟩ := Option.map_eq_some_iff.mp h
    cases same
    cases source with
    | nil => cases read
    | cons c source =>
        have dropped := (List.dropWhile_sublist (l := source) isWordPart).length_le
        simp only [readWord, Option.ite_none_right_eq_some, Option.some.injEq,
          Prod.mk.injEq] at read
        obtain ⟨-, -, rfl⟩ := read
        exact Nat.le_succ_of_le dropped

def readMore (rules : Rules) : List Char → Option (List Operand × List Char)
  | ')' :: rest => some ([], rest)
  | ',' :: ' ' :: source =>
      match _h : readOperand rules source with
      | some (operand, rest) => (readMore rules rest).map (Prod.map (operand :: ·) id)
      | none => none
  | _ => none
termination_by source => source.length
decreasing_by
  have := readOperand_length _h
  simp only [List.length_cons]
  omega

def readUnknown (line : List Char) : Option Action := do
  let source ← expect "// unknown function: " line
  match ← readWord source with
  | (name, []) => some (.unknown name)
  | _ => none

def readBody (readCall : List Char → Option Action) : List (List Char) → Option (List Action)
  | [] => none
  | line :: lines =>
      if line = ['\x7d'] then if lines = [[]] then some [] else none
      else do
        let action ← (expect "    " line).bind readCall
        (readBody readCall lines).map (action :: ·)

def expectLines (expected : List String) (lines : List (List Char)) : Option (List (List Char)) :=
  (expected.map String.toList).isPrefixOf? lines

/-! ## The two languages -/

namespace Rust

/-- A print without operands has no format; any other has one with a placeholder for each of its
operands. -/
def readPrint (line : List Char) : Option (List Operand) := do
  let source ← expect "println!(" line
  if source = [')', ';'] then return []
  let (format, source) ← Rules.rust.scan source
  let (operands, rest) ← readMore Rules.rust source
  if rest = [';'] ∧ format.splitOn ' ' = List.replicate operands.length ['\x7b', '\x7d'] then
    some operands
  else none

def readCall (line : List Char) : Option Action :=
  (readUnknown line).or ((readPrint line).map .print)

def read (text : String) : Option (List Action) := do
  let body ← expectLines ["// Generated by mob. Do not edit.", "", "fn main() \x7b"]
    (text.toList.splitOn '\n')
  readBody readCall body

end Rust

namespace Go

def readPrint (line : List Char) : Option (List Operand) := do
  let source ← expect "fmt.Println(" line
  if source = [')'] then return []
  let (first, source) ← readOperand Rules.go source
  match ← readMore Rules.go source with
  | (others, []) => some (first :: others)
  | _ => none

def readCall (line : List Char) : Option Action :=
  (readUnknown line).or ((readPrint line).map .print)

def readImport (lines : List (List Char)) : Bool × List (List Char) :=
  match expectLines ["import (", "    \"fmt\"", ")", ""] lines with
  | some rest => (true, rest)
  | none => (false, lines)

/-- The package that prints has to be imported if there is a print, and must not be imported
otherwise. -/
def read (text : String) : Option (List Action) := do
  let lines ← expectLines ["// Generated by mob. Do not edit.", "", "package main", ""]
    (text.toList.splitOn '\n')
  let (imported, lines) := readImport lines
  let body ← expectLines ["func main() \x7b"] lines
  let actions ← readBody readCall body
  if imported = actions.any Action.isPrint then some actions else none

end Go

end HostReader
end CallScript
