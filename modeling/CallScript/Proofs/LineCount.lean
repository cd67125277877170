import CallScript.Proofs.ReadBack
import Mathlib.Algebra.GroupWithZero.Nat

/-!
# The lines of host source

How many line breaks a program is written out with, whatever tree it is and whatever texts are in
it. Around the body their number is fixed, and a call has one at its end. Texts are written without
any. Only a name that is written as it stands can bring in more, and the names that are read from a
source hold none.

* `HostSource.breaks_call`: the line breaks inside a written call.
* `HostSource.breaks_render`: those of a whole program.
-/

namespace CallScript
namespace HostSource
open HostReader

/-! ## Line breaks of texts -/

def breaks (text : String) : Nat := text.toList.count '\n'

theorem breaks_eq_zero_iff {text : String} : breaks text = 0 ↔ '\n' ∉ text.toList :=
  List.count_eq_zero

theorem breaks_append (text more : String) : breaks (text ++ more) = breaks text + breaks more := by
  rw [breaks, String.toList_append, List.count_append, ← breaks, ← breaks]

theorem breaks_join (texts : List String) :
    breaks (String.join texts) = (texts.map breaks).sum := by
  rw [breaks, String.toList_join]
  induction texts with
  | nil => rfl
  | cons text texts ih =>
      rw [List.flatMap_cons, List.count_append, ih, List.map_cons, List.sum_cons, ← breaks]

theorem breaks_intercalate {separator : String} (noBreak : breaks separator = 0)
    (texts : List String) :
    breaks (separator.intercalate texts) = (texts.map breaks).sum := by
  rw [breaks] at noBreak
  rw [breaks, String.toList_intercalate]
  induction texts with
  | nil => rfl
  | cons text texts ih =>
      cases texts with
      | nil => simp [breaks]
      | cons next texts =>
          simp only [List.map_cons, List.intercalate_cons_cons, List.count_append, noBreak,
            List.sum_cons] at ih ⊢
          rw [ih, ← breaks]
          omega

/-! ## Names that are written as they stand -/

def word? : Node → Option String
  | .word name => some name
  | .program _ | .call _ _ | .text _ => none

/-- The names in the line of a statement: those that a print prints, or that of an unknown call. -/
def namesWritten : Node → List String
  | .call name args => if name = "print" then args.filterMap word? else [name]
  | .program _ | .text _ | .word _ => []

/-- The line breaks of a call: the one at its end, and those in the names. -/
def callBreaks? : Node → Option Nat
  | .call name args => some (1 + ((namesWritten (.call name args)).map breaks).sum)
  | .program _ | .text _ | .word _ => none

/-- The line breaks around the calls. Those of an import are there where something is printed. -/
def frameBreaks (program : Node) : Target → Nat
  | .rust => 4
  | .go => if program.statements.any (·.isCall "print") then 10 else 6

/-! ## The two languages -/

/-- A dialect with no line breaks of its own inside a line. -/
structure OneLine (dialect : Dialect) : Prop where
  quote (value : String) : breaks (dialect.quote value) = 0
  print (operands : List String) : breaks (dialect.print operands) = (operands.map breaks).sum

theorem rust_oneLine : OneLine .rust where
  quote value := breaks_eq_zero_iff.mpr (rust_quotes.newline_not_mem value)
  print operands := by
    cases operands with
    | nil => decide
    | cons operand operands =>
        have placeholders :
            breaks (" ".intercalate ((operand :: operands).map fun _ => "\x7b\x7d")) = 0 := by
          rw [breaks_eq_zero_iff, toList_placeholders]
          exact newline_not_mem_format _
        have start : breaks "println!(\"" = 0 := by decide
        have middle : breaks "\", " = 0 := by decide
        have ending : breaks ");" = 0 := by decide
        rw [rust_print_operands, breaks_append, breaks_append, breaks_append, breaks_append,
          placeholders, start, middle, ending, breaks_intercalate (by decide)]
        omega

theorem go_oneLine : OneLine .go where
  quote value := breaks_eq_zero_iff.mpr (go_quotes.newline_not_mem value)
  print operands := by
    have start : breaks "fmt.Println(" = 0 := by decide
    have ending : breaks ")" = 0 := by decide
    rw [go_print_operands, breaks_append, breaks_append, start, ending,
      breaks_intercalate (by decide)]
    omega

theorem dialect_oneLine (target : Target) : OneLine target.dialect := by
  cases target with
  | rust => exact rust_oneLine
  | go => exact go_oneLine

theorem breaks_unknownCall (name : String) : breaks (unknownCall name) = breaks name := by
  have comment : breaks "// unknown function: " = 0 := breaks_eq_zero_iff.mpr (by decide)
  calc breaks (unknownCall name)
      = breaks "// unknown function: " + breaks name := breaks_append _ name
    _ = breaks name := by rw [comment, Nat.zero_add]

section

variable {dialect : Dialect} (oneLine : OneLine dialect)
include oneLine

theorem breaks_operands (args : List Node) :
    ((args.filterMap dialect.operand?).map breaks).sum =
      ((args.filterMap word?).map breaks).sum := by
  induction args with
  | nil => rfl
  | cons arg args ih =>
      cases arg with
      | text value =>
          have noWord : word? (.text value) = none := rfl
          have operand : dialect.operand? (.text value) = some (dialect.quote value) := rfl
          rw [List.filterMap_cons_none noWord, List.filterMap_cons_some operand, List.map_cons,
            List.sum_cons, oneLine.quote, Nat.zero_add, ih]
      | word name =>
          have word : word? (.word name) = some name := rfl
          have operand : dialect.operand? (.word name) = some name := rfl
          rw [List.filterMap_cons_some word, List.filterMap_cons_some operand, List.map_cons,
            List.map_cons, List.sum_cons, List.sum_cons, ih]
      | program statements => exact ih
      | call name args => exact ih

theorem breaks_call (name : String) (args : List Node) :
    breaks (dialect.call name args) = ((namesWritten (.call name args)).map breaks).sum := by
  by_cases print : name = "print"
  · subst print
    have found : Builtin.find? "print" = some .print := rfl
    simp only [Dialect.call, found, oneLine.print, breaks_operands oneLine, namesWritten, if_true]
  · have name_only : namesWritten (.call name args) = [name] := if_neg print
    rw [call_unknown print, breaks_unknownCall, name_only, List.map_singleton, List.sum_singleton]

theorem breaks_line {statement : Node} {line : String}
    (written : dialect.line? statement = some line) :
    breaks line = 1 + ((namesWritten statement).map breaks).sum := by
  cases statement with
  | call name args =>
      cases written
      have indentation : breaks Dialect.indentation = 0 := by decide
      have ending : breaks "\n" = 1 := by decide
      rw [breaks_append, breaks_append, indentation, ending, breaks_call oneLine]
      omega
  | program statements => cases written
  | text value => cases written
  | word name => cases written

theorem breaks_body (statements : List Node) :
    breaks (String.join (statements.filterMap dialect.line?)) =
      (statements.filterMap callBreaks?).sum := by
  have each : (fun statement => (dialect.line? statement).map breaks) = callBreaks? := by
    funext statement
    cases statement with
    | call name args =>
        have written : dialect.line? (.call name args) = some _ := rfl
        exact congrArg some (breaks_line oneLine written)
    | program statements => rfl
    | text value => rfl
    | word name => rfl
  rw [breaks_join, List.map_filterMap, each]

end

/-! ## Programs -/

theorem breaks_opening (target : Target) (program : Node) :
    breaks (target.dialect.opening (program.statements.any (·.isCall "print"))) + 1 =
      frameBreaks program target := by
  have rust (prints : Bool) : breaks (Dialect.rust.opening prints) = 3 := by
    cases prints <;> decide +kernel
  have go (prints : Bool) : breaks (Dialect.go.opening prints) = if prints then 9 else 5 := by
    cases prints <;> decide +kernel
  cases target with
  | rust => exact congrArg (· + 1) (rust _)
  | go =>
      refine (congrArg (· + 1) (go _)).trans ?_
      rw [frameBreaks]
      split <;> rfl

theorem breaks_render (program : Node) (target : Target) :
    breaks (program.render target) =
      frameBreaks program target + (program.statements.filterMap callBreaks?).sum := by
  have ending : breaks "\x7d\n" = 1 := by decide
  have frame := breaks_opening target program
  have body := breaks_body (dialect_oneLine target) program.statements
  calc breaks (program.render target)
      = breaks (target.dialect.opening (program.statements.any (·.isCall "print"))) +
          breaks (String.join (program.statements.filterMap target.dialect.line?)) +
            breaks "\x7d\n" := by
        rw [← breaks_append, ← breaks_append]
        rfl
    _ = frameBreaks program target + (program.statements.filterMap callBreaks?).sum := by
        rw [body, ending]
        omega

theorem newline_not_mem_namesWritten {source : String} {program : Node}
    (parsed : Node.parse (Token.scan source) = .ok program) :
    ∀ statement ∈ program.statements, ∀ name ∈ namesWritten statement, '\n' ∉ name.toList := by
  have named := namedByWords_of_parse parsed
  intro statement member name written
  cases statement with
  | call called args =>
      obtain ⟨word, words⟩ := named called args member
      by_cases print : called = "print"
      · have names : namesWritten (.call called args) = args.filterMap word? := if_pos print
        rw [names] at written
        obtain ⟨arg, isArg, same⟩ := List.mem_filterMap.mp written
        cases arg with
        | word other =>
            cases same
            exact newline_not_mem_of_isWord (words name isArg)
        | program statements => cases same
        | call name args => cases same
        | text value => cases same
      · have names : namesWritten (.call called args) = [called] := if_neg print
        rw [names, List.mem_singleton] at written
        exact written ▸ newline_not_mem_of_isWord word
  | program statements => cases written
  | text value => cases written
  | word name => cases written

theorem sum_breaks_eq_zero_iff {names : List String} :
    (names.map breaks).sum = 0 ↔ ∀ name ∈ names, '\n' ∉ name.toList := by
  simp only [List.sum_eq_zero_iff_forall_eq_nat, List.forall_mem_map, breaks_eq_zero_iff]

theorem oneLine_iff {dialect : Dialect} (oneLine : OneLine dialect) (statement : Node) :
    (∀ line, dialect.line? statement = some line → breaks line = 1) ↔
      ∀ name ∈ namesWritten statement, '\n' ∉ name.toList := by
  rw [← sum_breaks_eq_zero_iff]
  constructor
  · intro isLine
    cases statement with
    | call name args =>
        have written : dialect.line? (.call name args) = some _ := rfl
        have one := isLine _ written
        rw [breaks_line oneLine written] at one
        omega
    | program statements => rfl
    | text value => rfl
    | word name => rfl
  · intro noBreaks line written
    rw [breaks_line oneLine written, noBreaks]

/-- The line breaks of host source, for every tree: those of the frame, one for each call, and those
in the names that are written as they stand. So every call is one line exactly if none of these
names holds a line break, and in a program that is read from a source none does. -/
theorem render_lines :
    (∀ (program : Node) (target : Target),
      breaks (program.render target) =
        frameBreaks program target + (program.statements.filterMap callBreaks?).sum ∧
      ((∀ statement ∈ program.statements, ∀ line,
          target.dialect.line? statement = some line → breaks line = 1) ↔
        ∀ statement ∈ program.statements, ∀ name ∈ namesWritten statement, '\n' ∉ name.toList)) ∧
    ∀ source program, Node.parse (Token.scan source) = .ok program →
      ∀ statement ∈ program.statements, ∀ name ∈ namesWritten statement, '\n' ∉ name.toList :=
  ⟨fun program target => ⟨breaks_render program target, forall₂_congr fun statement _ =>
      oneLine_iff (dialect_oneLine target) statement⟩,
    fun _ _ => newline_not_mem_namesWritten⟩

/-- The case of a text with line breaks, which bring in none, and of names with line breaks, which
bring in one each; and of a program read from source. -/
theorem render_lines_broken :
    let broken : Node := .program [.call "print" [.text "a\n\n", .word "b\nc", .call "d\n" []],
      .word "e\n", .call "f\ng" [.word "h\n"]]
    let read : Node := .program [.call "print" [.text "a\nb", .word "c"]]
    breaks (broken.render .rust) = 8 ∧ breaks (broken.render .go) = 14 ∧
      Node.parse (Token.scan "print(\"a\nb\" c)") = .ok read ∧
      breaks (read.render .go) = 11 ∧
      ∀ statement ∈ read.statements, ∀ name ∈ namesWritten statement, '\n' ∉ name.toList := by
  intro broken read
  have parsed : Node.parse (Token.scan "print(\"a\nb\" c)") = .ok read := by decide +kernel
  obtain ⟨lines, names⟩ := render_lines
  refine ⟨(lines broken .rust).1.trans ?_, (lines broken .go).1.trans ?_, parsed,
    (lines read .go).1.trans ?_, names _ read parsed⟩
  · decide +kernel
  · decide +kernel
  · decide +kernel

end HostSource
end CallScript
