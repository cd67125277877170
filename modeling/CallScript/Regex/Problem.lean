import CallScript.Text.Pieces

/-!
# Mistakes in search patterns

A mistake in a pattern has a kind and a span, and some kinds point at a second span. The report
repeats the pattern and marks the spans below it.
-/

namespace CallScript.Regex

/-- The characters from `first` up to but not including `past`. -/
structure Span where
  first : Nat
  past : Nat
deriving DecidableEq

namespace Span

def place (position : Nat) : Span := ⟨position, position⟩

def single (position : Nat) : Span := ⟨position, position + 1⟩

/-- A place is marked like a single character. -/
def width (span : Span) : Nat := max 1 (span.past - span.first)

end Span

namespace Problem

inductive Kind where
  | setEscape
  | setRange
  | setBoundary
  | setUnclosed
  | numberTooLarge
  | hexEmpty
  | hexInvalid
  | hexDigit
  | escapeUnfinished
  | escapeUnknown
  | flagDangling
  | flagTwice
  | flagNegatedTwice
  | flagUnfinished
  | flagUnknown
  | nameTwice
  | nameEmpty
  | nameInvalid
  | nameUnfinished
  | groupUnclosed
  | groupUnopened
  | countInvalid
  | countMissing
  | countUnclosed
  | nothingToRepeat
  | boundaryUnclosed
  | boundaryUnknown
  | boundaryUnfinished
  | propertyInvalid
  | backreference
  | lookAround
  | codePointsRefused
  | notText
  | propertyUnknown
  | propertyValueUnknown
  | classUnavailable
  | foldingUnavailable
  | nestedTooDeep
deriving DecidableEq

def nestLimit : Nat := 250

def sizeLimit : Nat := 10485760

namespace Kind

def message : Kind → String
  | .setEscape => "invalid escape sequence found in character class"
  | .setRange => "invalid character class range, the start must be <= the end"
  | .setBoundary => "invalid range boundary, must be a literal"
  | .setUnclosed => "unclosed character class"
  | .numberTooLarge => "decimal literal invalid"
  | .hexEmpty => "hexadecimal literal empty"
  | .hexInvalid => "hexadecimal literal is not a Unicode scalar value"
  | .hexDigit => "invalid hexadecimal digit"
  | .escapeUnfinished => "incomplete escape sequence, reached end of pattern prematurely"
  | .escapeUnknown => "unrecognized escape sequence"
  | .flagDangling => "dangling flag negation operator"
  | .flagTwice => "duplicate flag"
  | .flagNegatedTwice => "flag negation operator repeated"
  | .flagUnfinished => "expected flag but got end of regex"
  | .flagUnknown => "unrecognized flag"
  | .nameTwice => "duplicate capture group name"
  | .nameEmpty => "empty capture group name"
  | .nameInvalid => "invalid capture group character"
  | .nameUnfinished => "unclosed capture group name"
  | .groupUnclosed => "unclosed group"
  | .groupUnopened => "unopened group"
  | .countInvalid => "invalid repetition count range, the start must be <= the end"
  | .countMissing => "repetition quantifier expects a valid decimal"
  | .countUnclosed => "unclosed counted repetition"
  | .nothingToRepeat => "repetition operator missing expression"
  | .boundaryUnclosed =>
      "special word boundary assertion is either unclosed or contains an invalid character"
  | .boundaryUnknown =>
      "unrecognized special word boundary assertion, valid choices are: " ++
        "start, end, start-half or end-half"
  | .boundaryUnfinished =>
      "found either the beginning of a special word boundary or a bounded repetition on a \\b " ++
        "with an opening brace, but no closing brace"
  | .propertyInvalid => "invalid Unicode character class"
  | .backreference => "backreferences are not supported"
  | .lookAround => "look-around, including look-ahead and look-behind, is not supported"
  | .codePointsRefused => "Unicode not allowed here"
  | .notText => "pattern can match invalid UTF-8"
  | .propertyUnknown => "Unicode property not found"
  | .propertyValueUnknown => "Unicode property value not found"
  | .classUnavailable =>
      "Unicode-aware Perl class not found (make sure the unicode-perl feature is enabled)"
  | .foldingUnavailable =>
      "Unicode-aware case insensitivity matching is not available " ++
        "(make sure the unicode-case feature is enabled)"
  | .nestedTooDeep =>
      "exceed the maximum number of nested parentheses/brackets (" ++ toString nestLimit ++ ")"

end Kind
end Problem

inductive Problem where
  | mistake (kind : Problem.Kind) (span : Span) (other? : Option Span)
  | unsearchable
  | tooLarge
deriving DecidableEq

namespace Problem

def marks : Nat → List Span → List Char
  | _, [] => []
  | column, span :: spans =>
      List.replicate (span.first - column) ' ' ++ List.replicate span.width '^' ++
        marks (max column span.first + span.width) spans

def lineAndColumn (pattern : List Char) (position : Nat) : Nat × Nat :=
  let before := pattern.take position
  (before.count '\n', (before.reverse.takeWhile (· ≠ '\n')).length)

/-- The part of a span that says where it is in its line, if it does not leave the line. -/
def spanInLine? (pattern : List Char) (line : Nat) (span : Span) : Option Span :=
  let first := lineAndColumn pattern span.first
  let past := lineAndColumn pattern span.past
  if first.1 = line && past.1 = line then some ⟨first.2, past.2⟩ else none

/-- A line of the pattern behind a margin, and below it the marks of the spans in it. -/
def markedLine (margin : String) (line : List Char) (spans : List Span) : String :=
  let blank := String.ofList (List.replicate margin.length ' ')
  margin ++ String.ofList line ++ "\n" ++
    if spans.isEmpty then "" else blank ++ String.ofList (marks 0 spans) ++ "\n"

def numberedLines (pattern : List Char) (spans : List Span) : String :=
  let lines := Text.pieces '\n' pattern
  let width := (toString lines.length).length
  let shown := if lines.getLast? = some [] then lines.dropLast else lines
  let row (entry : List Char × Nat) : String :=
    let number := toString (entry.2 + 1)
    let margin := String.ofList (List.replicate (width - number.length) ' ') ++ number ++ ": "
    let isLast := entry.2 + 1 = lines.length
    let line := if entry.1.getLast? = some '\r' && !isLast then entry.1.dropLast else entry.1
    markedLine margin line (spans.filterMap (spanInLine? pattern entry.2))
  String.join (shown.zipIdx.map row)

def longSpanNotes (pattern : List Char) (spans : List Span) : String :=
  let note (span : Span) : String :=
    let first := lineAndColumn pattern span.first
    let past := lineAndColumn pattern span.past
    if first.1 = past.1 then ""
    else "on line " ++ toString (first.1 + 1) ++ " (column " ++ toString (first.2 + 1) ++
      ") through line " ++ toString (past.1 + 1) ++ " (column " ++ toString past.2 ++ ")\n"
  String.join (spans.map note)

def report (pattern : String) : Problem → String
  | .unsearchable => "error building NFA"
  | .tooLarge => "Compiled regex exceeds size limit of " ++ toString sizeLimit ++ " bytes."
  | .mistake kind span other? =>
      let chars := pattern.toList
      let spans := match other? with
        | none => [span]
        | some other => if other.first < span.first then [other, span] else [span, other]
      let divider := String.ofList (List.replicate 79 '~') ++ "\n"
      let body :=
        if chars.contains '\n' then
          divider ++ numberedLines chars spans ++ divider ++ longSpanNotes chars spans
        else markedLine "    " chars spans
      "regex parse error:\n" ++ body ++ "error: " ++ kind.message

end Problem
end CallScript.Regex
