import CallScript.Regex.Problem

/-!
# Search patterns as written

The structure of a pattern, with the spans to which a mistake in its meaning can point.
-/

namespace CallScript.Regex

inductive Flag where
  | ignoreCase
  | multiLine
  | dotAll
  | swapGreed
  | codePoints
  | linePairs
  | verbose
deriving DecidableEq

/-- Flags in the order in which they are written, each with whether it is switched on. -/
abbrev FlagChange := List (Flag × Bool)

/-- A character that stands for itself. -/
structure Letter where
  span : Span
  char : Char
  asByte : Bool
deriving DecidableEq

/-- The classes that a letter behind a backslash stands for. -/
inductive Shorthand where
  | digit
  | space
  | word
deriving DecidableEq

inductive SetOperation where
  | intersection
  | difference
  | symmetricDifference
deriving DecidableEq

mutual

/-- A member of a set of characters. -/
inductive SetItem where
  | single (letter : Letter)
  | range (low high : Letter)
  | named (span : Span) (name : String) (negated : Bool)
  | shorthand (span : Span) (kind : Shorthand) (negated : Bool)
  | property (span : Span) (name : String)
  | bracket (span : Span) (negated : Bool) (set : CharSet)

/-- What stands between brackets. -/
inductive CharSet where
  | items (place : Nat) (items : List SetItem)
  | operation (kind : SetOperation) (left right : CharSet)

end

inductive Assertion where
  | lineStart
  | lineEnd
  | textStart
  | textEnd
  | wordBoundary
  | notWordBoundary
  | wordStart
  | wordEnd
  | wordStartHalf
  | wordEndHalf
deriving DecidableEq

inductive Expression where
  | letter (letter : Letter)
  | dot (span : Span)
  | assertion (kind : Assertion)
  | set (item : SetItem)
  | flags (change : FlagChange)
  | group (span : Span) (captures : Bool) (change : FlagChange) (body : Expression)
  | repeated (span : Span) (least : Nat) (most? : Option Nat) (body : Expression)
  | sequence (span : Span) (parts : List Expression)
  | choice (span : Span) (options : List Expression)

/-! ## Classes of ASCII characters -/

def namedClasses : List (String × List (Nat × Nat)) :=
  [("alnum", [(48, 57), (65, 90), (97, 122)]), ("alpha", [(65, 90), (97, 122)]),
    ("ascii", [(0, 127)]), ("blank", [(9, 9), (32, 32)]), ("cntrl", [(0, 31), (127, 127)]),
    ("digit", [(48, 57)]), ("graph", [(33, 126)]), ("lower", [(97, 122)]), ("print", [(32, 126)]),
    ("punct", [(33, 47), (58, 64), (91, 96), (123, 126)]), ("space", [(9, 13), (32, 32)]),
    ("upper", [(65, 90)]), ("word", [(48, 57), (65, 90), (95, 95), (97, 122)]),
    ("xdigit", [(48, 57), (65, 70), (97, 102)])]

end CallScript.Regex
