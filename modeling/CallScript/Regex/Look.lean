/-!
# Conditions on positions

Conditions that a pattern can put on a position in a text, which depend on the characters before and
behind it.
-/

namespace CallScript.Regex

/-- A condition on a position, which no character is used up for. -/
inductive Look where
  | textStart
  | textEnd
  | lineStart
  | lineEnd
  | pairStart
  | pairEnd
  | wordBoundary
  | notWordBoundary
  | wordStart
  | wordEnd
  | wordStartHalf
  | wordEndHalf
  | anyScript
deriving DecidableEq

def isWordChar (c : Char) : Bool := c.isAlphanum || c = '_'

/-- Whether a condition holds between the characters before and behind a position. -/
def Look.holds (look : Look) (before? behind? : Option Char) : Bool :=
  let wordBefore := before?.any isWordChar
  let wordBehind := behind?.any isWordChar
  match look with
  | .textStart => before?.isNone
  | .textEnd => behind?.isNone
  | .lineStart => before?.all (· = '\n')
  | .lineEnd => behind?.all (· = '\n')
  | .pairStart =>
      before?.all fun c => c = '\n' || (c = '\r' && behind? ≠ some '\n')
  | .pairEnd =>
      behind?.all fun c => c = '\r' || (c = '\n' && before? ≠ some '\r')
  | .wordBoundary => wordBefore != wordBehind
  | .notWordBoundary => wordBefore == wordBehind
  | .wordStart => !wordBefore && wordBehind
  | .wordEnd => wordBefore && !wordBehind
  | .wordStartHalf => !wordBefore
  | .wordEndHalf => !wordBehind
  | .anyScript => false

end CallScript.Regex
