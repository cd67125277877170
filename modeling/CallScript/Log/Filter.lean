import CallScript.Log
import CallScript.Regex.Size
import CallScript.Text.Pieces
import CallScript.Text.WhiteSpace

/-!
# Log filters

A filter is a list of directives, each of which lets records through up to a level, and possibly a
pattern that their messages have to match. The directive with the longest origin that begins the
origin of the record decides, and a record that no directive speaks of is left out.

The text of a filter has directives between commas and, behind a slash, the pattern. What cannot be
understood is left out with a warning.
-/

namespace CallScript.Log

/-- Lets records through up to a rank of levels, either all of them or those whose origin begins
with a text. -/
structure Directive where
  origin? : Option String
  rank : Nat
deriving DecidableEq

namespace Directive

def length (directive : Directive) : Nat := (directive.origin?.map String.utf8ByteSize).getD 0

def covers (directive : Directive) (origin : String) : Bool :=
  directive.origin?.all fun front => front.toList.isPrefixOf origin.toList

def rankOf? (name : String) : Option Nat :=
  [("OFF", 0), ("ERROR", 1), ("WARN", 2), ("INFO", 3), ("DEBUG", 4), ("TRACE", 5)].lookup
    (String.ofList (name.toList.map Char.toUpper))

/-- The directive that one part of a filter's text spells: a level for all origins, an origin, or an
origin with a level. Otherwise the text that makes no sense. -/
def ofText (text : List Char) : Except String Directive :=
  match Text.pieces '=' text with
  | [single] =>
      let name := String.ofList single
      match rankOf? name with
      | some rank => .ok ⟨none, rank⟩
      | none => .ok ⟨some name, Level.trace.rank⟩
  | [origin, level] =>
      let name := String.ofList (Text.trim level)
      if name.isEmpty then .ok ⟨some (String.ofList origin), Level.trace.rank⟩
      else
        match rankOf? name with
        | some rank => .ok ⟨some (String.ofList origin), rank⟩
        | none => .error name
  | _ => .error (String.ofList text)

/-- Adds a directive. One with the same origin gives up its place to it. -/
def insert (directive : Directive) : List Directive → List Directive
  | [] => [directive]
  | other :: others =>
      if other.origin? = directive.origin? then directive :: others
      else other :: insert directive others

/-- The longer of two directives; of two of the same length the later one. -/
def longer (a b : Directive) : Directive := if b.length < a.length then a else b

end Directive

structure Filter where
  directives : List Directive
  pattern? : Option Regex.Matcher

/-- What could not be understood in the text of a filter. -/
inductive Warning where
  | directive (text : String)
  | slashes (text : String)
  | pattern (text : String) (problem : Regex.Problem)
deriving DecidableEq

def Warning.message : Warning → String
  | .directive text => "invalid logging spec '" ++ text ++ "'"
  | .slashes text => "invalid logging spec '" ++ text ++ "' (too many '/'s)"
  | .pattern text problem => "invalid regex filter - " ++ problem.report text

namespace Filter

def readDirectives (text : List Char) : List Directive × List Warning :=
  let parts := ((Text.pieces ',' text).map Text.trim).filter fun part => !part.isEmpty
  parts.foldl
    (fun (directives, warnings) part =>
      match Directive.ofText part with
      | .ok directive => (directive.insert directives, warnings)
      | .error text => (directives, warnings ++ [.directive text]))
    ([], [])

def readPattern (text : String) : Option Regex.Matcher × List Warning :=
  match Regex.Matcher.ofText text with
  | .ok matcher => (some matcher, [])
  | .error problem => (none, [.pattern text problem])

/-- The filter that a text spells, with what could not be understood. A text without directives lets
errors through. -/
def ofText (text : String) : Filter × List Warning :=
  let complete (directives : List Directive) : List Directive :=
    if directives.isEmpty then [⟨none, Level.error.rank⟩] else directives
  match Text.pieces '/' text.toList with
  | [] => (⟨complete [], none⟩, [])
  | [front] =>
      let (directives, warnings) := readDirectives front
      (⟨complete directives, none⟩, warnings)
  | [front, back] =>
      let (directives, warnings) := readDirectives front
      let (pattern?, others) := readPattern (String.ofList back)
      (⟨complete directives, pattern?⟩, warnings ++ others)
  | _ => (⟨complete [], none⟩, [.slashes text])

def admits (filter : Filter) (record : Record) : Bool :=
  match filter.directives.filter (·.covers record.origin) with
  | [] => false
  | directive :: others =>
      record.level.rank ≤ (others.foldl Directive.longer directive).rank &&
        filter.pattern?.all (·.matchesIn record.message)

end Filter
end CallScript.Log
