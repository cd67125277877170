import CallScript.Shell.CharClass

/-!
# Patterns of the shell

A pattern matches whole texts. A star stands for any text, a question mark for any character and
brackets for one of several characters; a quoted character stands for itself.
-/

namespace CallScript.Shell

/-- What brackets can hold: a range of characters or a class of them. -/
inductive Pattern.Choice where
  | range (first last : Char)
  | named (holds : Char → Bool)

inductive Pattern.Item where
  | many
  | one
  | set (negated : Bool) (choices : List Pattern.Choice)
  | literal (c : Char)

abbrev Pattern := List Pattern.Item

namespace Pattern

/-- A class at the front of characters, between brackets and colons, and what is behind it. -/
def splitClass (chars : List (Char × Bool)) : Option ((Char → Bool) × List (Char × Bool)) :=
  charClasses.findSome? fun (name, holds) =>
    let spelled := ("[:" ++ name ++ ":]").toList.map fun c => (c, false)
    if spelled.isPrefixOf chars then some (holds, chars.drop spelled.length) else none

def splitChoices :
    Nat → Bool → List (Char × Bool) → Option (List Choice × List (Char × Bool))
  | 0, _, _ => none
  | _, _, [] => none
  | fuel + 1, first, (c, quoted) :: rest => do
      if c = ']' && !quoted && !first then return ([], rest)
      else
        match splitClass ((c, quoted) :: rest), rest with
        | some (holds, behind), _ =>
            let (choices, behind) ← splitChoices fuel false behind
            return (.named holds :: choices, behind)
        | none, ('-', false) :: (d, quotedEnd) :: behind =>
            if d = ']' && !quotedEnd then
              let (choices, behind) ← splitChoices fuel false rest
              return (.range c c :: choices, behind)
            else
              let (choices, behind) ← splitChoices fuel false behind
              return (.range c d :: choices, behind)
        | none, _ =>
            let (choices, behind) ← splitChoices fuel false rest
            return (.range c c :: choices, behind)

def ofSettled : Nat → List (Char × Bool) → Pattern
  | 0, _ => []
  | _, [] => []
  | fuel + 1, (c, quoted) :: rest =>
      if quoted then .literal c :: ofSettled fuel rest
      else if c = '*' then .many :: ofSettled fuel rest
      else if c = '?' then .one :: ofSettled fuel rest
      else if c = '[' then
        let (negated, inner) : Bool × List (Char × Bool) :=
          match rest with
          | ('!', false) :: inner => (true, inner)
          | _ => (false, rest)
        match splitChoices (inner.length + 1) true inner with
        | some (choices, behind) => .set negated choices :: ofSettled fuel behind
        | none => .literal c :: ofSettled fuel rest
      else .literal c :: ofSettled fuel rest

def meaningful : List Char := "!*?[=~:/-]\\".toList

/-- Characters as they are written with backslashes: one in front of every quoted character that
would mean something. -/
def written (chars : List (Char × Bool)) : List Char :=
  chars.flatMap fun (c, quoted) => if quoted && meaningful.contains c then ['\\', c] else [c]

def quotedChars : List Char → List (Char × Bool)
  | '\\' :: c :: rest => (c, true) :: quotedChars rest
  | c :: rest => (c, false) :: quotedChars rest
  | [] => []

/-- Lets the backslashes that are not quoted themselves quote what is written behind them. -/
def settle (chars : List (Char × Bool)) : List (Char × Bool) := quotedChars (written chars)

def ofChars (chars : List (Char × Bool)) : Pattern :=
  let settled := settle chars
  ofSettled (settled.length + 1) settled

def ofText (text : String) : Pattern := ofSettled (text.length + 1) (quotedChars text.toList)

def Choice.accepts : Choice → Char → Bool
  | .range first last, c => first ≤ c && c ≤ last
  | .named holds, c => holds c

def Item.accepts : Item → Char → Bool
  | .many, _ => true
  | .one, _ => true
  | .set negated choices, c => (choices.any fun choice => choice.accepts c) != negated
  | .literal d, c => c == d

def fits : Pattern → List Char → Bool
  | [], text => text.isEmpty
  | .many :: items, [] => fits items []
  | .many :: items, c :: text => fits items (c :: text) || fits (.many :: items) text
  | _ :: _, [] => false
  | item :: items, c :: text => item.accepts c && fits items text
termination_by pattern text => pattern.length + text.length

def cutShortFront (pattern : Pattern) (text : List Char) : List Char :=
  match (List.range (text.length + 1)).find? fun n => pattern.fits (text.take n) with
  | some n => text.drop n
  | none => text

def cutLongFront (pattern : Pattern) (text : List Char) : List Char :=
  match (List.range (text.length + 1)).reverse.find? fun n => pattern.fits (text.take n) with
  | some n => text.drop n
  | none => text

def cutShortBack (pattern : Pattern) (text : List Char) : List Char :=
  match (List.range (text.length + 1)).reverse.find? fun n => pattern.fits (text.drop n) with
  | some n => text.take n
  | none => text

def cutLongBack (pattern : Pattern) (text : List Char) : List Char :=
  match (List.range (text.length + 1)).find? fun n => pattern.fits (text.drop n) with
  | some n => text.take n
  | none => text

end Pattern
end CallScript.Shell
