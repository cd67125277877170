/-!
# Dividing text into fields

A field is what stands between separators. Separators that are blanks only count once, however many
of them follow each other; every other separator ends a field, together with the blanks around it.
-/

namespace CallScript.Shell

def standardSeparators : List Char := [' ', '\t', '\n']

/-- What stands between arguments that are divided from each other. No text holds it. -/
def argumentMark : List Char := ['\x00']

def isBlankSeparator (separators : List Char) (c : Char) : Bool :=
  argumentMark.contains c || (standardSeparators.contains c && separators.contains c)

def isMarkSeparator (separators : List Char) (c : Char) : Bool :=
  separators.contains c && !standardSeparators.contains c

/-- What a part of a word expands to. -/
inductive Piece where
  | text (text : List Char) (quoted : Bool)
  | value (text : List Char)
  | boundary

def Piece.chars : Piece → List (Char × Bool)
  | .text content quoted => content.map fun c => (c, quoted)
  | .value content => content.map fun c => (c, false)
  | .boundary => [(' ', true)]

/-- A piece as part of a value: text that is not quoted is divided. -/
def Piece.asValue : Piece → Piece
  | .text content false => .value content
  | piece => piece

def Piece.merge : List Piece → List Piece
  | .text first false :: rest =>
      match Piece.merge rest with
      | .text second false :: others => .text (first ++ second) false :: others
      | others => .text first false :: others
  | piece :: rest => piece :: Piece.merge rest
  | [] => []

def Piece.joined (pieces : List Piece) : List Char := (pieces.flatMap Piece.chars).map (·.1)

/-- The fields under way: those that are finished, the characters of the last one if it has begun,
and whether a blank has ended the one before. -/
structure Fields where
  finished : List (List (Char × Bool))
  open? : Option (List (Char × Bool))
  behindBlank : Bool

namespace Fields

def start : Fields := ⟨[], none, false⟩

def close (fields : Fields) : Fields := ⟨fields.finished ++ fields.open?.toList, none, false⟩

def add (fields : Fields) (chars : List (Char × Bool)) : Fields :=
  { fields with open? := some (fields.open?.getD [] ++ chars) }

def addDividing (separators : List Char) (fields : Fields) (c : Char) : Fields :=
  if isBlankSeparator separators c then
    if fields.open?.isSome then { fields.close with behindBlank := true } else fields
  else if isMarkSeparator separators c then
    if fields.open?.isSome || fields.behindBlank then fields.close
    else (fields.add []).close
  else fields.add [(c, false)]

def addPiece (separators : List Char) (fields : Fields) : Piece → Fields
  | .boundary => fields.close
  | .text text quoted =>
      if text.isEmpty && !quoted then fields else fields.add (text.map fun c => (c, quoted))
  | .value text => text.foldl (addDividing separators) { fields with behindBlank := false }

end Fields

def fieldsOf (separators : List Char) (pieces : List Piece) : List (List (Char × Bool)) :=
  (pieces.foldl (Fields.addPiece separators) Fields.start).close.finished

/-! ## Lines -/

/-- The first field of a line and what is behind its separator. In a line, a quoted character is no
separator. -/
def splitField (separators : List Char) (line : List (Char × Bool)) :
    List Char × List (Char × Bool) :=
  let isBlank (c : Char × Bool) : Bool := !c.2 && isBlankSeparator separators c.1
  let isMark (c : Char × Bool) : Bool := !c.2 && isMarkSeparator separators c.1
  let line := line.dropWhile isBlank
  let field := line.takeWhile fun c => !isBlank c && !isMark c
  let rest := (line.drop field.length).dropWhile isBlank
  let rest := if rest.head?.any isMark then rest.tail.dropWhile isBlank else rest
  (field.map (·.1), rest)

/-- The fields of a line for a number of names. The last name gets all that is left, without the
separator if that is only one field. -/
def lineFields (separators : List Char) : Nat → List (Char × Bool) → List (List Char)
  | 0, _ => []
  | 1, line =>
      let (field, rest) := splitField separators line
      if rest.isEmpty then [field]
      else
        let isBlank (c : Char × Bool) : Bool := !c.2 && isBlankSeparator separators c.1
        [(((line.dropWhile isBlank).reverse.dropWhile isBlank).reverse).map (·.1)]
  | count + 1, line =>
      let (field, rest) := splitField separators line
      field :: lineFields separators count rest

end CallScript.Shell
