import CallScript.Regex.CodeSet
import CallScript.Regex.Look

/-!
# Plain forms of search patterns

A pattern whose flags have been applied has a plain form, which only knows texts, sets of characters
and conditions, and how they are put together. Forms are built by functions that leave out what
makes no difference: what repeats nothing, one part in a sequence, texts that follow each other, and
options that are sets or begin in the same way.
-/

namespace CallScript.Regex

inductive Form where
  | empty
  | text (chars : List Char)
  | set (codes : CodeSet)
  | look (condition : Look)
  | repeated (least : Nat) (most? : Option Nat) (body : Form)
  | capture (body : Form)
  | sequence (parts : List Form)
  | choice (options : List Form)
deriving BEq

namespace Form

/-- The form of a set; one character is a text. -/
def ofSet (codes : CodeSet) : Form :=
  match codes.only? with
  | some code => .text [Char.ofNat code]
  | none => .set codes

mutual

def isAlwaysEmpty : Form → Bool
  | .empty | .look _ => true
  | .text chars => chars.isEmpty
  | .set _ => false
  | .repeated _ most? body => most?.any (· = 0) || (most?.isSome && body.isAlwaysEmpty)
  | .capture body => body.isAlwaysEmpty
  | .sequence parts | .choice parts => areAlwaysEmpty parts

def areAlwaysEmpty : List Form → Bool
  | [] => true
  | form :: forms => form.isAlwaysEmpty && areAlwaysEmpty forms

end

mutual

def isNeverEmpty : Form → Bool
  | .empty | .look _ => false
  | .text chars => !chars.isEmpty
  | .set codes => !codes.isEmpty
  | .repeated least _ body => least ≠ 0 && body.isNeverEmpty
  | .capture body => body.isNeverEmpty
  | .sequence parts => canMatchAll parts && isSomeNeverEmpty parts
  | .choice options => areNeverEmpty options

def areNeverEmpty : List Form → Bool
  | [] => true
  | form :: forms => form.isNeverEmpty && areNeverEmpty forms

def isSomeNeverEmpty : List Form → Bool
  | [] => false
  | form :: forms => form.isNeverEmpty || isSomeNeverEmpty forms

/-- Whether a form has no part that matches nothing at all where it needs one. -/
def canMatch : Form → Bool
  | .empty | .look _ | .text _ => true
  | .set codes => !codes.isEmpty
  | .repeated _ _ body | .capture body => body.canMatch
  | .sequence parts | .choice parts => canMatchAll parts

def canMatchAll : List Form → Bool
  | [] => true
  | form :: forms => form.canMatch && canMatchAll forms

end

/-! ## Building forms -/

def ofRepetition (least : Nat) (most? : Option Nat) (body : Form) : Form :=
  let isEmpty := body.isAlwaysEmpty
  let least := if isEmpty then min least 1 else least
  let most? := if isEmpty then some (min (most?.getD 1) 1) else most?
  if most? = some 0 then .empty
  else if least = 1 && most? = some 1 then body
  else .repeated least most? body

/-- Puts a form in front of a sequence, where two texts become one. -/
def before (form : Form) (parts : List Form) : List Form :=
  match form, parts with
  | .empty, _ => parts
  | .text first, .text second :: others => .text (first ++ second) :: others
  | .sequence inner, _ =>
      match inner.getLast?, parts with
      | some (.text first), .text second :: others =>
          inner.dropLast ++ .text (first ++ second) :: others
      | _, _ => inner ++ parts
  | _, _ => form :: parts

def ofSequence (parts : List Form) : Form :=
  match parts.foldr before [] with
  | [] => .empty
  | [only] => only
  | parts => .sequence parts

def code? : Form → Option Nat
  | .text [c] => some c.toNat
  | _ => none

def codes? : Form → Option CodeSet
  | .set codes => some codes
  | _ => none

def parts? : Form → Option (List Form)
  | .sequence parts => some parts
  | _ => none

def commonFront : List Form → List Form → List Form
  | first :: others, second :: rest =>
      if first == second then first :: commonFront others rest else []
  | _, _ => []

/-- What options that are all of them sequences have in common in front, and what is left of
each. -/
def splitFront? (options : List Form) : Option (List Form × List (List Form)) := do
  match ← options.mapM parts? with
  | [] => none
  | first :: others =>
      let front := others.foldl commonFront first
      guard (!front.isEmpty)
      return (front, (first :: others).map (List.drop front.length))

/-- Any of several forms of which none is a choice. The number bounds how often something can be
taken out in front. -/
def ofOptions : Nat → List Form → Form
  | _, [] => .set []
  | _, [only] => only
  | depth, options =>
      match options.mapM code?, options.mapM codes? with
      | some codes, _ => ofSet (.ofRanges (codes.map fun code => (code, code)))
      | _, some sets => ofSet (sets.foldl CodeSet.union [])
      | none, none =>
          match depth, splitFront? options with
          | depth + 1, some (front, rests) =>
              let others := (rests.map ofSequence).flatMap fun option =>
                match option with
                | .choice options => options
                | option => [option]
              ofSequence (front ++ [ofOptions depth others])
          | _, _ => .choice options

def ofChoice (options : List Form) : Form :=
  let flat := options.flatMap fun option =>
    match option with
    | .choice options => options
    | option => [option]
  let lengths := flat.map fun option => ((option.parts?).getD []).length
  ofOptions (lengths.foldl max 0 + 1) flat

/-! ## Where a form can match -/

mutual

def startsWith (condition : Look) : Form → Bool
  | .look other => other = condition
  | .repeated least _ body => least ≠ 0 && body.startsWith condition
  | .capture body => body.startsWith condition
  | .sequence parts => firstStartsWith condition parts
  | .choice options => allStartWith condition options
  | _ => false

def firstStartsWith (condition : Look) : List Form → Bool
  | [] => false
  | part :: parts =>
      part.startsWith condition || (part.isAlwaysEmpty && firstStartsWith condition parts)

def allStartWith (condition : Look) : List Form → Bool
  | [] => true
  | option :: options => option.startsWith condition && allStartWith condition options

end

mutual

def reversed : Form → Form
  | .text chars => .text chars.reverse
  | .repeated least most? body => .repeated least most? body.reversed
  | .capture body => .capture body.reversed
  | .sequence parts => .sequence (reversedAll parts).reverse
  | .choice options => .choice (reversedAll options)
  | form => form

def reversedAll : List Form → List Form
  | [] => []
  | form :: forms => form.reversed :: reversedAll forms

end

mutual

def looksFor (condition : Look) : Form → Bool
  | .look other => other = condition
  | .repeated _ _ body | .capture body => body.looksFor condition
  | .sequence parts | .choice parts => anyLooksFor condition parts
  | _ => false

def anyLooksFor (condition : Look) : List Form → Bool
  | [] => false
  | form :: forms => form.looksFor condition || anyLooksFor condition forms

end

end Form
end CallScript.Regex
