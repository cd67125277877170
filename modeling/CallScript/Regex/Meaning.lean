import CallScript.Regex.Form
import CallScript.Regex.Reader

/-!
# The meaning of search patterns

A pattern as written becomes a plain form, under flags that parts of the pattern can change. A
pattern speaks of code points, or, where that flag is off, of bytes; bytes outside of ASCII are
refused, because what they match need not be text. Of the properties of code points, those that need
tables of all scripts are not available: classes like that of the digits, and the folding of cases.
-/

namespace CallScript.Regex

structure Flags where
  ignoreCase : Bool
  multiLine : Bool
  dotAll : Bool
  codePoints : Bool
  linePairs : Bool
deriving DecidableEq

namespace Flags

def initial : Flags := ⟨false, false, false, true, false⟩

def set (flags : Flags) (flag : Flag) (on : Bool) : Flags :=
  match flag with
  | .ignoreCase => { flags with ignoreCase := on }
  | .multiLine => { flags with multiLine := on }
  | .dotAll => { flags with dotAll := on }
  | .codePoints => { flags with codePoints := on }
  | .linePairs => { flags with linePairs := on }
  | .swapGreed | .verbose => flags

def apply (flags : Flags) (change : FlagChange) : Flags :=
  change.foldl (fun flags (flag, on) => flags.set flag on) flags

end Flags

def refuse {α : Type} (kind : Problem.Kind) (span : Span) : Except Problem α :=
  .error (.mistake kind span none)

/-! ## Sets of characters

A set is given by the code points, or the bytes, that it holds. -/

/-- The members of a set, and whether it is known to be closed under case. -/
structure Members where
  codes : CodeSet
  isFolded : Bool

namespace Members

def empty : Members := ⟨[], true⟩

def ofCodes (codes : CodeSet) : Members := ⟨codes, codes.isEmpty⟩

def union (first second : Members) : Members :=
  ⟨first.codes.union second.codes, first.isFolded && second.isFolded⟩

end Members

def Flags.lastCode (flags : Flags) : Nat := if flags.codePoints then 0x10ffff else 0xff

def Flags.fold (flags : Flags) (span : Span) (members : Members) : Except Problem Members :=
  if !flags.ignoreCase || members.isFolded then .ok members
  else if flags.codePoints then refuse .foldingUnavailable span
  else .ok ⟨members.codes.foldCase, true⟩

/-- Takes the complement of a negated set, which must not hold bytes outside of ASCII. -/
def Flags.close (flags : Flags) (span : Span) (negated : Bool) (members : Members) :
    Except Problem Members :=
  let closed : Members :=
    if negated then
      ⟨members.codes.complement flags.lastCode, members.isFolded || members.codes.isEmpty⟩
    else members
  if !flags.codePoints && !closed.codes.isBelow 128 then refuse .notText span else .ok closed

def letterCode (flags : Flags) (letter : Letter) : Except Problem Nat :=
  if flags.codePoints || letter.char.toNat < 128 then .ok letter.char.toNat
  else refuse (if letter.asByte then .notText else .codePointsRefused) letter.span

def plainName (name : String) : String :=
  let front := (name.toList.take 2).map Char.toLower
  let rest := if front = ['i', 's'] then name.toList.drop 2 else name.toList
  let letters := (rest.filter fun c => c ≠ ' ' && c ≠ '_' && c ≠ '-' && c.toNat < 128).map
    Char.toLower
  if front = ['i', 's'] && letters = ['c'] then "isc" else String.ofList letters

/-- Why no property can be found: the short names that could be categories are looked for as
values. -/
def propertyProblem (name : String) : Problem.Kind :=
  if ["cf", "sc", "lc"].contains (plainName name) then .propertyValueUnknown else .propertyUnknown

def Shorthand.codes : Shorthand → CodeSet
  | .digit => [(48, 57)]
  | .space => [(9, 13), (32, 32)]
  | .word => [(48, 57), (65, 90), (95, 95), (97, 122)]

def SetOperation.apply (kind : SetOperation) (last : Nat) (left right : Members) : Members :=
  let codes :=
    match kind with
    | .intersection => left.codes.intersection right.codes
    | .difference => left.codes.difference last right.codes
    | .symmetricDifference =>
        (left.codes.union right.codes).difference last (left.codes.intersection right.codes)
  ⟨codes, codes.isEmpty || (left.isFolded && right.isFolded)⟩

mutual

def SetItem.members (flags : Flags) : SetItem → Except Problem Members
  | .single letter => do
      let code ← letterCode flags letter
      return .ofCodes [(code, code)]
  | .range low high => do
      let low ← letterCode flags low
      let high ← letterCode flags high
      return .ofCodes [(low, high)]
  | .named span name negated => do
      let ranges := (namedClasses.lookup name).getD []
      flags.close span negated (← flags.fold span (.ofCodes ranges))
  | .shorthand span kind negated =>
      if flags.codePoints then refuse .classUnavailable span
      else flags.close span negated (.ofCodes kind.codes)
  | .property span name =>
      refuse (if flags.codePoints then propertyProblem name else .codePointsRefused) span
  | .bracket span negated set => do
      flags.close span negated (← flags.fold span (← set.members flags))

/-- The sets on both sides of an operation are closed under case, the right one first. -/
def CharSet.members (flags : Flags) : CharSet → Except Problem Members
  | .items _ items => membersOfAny flags items
  | .operation kind left right => do
      let first ← left.members flags
      let second ← right.members flags
      let second ← flags.fold right.span second
      let first ← flags.fold left.span first
      return kind.apply flags.lastCode first second

def membersOfAny (flags : Flags) : List SetItem → Except Problem Members
  | [] => .ok .empty
  | item :: items => do
      let first ← item.members flags
      let others ← membersOfAny flags items
      return first.union others

end

/-! ## Expressions -/

def Letter.form (flags : Flags) (letter : Letter) : Except Problem Form :=
  let code := letter.char.toNat
  if flags.codePoints then
    if flags.ignoreCase then refuse .foldingUnavailable letter.span else .ok (.text [letter.char])
  else if letter.asByte && 128 ≤ code then refuse .notText letter.span
  else if flags.ignoreCase then .ok (.ofSet (CodeSet.foldCase [(code, code)]))
  else .ok (.text [letter.char])

def dotForm (flags : Flags) (span : Span) : Except Problem Form :=
  let except (codes : CodeSet) : Form := .ofSet (codes.complement flags.lastCode)
  if !flags.codePoints then refuse .notText span
  else if flags.dotAll then .ok (except [])
  else if flags.linePairs then .ok (except [(10, 10), (13, 13)])
  else .ok (except [(10, 10)])

def Assertion.look (flags : Flags) : Assertion → Look
  | .lineStart =>
      if !flags.multiLine then .textStart else if flags.linePairs then .pairStart else .lineStart
  | .lineEnd =>
      if !flags.multiLine then .textEnd else if flags.linePairs then .pairEnd else .lineEnd
  | .textStart => .textStart
  | .textEnd => .textEnd
  | .wordBoundary => if flags.codePoints then .anyScript else .wordBoundary
  | .notWordBoundary => if flags.codePoints then .anyScript else .notWordBoundary
  | .wordStart => if flags.codePoints then .anyScript else .wordStart
  | .wordEnd => if flags.codePoints then .anyScript else .wordEnd
  | .wordStartHalf => if flags.codePoints then .anyScript else .wordStartHalf
  | .wordEndHalf => if flags.codePoints then .anyScript else .wordEndHalf

mutual

def Expression.form : Expression → Flags → Except Problem (Form × Flags)
  | .letter letter, flags => return (← letter.form flags, flags)
  | .dot span, flags => return (← dotForm flags span, flags)
  | .assertion kind, flags => return (.look (kind.look flags), flags)
  | .set item, flags => do
      let members ← item.members flags
      return (.ofSet members.codes, flags)
  | .flags change, flags => return (.empty, flags.apply change)
  | .group _ captures change body, flags => do
      let (inner, _) ← body.form (flags.apply change)
      return (if captures then .capture inner else inner, flags)
  | .repeated _ least most? body, flags => do
      let (inner, flags) ← body.form flags
      return (.ofRepetition least most? inner, flags)
  | .sequence _ parts, flags => do
      let (forms, flags) ← formsOf parts flags
      return (.ofSequence forms, flags)
  | .choice _ options, flags => do
      let (forms, flags) ← formsOf options flags
      return (.ofChoice forms, flags)

def formsOf : List Expression → Flags → Except Problem (List Form × Flags)
  | [], flags => return ([], flags)
  | expression :: expressions, flags => do
      let (first, flags) ← expression.form flags
      let (others, flags) ← formsOf expressions flags
      return (first :: others, flags)

end

end CallScript.Regex
