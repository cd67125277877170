import CallScript.Regex.Expression

/-!
# How deep patterns are nested

Groups, sets, repetitions, and sequences and choices of more than one part can lie within one
another only up to a depth.
-/

namespace CallScript.Regex

def SetItem.span : SetItem → Span
  | .single letter => letter.span
  | .range low high => ⟨low.span.first, high.span.past⟩
  | .named span _ _ | .shorthand span _ _ | .property span _ | .bracket span _ _ => span

def CharSet.span : CharSet → Span
  | .items place members =>
      match members.head?, members.getLast? with
      | some first, some last => ⟨first.span.first, last.span.past⟩
      | _, _ => .place place
  | .operation _ left right => ⟨left.span.first, right.span.past⟩

def descend (room : Nat) (span : Span) (inside : Nat → Option Span) : Option Span :=
  match room with
  | 0 => some span
  | room + 1 => inside room

mutual

/-- The first part of a member of a set that is too deep when there is room for so many levels. -/
def SetItem.tooDeep? : SetItem → Nat → Option Span
  | .bracket span _ set, room => descend room span set.tooDeep?
  | _, _ => none

def CharSet.tooDeep? : CharSet → Nat → Option Span
  | .items _ [], _ => none
  | .items _ [only], room => only.tooDeep? room
  | .items place (item :: others), room =>
      descend room (CharSet.items place (item :: others)).span fun room =>
        item.tooDeep? room <|> firstItemTooDeep? others room
  | .operation kind left right, room =>
      descend room (CharSet.operation kind left right).span fun room =>
        left.tooDeep? room <|> right.tooDeep? room

def firstItemTooDeep? : List SetItem → Nat → Option Span
  | [], _ => none
  | item :: items, room => item.tooDeep? room <|> firstItemTooDeep? items room

end

mutual

/-- The first part of an expression that is too deep when there is room for so many levels. -/
def Expression.tooDeep? : Expression → Nat → Option Span
  | .letter _, _ | .dot _, _ | .assertion _, _ | .flags _, _ => none
  | .set item, room => item.tooDeep? room
  | .group span _ _ body, room => descend room span body.tooDeep?
  | .repeated span _ _ body, room => descend room span body.tooDeep?
  | .sequence span parts, room => partsTooDeep? span parts room
  | .choice span options, room => partsTooDeep? span options room

/-- Several parts are one level, a single one is none. -/
def partsTooDeep? : Span → List Expression → Nat → Option Span
  | _, [], _ => none
  | _, [only], room => only.tooDeep? room
  | span, part :: parts, room =>
      descend room span fun room => part.tooDeep? room <|> firstTooDeep? parts room

def firstTooDeep? : List Expression → Nat → Option Span
  | [], _ => none
  | part :: parts, room => part.tooDeep? room <|> firstTooDeep? parts room

end

end CallScript.Regex
