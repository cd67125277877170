import CallScript.Node
import CallScript.Token

/-!
# Reading statements from tokens

A statement is a word, perhaps with arguments in parentheses. In statement position indentation is
passed over, and a token that begins no statement is dropped together with the rest of its line.
Everything from the first end of input on is ignored; a token list without one ends where it ends.

One error is possible: an argument list that is not closed. Reading reports it with the items that
stand before it.

* `Item.take_shorter`: every item takes at least one token, which is why reading ends.
-/

namespace CallScript

/-- What was expected, and the line of the token found in its place. -/
structure ParseError where
  expected : String
  line : Nat
deriving DecidableEq

def ParseError.unclosed (line : Nat) : ParseError := ⟨"')' after arguments", line⟩

/-- One quote is taken off each end of a text, where there is one. -/
def stripQuotes (text : List Char) : List Char :=
  let inner := if text.head? = some '"' then text.tail else text
  if inner.getLast? = some '"' then inner.dropLast else inner

namespace Token

def isArgument (token : Token) : Bool := token.kind = .quoted || token.kind = .word

def isNewline (token : Token) : Bool := token.kind = .newline

def argument (token : Token) : Node :=
  if token.kind = .quoted then .text (String.ofList (stripQuotes token.text.toList))
  else .word token.text

end Token

/-- What is read in statement position. -/
inductive Item where
  | call (name : String) (args : List Node)
  /-- A token that begins no statement, dropped with the rest of its line. -/
  | dropped (line : Nat)
  | layout
deriving DecidableEq

namespace Item

def statement? : Item → Option Node
  | .call name args => some (.call name args)
  | _ => none

def droppedLine? : Item → Option Nat
  | .dropped line => some line
  | _ => none

/-- The call that a word begins, given the tokens behind the word. Where the tokens run out inside
an argument list, the error is at `endLine`. -/
def takeCall (endLine : Nat) (name : String) :
    List Token → Except ParseError (Item × List Token)
  | [] => .ok (.call name [], [])
  | paren :: inner =>
      if paren.kind = .openParen then
        match inner.dropWhile Token.isArgument with
        | [] => .error (.unclosed endLine)
        | next :: after =>
            if next.kind = .closeParen then
              .ok (.call name ((inner.takeWhile Token.isArgument).map Token.argument), after)
            else .error (.unclosed next.line)
      else .ok (.call name [], paren :: inner)

/-- The item at the front of the tokens, and the tokens behind it and its line breaks. -/
def take (endLine : Nat) (first : Token) (rest : List Token) :
    Except ParseError (Item × List Token) := do
  let (item, after) ← match first.kind with
    | .word => takeCall endLine first.text rest
    | .indent | .dedent => .ok (.layout, rest)
    | _ => .ok (.dropped first.line, (first :: rest).dropWhile fun token => !token.isNewline)
  return (item, after.dropWhile Token.isNewline)

theorem takeCall_length_le {endLine : Nat} {name : String} {rest after : List Token} {item : Item}
    (h : takeCall endLine name rest = .ok (item, after)) : after.length ≤ rest.length := by
  cases rest with
  | nil => simp_all [takeCall]
  | cons paren inner =>
      have args := (List.dropWhile_sublist (l := inner) Token.isArgument).length_le
      simp only [takeCall] at h
      split at h
      · split at h
        · cases h
        · next behind =>
            rw [behind] at args
            split at h
            · cases h
              simp only [List.length_cons] at args ⊢
              omega
            · cases h
      · cases h
        exact Nat.le_refl _

theorem take_shorter {endLine : Nat} {first : Token} {rest after : List Token} {item : Item}
    (h : take endLine first rest = .ok (item, after)) : after.length < (first :: rest).length := by
  have newlines (tokens : List Token) :
      (tokens.dropWhile Token.isNewline).length ≤ tokens.length :=
    (List.dropWhile_sublist _).length_le
  -- where no line break stands in front, the first token itself is dropped
  have dropped : (((first :: rest).dropWhile fun token => !token.isNewline).dropWhile
      Token.isNewline).length < (first :: rest).length := by
    rcases Bool.eq_false_or_eq_true first.isNewline with line | line
    · simpa [List.dropWhile_cons, line] using Nat.lt_succ_of_le (newlines rest)
    · have skipped := (List.dropWhile_sublist (l := rest) fun token => !token.isNewline).length_le
      have := newlines (rest.dropWhile fun token => !token.isNewline)
      simp only [List.dropWhile_cons, line, Bool.not_false, ↓reduceIte, List.length_cons]
      omega
  have kept := newlines rest
  unfold take at h
  split at h
  · cases called : takeCall endLine first.text rest with
    | error e => simp [called, bind, Except.bind] at h
    | ok found =>
        obtain ⟨call, behind⟩ := found
        have := takeCall_length_le called
        have := newlines behind
        simp only [called, bind, Except.bind, pure, Except.pure, Except.ok.injEq,
          Prod.mk.injEq] at h
        obtain ⟨-, rfl⟩ := h
        simp only [List.length_cons]
        omega
  all_goals
    simp only [bind, Except.bind, pure, Except.pure, Except.ok.injEq, Prod.mk.injEq] at h
    obtain ⟨-, rfl⟩ := h
    first
      | exact dropped
      | simpa using Nat.lt_succ_of_le kept

end Item

/-- The items of a token list, up to its end or the first error. -/
structure Reading where
  items : List Item
  error? : Option ParseError
deriving DecidableEq

namespace Reading

def ofBody (endLine : Nat) : List Token → Reading
  | [] => ⟨[], none⟩
  | first :: rest =>
      match _h : Item.take endLine first rest with
      | .error e => ⟨[], some e⟩
      | .ok (item, after) =>
          let behind := ofBody endLine after
          ⟨item :: behind.items, behind.error?⟩
termination_by tokens => tokens.length
decreasing_by exact Item.take_shorter (by assumption)

theorem ofBody_nil (endLine : Nat) : ofBody endLine [] = ⟨[], none⟩ := by
  rw [ofBody]

theorem ofBody_of_take_eq_error {endLine : Nat} {first : Token} {rest : List Token}
    {e : ParseError} (h : Item.take endLine first rest = .error e) :
    ofBody endLine (first :: rest) = ⟨[], some e⟩ := by
  rw [ofBody]
  split <;> simp_all

theorem ofBody_of_take_eq_ok {endLine : Nat} {first : Token} {rest after : List Token}
    {item : Item} (h : Item.take endLine first rest = .ok (item, after)) :
    ofBody endLine (first :: rest) =
      ⟨item :: (ofBody endLine after).items, (ofBody endLine after).error?⟩ := by
  rw [ofBody]
  split <;> simp_all

def body (tokens : List Token) : List Token :=
  tokens.takeWhile fun token => token.kind ≠ .endOfInput

/-- The line at which the tokens end: that of the end of input, else that of the last token. -/
def endLine (tokens : List Token) : Nat :=
  match tokens.find? fun token => token.kind = .endOfInput with
  | some token => token.line
  | none => (tokens.getLast?.map Token.line).getD 1

def ofTokens (tokens : List Token) : Reading := ofBody (endLine tokens) (body tokens)

def statements (reading : Reading) : List Node := reading.items.filterMap Item.statement?

def droppedLines (reading : Reading) : List Nat := reading.items.filterMap Item.droppedLine?

def program (reading : Reading) : Except ParseError Node :=
  match reading.error? with
  | some e => .error e
  | none => .ok (.program reading.statements)

end Reading

def Node.parse (tokens : List Token) : Except ParseError Node := (Reading.ofTokens tokens).program

end CallScript
