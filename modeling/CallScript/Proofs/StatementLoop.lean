import CallScript.Proofs.LongestPrefix
import CallScript.Proofs.Round
import CallScript.Proofs.TokenLists

/-!
# Reading statements by position

The statements of a token list are read by a loop that holds a position in the list. Nothing but the
look at the token there keeps it from running past the end, and no single part of the loop is sure
to move it: the part that drops a line takes nothing where it stands at a line break, and only the
part that skips line breaks goes on from there.

* `StatementLoop.Moves.takes`: what one step does to the position and to the calls.
* `StatementLoop.position_lt_of_round`: every round moves on.
* `StatementLoop.runs_ofBody`: the rounds of the loop are the items of the token list.
* `StatementLoop.loop_bounded`: the loop ends, within bounds that the tokens give.
* `StatementLoop.comesBack_upToEnd`: what stands behind the first end of input is never looked at.
-/

namespace CallScript
namespace StatementLoop

/-! ## The loop -/

section Loop

variable (tokens : List Token)

/-- The kind of the token at a position. Where no token stands the input has ended. -/
def kindAt (position : Nat) : Token.Kind :=
  (tokens[position]?.map Token.kind).getD .endOfInput

def isAtEnd (position : Nat) : Bool := kindAt tokens position = .endOfInput

/-- The line of the token at a position, behind all of them that of the last. -/
def lineAt (position : Nat) : Nat :=
  ((tokens[position]?.or tokens.getLast?).map Token.line).getD 1

/-- The token at a position, and the position behind it. At the end no token is taken. -/
def advance (position : Nat) : Option Token × Nat :=
  if isAtEnd tokens position then (none, position) else (tokens[position]?, position + 1)

def check (kind : Token.Kind) (position : Nat) : Bool :=
  !isAtEnd tokens position && kindAt tokens position = kind

def takeKind (kind : Token.Kind) (position : Nat) : Option Token × Nat :=
  if check tokens kind position then advance tokens position else (none, position)

def takeArgument (position : Nat) : Option Node × Nat :=
  match takeKind tokens .quoted position with
  | (some token, behind) => (some token.argument, behind)
  | (none, same) =>
      match takeKind tokens .word same with
      | (some token, behind) => (some token.argument, behind)
      | (none, same) => (none, same)

inductive Activity where
  /-- At the head of the loop. -/
  | between
  | called (name : String)
  | arguments (name : String) (args : List Node)
  /-- Where the closing parenthesis must stand. -/
  | closing (name : String) (args : List Node)
  | dropping
  | skipping
  | done (error? : Option ParseError)
deriving DecidableEq

structure State where
  position : Nat
  statements : List Node
  activity : Activity

def start : State := ⟨0, [], .between⟩

/-- The call is complete; line breaks behind it are skipped. -/
def State.call (s : State) (name : String) (args : List Node) (position : Nat) : State :=
  ⟨position, s.statements ++ [.call name args], .skipping⟩

def step? (s : State) : Option State :=
  match s.activity with
  | .between =>
      if isAtEnd tokens s.position then some { s with activity := .done none }
      else
        match takeKind tokens .word s.position with
        | (some word, position) => some { s with position, activity := .called word.text }
        | (none, position) =>
            match kindAt tokens position with
            | .indent | .dedent =>
                some { s with position := (advance tokens position).2, activity := .skipping }
            | _ => some { s with position, activity := .dropping }
  | .called name =>
      match takeKind tokens .openParen s.position with
      | (some _, position) => some { s with position, activity := .arguments name [] }
      | (none, position) => some (s.call name [] position)
  | .arguments name args =>
      if check tokens .closeParen s.position then
        some { s with activity := .closing name args }
      else
        match takeArgument tokens s.position with
        | (some arg, position) =>
            some { s with position, activity := .arguments name (args ++ [arg]) }
        | (none, position) => some { s with position, activity := .closing name args }
  | .closing name args =>
      match takeKind tokens .closeParen s.position with
      | (some _, position) => some (s.call name args position)
      | (none, position) =>
          some { s with activity := .done (some (.unclosed (lineAt tokens position))) }
  | .dropping =>
      if !isAtEnd tokens s.position && !check tokens .newline s.position then
        some { s with position := (advance tokens s.position).2 }
      else some { s with activity := .skipping }
  | .skipping =>
      match takeKind tokens .newline s.position with
      | (some _, position) => some { s with position }
      | (none, position) => some { s with position, activity := .between }
  | .done _ => none

def loop : Loop State := ⟨step? tokens, fun s => s.activity = .between⟩

end Loop

def State.result? (s : State) : Option (Except ParseError Node) :=
  match s.activity with
  | .done none => some (.ok (.program s.statements))
  | .done (some e) => some (.error e)
  | _ => none

variable {tokens : List Token}

/-! ## Looking at a position -/

theorem isAtEnd_eq_false_iff {position : Nat} : isAtEnd tokens position = false ↔
    ∃ token, tokens[position]? = some token ∧ token.kind ≠ .endOfInput := by
  rw [isAtEnd, kindAt, decide_eq_false_iff_not]
  cases tokens[position]? <;> simp

theorem advance_of_not_end {position : Nat} {token : Token} (here : tokens[position]? = some token)
    (more : token.kind ≠ .endOfInput) : advance tokens position = (some token, position + 1) := by
  rw [advance, isAtEnd_eq_false_iff.mpr ⟨token, here, more⟩, here]
  rfl

theorem takeKind_cases (tokens : List Token) (kind : Token.Kind) (position : Nat) :
    (∃ token, tokens[position]? = some token ∧ token.kind ≠ .endOfInput ∧ token.kind = kind ∧
      takeKind tokens kind position = (some token, position + 1)) ∨
    (check tokens kind position = false ∧ takeKind tokens kind position = (none, position)) := by
  cases found : check tokens kind position with
  | false => exact .inr ⟨rfl, by simp [takeKind, found]⟩
  | true =>
      have noEnd : isAtEnd tokens position = false := by simp_all [check]
      obtain ⟨token, here, more⟩ := isAtEnd_eq_false_iff.mp noEnd
      have same : token.kind = kind := by simpa [check, noEnd, kindAt, here] using found
      refine .inl ⟨token, here, more, same, ?_⟩
      rw [takeKind, found, if_pos rfl, advance_of_not_end here more]

theorem takeArgument_cases (tokens : List Token) (position : Nat) :
    (∃ token, tokens[position]? = some token ∧ token.kind ≠ .endOfInput ∧
      token.isArgument = true ∧
      takeArgument tokens position = (some token.argument, position + 1)) ∨
    takeArgument tokens position = (none, position) := by
  rcases takeKind_cases tokens .quoted position with ⟨token, here, more, kind, taken⟩ | ⟨-, quoted⟩
  · exact .inl ⟨token, here, more, by simp [Token.isArgument, kind], by simp [takeArgument, taken]⟩
  rcases takeKind_cases tokens .word position with ⟨token, here, more, kind, taken⟩ | ⟨-, word⟩
  · exact .inl ⟨token, here, more, by simp [Token.isArgument, kind],
      by simp [takeArgument, quoted, taken]⟩
  · exact .inr (by simp [takeArgument, quoted, word])

/-! ## One step -/

/-- The calls that are in the list or will be, if nothing is missing. -/
def State.calls (s : State) : Nat :=
  s.statements.length +
    match s.activity with
    | .called _ | .arguments _ _ | .closing _ _ => 1
    | _ => 0

/-- A step stays at its position, or takes the token there, which is not the end of input. It begins
a call only with a word. -/
inductive Takes (tokens : List Token) (s t : State) : Prop
  | nothing (same : t.position = s.position) (calls : t.calls ≤ s.calls)
  | token {token : Token} (here : tokens[s.position]? = some token)
      (more : token.kind ≠ .endOfInput) (behind : t.position = s.position + 1)
      (calls : t.calls ≤ s.calls + if token.kind = .word then 1 else 0)

theorem moves_iff {s t : State} : (loop tokens).Moves s t ↔ step? tokens s = some t := Iff.rfl

theorem Moves.takes {s t : State} (move : (loop tokens).Moves s t) : Takes tokens s t := by
  obtain ⟨position, statements, activity⟩ := s
  rw [moves_iff] at move
  -- in each activity the step takes the token that it looks at, or it stays where it is
  cases activity with
  | between =>
      simp only [step?] at move
      split at move
      · cases move
        exact .nothing rfl (by simp [State.calls])
      · next noEnd =>
          rcases takeKind_cases tokens .word position with
            ⟨token, here, more, kind, taken⟩ | ⟨-, none⟩
          · rw [taken] at move
            cases move
            exact .token here more rfl (by simp [State.calls, kind])
          · obtain ⟨token, here, more⟩ := isAtEnd_eq_false_iff.mp (by simpa using noEnd)
            rw [none] at move
            simp only [advance_of_not_end here more] at move
            -- a change of indentation is taken, and all else is left where it stands to be dropped
            split at move
            all_goals cases move
            · exact .token here more rfl (by simp [State.calls])
            · exact .token here more rfl (by simp [State.calls])
            · exact .nothing rfl (by simp [State.calls])
  | called name =>
      simp only [step?] at move
      rcases takeKind_cases tokens .openParen position with
        ⟨token, here, more, kind, taken⟩ | ⟨-, none⟩
      · rw [taken] at move
        cases move
        exact .token here more rfl (by simp [State.calls])
      · rw [none] at move
        cases move
        exact .nothing rfl (by simp [State.calls, State.call])
  | arguments name args =>
      simp only [step?] at move
      split at move
      · cases move
        exact .nothing rfl (by simp [State.calls])
      · rcases takeArgument_cases tokens position with ⟨token, here, more, -, taken⟩ | none
        · rw [taken] at move
          cases move
          exact .token here more rfl (by simp [State.calls])
        · rw [none] at move
          cases move
          exact .nothing rfl (by simp [State.calls])
  | closing name args =>
      simp only [step?] at move
      rcases takeKind_cases tokens .closeParen position with
        ⟨token, here, more, kind, taken⟩ | ⟨-, none⟩
      · rw [taken] at move
        cases move
        exact .token here more rfl (by simp [State.calls, State.call])
      · rw [none] at move
        cases move
        exact .nothing rfl (by simp [State.calls])
  | dropping =>
      simp only [step?] at move
      split at move
      · next inLine =>
          have noEnd : isAtEnd tokens position = false := by simp_all
          obtain ⟨token, here, more⟩ := isAtEnd_eq_false_iff.mp noEnd
          rw [advance_of_not_end here more] at move
          cases move
          exact .token here more rfl (by simp [State.calls])
      · cases move
        exact .nothing rfl (by simp [State.calls])
  | skipping =>
      simp only [step?] at move
      rcases takeKind_cases tokens .newline position with
        ⟨token, here, more, kind, taken⟩ | ⟨-, none⟩
      · rw [taken] at move
        cases move
        exact .token here more rfl (by simp [State.calls])
      · rw [none] at move
        cases move
        exact .nothing rfl (by simp [State.calls])
  | done error? => cases move

/-! ## What every state keeps -/

theorem getElem?_length_body (tokens : List Token) :
    tokens[(Reading.body tokens).length]? = tokens.find? (·.kind = .endOfInput) := by
  induction tokens with
  | nil => rfl
  | cons token tokens ih =>
      by_cases ending : token.kind = .endOfInput
      · simp [Reading.body, ending]
      · simpa [Reading.body, ending] using ih

theorem isAtEnd_body (tokens : List Token) :
    isAtEnd tokens (Reading.body tokens).length = true := by
  rw [isAtEnd, kindAt, getElem?_length_body, decide_eq_true_eq]
  cases found : tokens.find? (·.kind = .endOfInput) with
  | none => rfl
  | some ending => simpa using List.find?_some found

theorem lineAt_body (tokens : List Token) :
    lineAt tokens (Reading.body tokens).length = Reading.endLine tokens := by
  rw [lineAt, getElem?_length_body, Reading.endLine]
  cases tokens.find? (·.kind = .endOfInput) <;> rfl

theorem position_lt_of_more {position : Nat} (within : position ≤ (Reading.body tokens).length)
    (noEnd : isAtEnd tokens position = false) : position < (Reading.body tokens).length := by
  refine lt_of_le_of_ne within ?_
  rintro rfl
  simp [isAtEnd_body] at noEnd

structure InBounds (tokens : List Token) (s : State) : Prop where
  position : s.position ≤ (Reading.body tokens).length
  calls : s.calls ≤ (tokens.take s.position).countP fun token => token.kind = .word

theorem InBounds.moves {s t : State} (h : InBounds tokens s) (move : (loop tokens).Moves s t) :
    InBounds tokens t := by
  cases Moves.takes move with
  | nothing same calls =>
      refine ⟨same ▸ h.position, ?_⟩
      rw [same]
      exact calls.trans h.calls
  | @token token here more behind calls =>
      refine ⟨?_, ?_⟩
      · rw [behind]
        exact position_lt_of_more h.position (isAtEnd_eq_false_iff.mpr ⟨token, here, more⟩)
      · rw [behind, List.take_add_one, here, Option.toList_some, List.countP_append,
          List.countP_singleton]
        have before := h.calls
        simp only [decide_eq_true_eq]
        omega

theorem inBounds {s : State} (reached : (loop tokens).Reaches start s) : InBounds tokens s :=
  reached.keeps (fun _ _ h move => h.moves move) ⟨Nat.zero_le _, Nat.zero_le _⟩

/-! ## Rounds -/

theorem Returns.position_le {s last : State} (h : (loop tokens).Returns s last) :
    s.position ≤ last.position := by
  induction h with
  | arrived head => exact Nat.le_refl _
  | move inside move _ ih =>
      cases Moves.takes move with
      | nothing same calls => omega
      | token here more behind calls => omega

theorem position_lt_of_skipping {position : Nat} {statements : List Node} {last : State}
    (h : (loop tokens).Returns ⟨position, statements, .skipping⟩ last)
    (newline : check tokens .newline position = true) : position < last.position := by
  cases h with
  | arrived head => cases head
  | @move _ t _ inside move behind =>
      rw [moves_iff] at move
      rcases takeKind_cases tokens .newline position with ⟨token, here, more, kind, taken⟩ | ⟨no, -⟩
      · simp only [step?, taken] at move
        cases move
        exact Returns.position_le behind
      · simp [newline] at no

theorem position_lt_of_dropping {position : Nat} {statements : List Node} {last : State}
    (h : (loop tokens).Returns ⟨position, statements, .dropping⟩ last)
    (noEnd : isAtEnd tokens position = false) : position < last.position := by
  cases h with
  | arrived head => cases head
  | @move _ t _ inside move behind =>
      rw [moves_iff] at move
      obtain ⟨token, here, more⟩ := isAtEnd_eq_false_iff.mp noEnd
      simp only [step?, noEnd, advance_of_not_end here more] at move
      -- at a line break nothing is dropped
      cases newline : check tokens .newline position with
      | true =>
          simp only [newline] at move
          cases move
          exact position_lt_of_skipping behind newline
      | false =>
          simp only [newline] at move
          cases move
          exact Returns.position_le behind

theorem position_lt_of_round {s next : State} (round : (loop tokens).Round s next) :
    s.position < next.position := by
  obtain ⟨position, statements, activity⟩ := s
  obtain ⟨head, t, move, behind⟩ := round
  obtain rfl : activity = .between := by simpa [loop] using head
  rw [moves_iff] at move
  simp only [step?] at move
  split at move
  · -- a loop that is done does not come back
    cases move
    cases behind with
    | arrived head => cases head
    | move inside move => cases move
  · next noEnd =>
      have noEnd : isAtEnd tokens position = false := by simpa using noEnd
      rcases takeKind_cases tokens .word position with
        ⟨token, here, more, kind, taken⟩ | ⟨-, none⟩
      · rw [taken] at move
        cases move
        exact Returns.position_le behind
      · obtain ⟨token, here, more⟩ := isAtEnd_eq_false_iff.mp noEnd
        rw [none] at move
        simp only [advance_of_not_end here more] at move
        split at move
        · cases move
          exact Returns.position_le behind
        · cases move
          exact Returns.position_le behind
        · cases move
          exact position_lt_of_dropping behind noEnd

/-! ## Rounds are items -/

variable {before rest : List Token}

theorem front_of_body {first : Token} (split : Reading.body tokens = before ++ first :: rest) :
    tokens[before.length]? = some first ∧ first.kind ≠ .endOfInput := by
  obtain ⟨behind, whole⟩ : Reading.body tokens <+: tokens := List.takeWhile_prefix _
  constructor
  · rw [← whole, split]
    simp
  · have member : first ∈ Reading.body tokens := by simp [split]
    simpa using List.mem_takeWhile_imp member

theorem takeKind_front {first : Token} (split : Reading.body tokens = before ++ first :: rest)
    (kind : Token.Kind) : takeKind tokens kind before.length =
      if first.kind = kind then (some first, before.length + 1) else (none, before.length) := by
  obtain ⟨here, more⟩ := front_of_body split
  have noEnd := isAtEnd_eq_false_iff.mpr ⟨first, here, more⟩
  rw [takeKind, check, noEnd, kindAt, here, advance_of_not_end here more]
  simp

theorem takeKind_end (split : Reading.body tokens = before) (kind : Token.Kind) :
    takeKind tokens kind before.length = (none, before.length) := by
  rw [takeKind, check, ← split, isAtEnd_body]
  rfl

/-- The loop comes back to its head, with these statements and in front of these tokens. -/
def Arrives (tokens : List Token) (s : State) (statements : List Node) (left : List Token) :
    Prop :=
  ∃ before, Reading.body tokens = before ++ left ∧
    (loop tokens).Returns s ⟨before.length, statements, .between⟩

theorem Arrives.move {s t : State} {statements : List Node} {left : List Token}
    (inside : s.activity ≠ .between) (move : step? tokens s = some t)
    (behind : Arrives tokens t statements left) : Arrives tokens s statements left := by
  obtain ⟨before, split, returns⟩ := behind
  exact ⟨before, split, .move (by simpa [loop] using inside) move returns⟩

theorem body_concat {first : Token} (split : Reading.body tokens = before ++ first :: rest) :
    Reading.body tokens = (before ++ [first]) ++ rest := by
  simpa using split

theorem arrives_skipping (split : Reading.body tokens = before ++ rest) (statements : List Node) :
    Arrives tokens ⟨before.length, statements, .skipping⟩ statements
      (rest.dropWhile Token.isNewline) := by
  induction rest generalizing before with
  | nil =>
      have taken := takeKind_end (by simpa using split) .newline
      refine .move (by simp) (t := ⟨before.length, statements, .between⟩) (by simp [step?, taken])
        ?_
      exact ⟨before, by simpa using split, .arrived rfl⟩
  | cons first rest ih =>
      have taken := takeKind_front split .newline
      by_cases newline : first.kind = .newline
      · rw [if_pos newline] at taken
        have behind := ih (body_concat split)
        rw [List.length_append, List.length_singleton] at behind
        rw [List.dropWhile_cons_of_pos (by simpa [Token.isNewline] using newline)]
        exact behind.move (by simp) (by simp [step?, taken])
      · rw [if_neg newline] at taken
        rw [List.dropWhile_cons_of_neg (by simpa [Token.isNewline] using newline)]
        refine .move (by simp) (t := ⟨before.length, statements, .between⟩)
          (by simp [step?, taken]) ?_
        exact ⟨before, split, .arrived rfl⟩

theorem arrives_dropping (split : Reading.body tokens = before ++ rest) (statements : List Node) :
    Arrives tokens ⟨before.length, statements, .dropping⟩ statements
      ((rest.dropWhile fun token => !token.isNewline).dropWhile Token.isNewline) := by
  induction rest generalizing before with
  | nil =>
      have ends : isAtEnd tokens before.length = true := by
        simpa [split] using isAtEnd_body tokens
      exact (arrives_skipping split statements).move (by simp) (by simp [step?, ends])
  | cons first rest ih =>
      obtain ⟨here, more⟩ := front_of_body split
      have noEnd := isAtEnd_eq_false_iff.mpr ⟨first, here, more⟩
      have found : check tokens .newline before.length = first.isNewline := by
        simp [check, noEnd, kindAt, here, Token.isNewline]
      -- a line break is not taken here: it ends the line and is left to be skipped
      cases newline : first.isNewline with
      | true =>
          rw [List.dropWhile_cons_of_neg (by simp [newline])]
          exact (arrives_skipping split statements).move (by simp)
            (by simp [step?, found, newline])
      | false =>
          have behind := ih (body_concat split)
          rw [List.length_append, List.length_singleton] at behind
          rw [List.dropWhile_cons_of_pos (by simp [newline])]
          exact behind.move (by simp)
            (by simp [step?, noEnd, found, newline, advance_of_not_end here more])

/-! ### Calls -/

/-- How a call ends, given what stands behind its arguments. -/
def closeCall (endLine : Nat) (name : String) (args : List Node) :
    List Token → Except ParseError (Item × List Token)
  | [] => .error (.unclosed endLine)
  | next :: after =>
      if next.kind = .closeParen then .ok (.call name args, after)
      else .error (.unclosed next.line)

theorem takeCall_open {paren : Token} (opened : paren.kind = .openParen) (endLine : Nat)
    (name : String) (inner : List Token) :
    Item.takeCall endLine name (paren :: inner) =
      closeCall endLine name ((inner.takeWhile Token.isArgument).map Token.argument)
        (inner.dropWhile Token.isArgument) := by
  simp only [Item.takeCall, opened, if_true]
  cases inner.dropWhile Token.isArgument <;> rfl

/-- The round comes out as the item that is found: with its statement, in front of what stands
behind the item and its line breaks, or with an error. -/
def ComesTo (tokens : List Token) (s : State) (statements : List Node) :
    Except ParseError (Item × List Token) → Prop
  | .ok (item, after) =>
      Arrives tokens s (statements ++ item.statement?.toList) (after.dropWhile Token.isNewline)
  | .error e => ∃ last, (loop tokens).Reaches s last ∧ last.result? = some (.error e)

theorem ComesTo.move {s t : State} {statements : List Node}
    {found : Except ParseError (Item × List Token)} (inside : s.activity ≠ .between)
    (move : step? tokens s = some t) (behind : ComesTo tokens t statements found) :
    ComesTo tokens s statements found := by
  cases found with
  | ok => exact Arrives.move inside move behind
  | error e =>
      obtain ⟨last, reached, failed⟩ := behind
      exact ⟨last, .head move reached, failed⟩

theorem comesTo_call (split : Reading.body tokens = before ++ rest) (statements : List Node)
    (name : String) (args : List Node) :
    ComesTo tokens ⟨before.length, statements ++ [.call name args], .skipping⟩ statements
      (.ok (.call name args, rest)) :=
  arrives_skipping split _

theorem comesTo_closing (split : Reading.body tokens = before ++ rest) (statements : List Node)
    (name : String) (args : List Node) :
    ComesTo tokens ⟨before.length, statements, .closing name args⟩ statements
      (closeCall (Reading.endLine tokens) name args rest) := by
  cases rest with
  | nil =>
      rw [List.append_nil] at split
      have taken := takeKind_end split .closeParen
      refine ⟨⟨before.length, statements, .done (some (.unclosed (Reading.endLine tokens)))⟩,
        .single (moves_iff.mpr ?_), rfl⟩
      simp only [step?, taken]
      rw [← split, lineAt_body]
  | cons next after =>
      have taken := takeKind_front split .closeParen
      rw [closeCall]
      split
      · next closed =>
          rw [if_pos closed] at taken
          have behind := comesTo_call (body_concat split) statements name args
          rw [List.length_append, List.length_singleton] at behind
          exact behind.move (by simp) (by simp [step?, taken, State.call])
      · next other =>
          rw [if_neg other] at taken
          obtain ⟨here, -⟩ := front_of_body split
          refine ⟨⟨before.length, statements, .done (some (.unclosed next.line))⟩,
            .single (moves_iff.mpr ?_), rfl⟩
          simp [step?, taken, lineAt, here]

theorem comesTo_arguments (split : Reading.body tokens = before ++ rest) (statements : List Node)
    (name : String) (args : List Node) :
    ComesTo tokens ⟨before.length, statements, .arguments name args⟩ statements
      (closeCall (Reading.endLine tokens) name
        (args ++ (rest.takeWhile Token.isArgument).map Token.argument)
        (rest.dropWhile Token.isArgument)) := by
  -- on the tokens left, for any arguments read before
  induction rest generalizing before args with
  | nil =>
      have taken := takeKind_end (by simpa using split)
      refine .move (by simp) (t := ⟨before.length, statements, .closing name args⟩) ?_
        (by simpa using comesTo_closing split statements name args)
      simp [step?, takeArgument, taken]
  | cons first rest ih =>
      have taken := takeKind_front split
      obtain ⟨here, more⟩ := front_of_body split
      have noEnd := isAtEnd_eq_false_iff.mpr ⟨first, here, more⟩
      have closes : check tokens .closeParen before.length = decide (first.kind = .closeParen) := by
        simp [check, noEnd, kindAt, here]
      cases argument : first.isArgument with
      | true =>
          have behind := ih (body_concat split) (args ++ [first.argument])
          rw [List.length_append, List.length_singleton] at behind
          rw [List.takeWhile_cons_of_pos argument, List.dropWhile_cons_of_pos argument,
            List.map_cons, List.append_cons]
          refine behind.move (by simp) ?_
          rcases (by simpa [Token.isArgument] using argument : first.kind = .quoted ∨
            first.kind = .word) with kind | kind <;>
            simp [step?, closes, takeArgument, taken, kind]
      | false =>
          obtain ⟨noText, noWord⟩ : first.kind ≠ .quoted ∧ first.kind ≠ .word := by
            simpa [Token.isArgument] using argument
          rw [List.takeWhile_cons_of_neg (by simp [argument]),
            List.dropWhile_cons_of_neg (by simp [argument]), List.map_nil, List.append_nil]
          refine (comesTo_closing split statements name args).move (by simp) ?_
          simp [step?, takeArgument, taken, noText, noWord]

theorem comesTo_called (split : Reading.body tokens = before ++ rest) (statements : List Node)
    (name : String) :
    ComesTo tokens ⟨before.length, statements, .called name⟩ statements
      (Item.takeCall (Reading.endLine tokens) name rest) := by
  cases rest with
  | nil =>
      have taken := takeKind_end (by simpa using split) .openParen
      exact (comesTo_call split statements name []).move (by simp)
        (by simp [step?, taken, State.call])
  | cons paren inner =>
      have taken := takeKind_front split .openParen
      by_cases opened : paren.kind = .openParen
      · rw [if_pos opened] at taken
        have behind := comesTo_arguments (body_concat split) statements name []
        rw [List.length_append, List.length_singleton, List.nil_append] at behind
        rw [takeCall_open opened]
        exact behind.move (by simp) (by simp [step?, taken])
      · rw [if_neg opened] at taken
        simp only [Item.takeCall, if_neg opened]
        exact (comesTo_call split statements name []).move (by simp)
          (by simp [step?, taken, State.call])

/-! ### All rounds -/

theorem begins_item {first : Token} (split : Reading.body tokens = before ++ first :: rest)
    (statements : List Node) :
    ∃ t found, step? tokens ⟨before.length, statements, .between⟩ = some t ∧
      ComesTo tokens t statements found ∧ Item.take (Reading.endLine tokens) first rest =
        found.map fun (item, after) => (item, after.dropWhile Token.isNewline) := by
  obtain ⟨here, more⟩ := front_of_body split
  have noEnd := isAtEnd_eq_false_iff.mpr ⟨first, here, more⟩
  have taken := takeKind_front split .word
  have moved := advance_of_not_end here more
  -- a word begins a call, a change of indentation is passed over, and all else drops its line
  by_cases isWord : first.kind = .word
  · have behind := comesTo_called (body_concat split) statements first.text
    rw [List.length_append, List.length_singleton] at behind
    refine ⟨_, _, by simp [step?, noEnd, taken, isWord], behind, ?_⟩
    simp only [Item.take, isWord]
    cases Item.takeCall (Reading.endLine tokens) first.text rest <;> rfl
  · rw [if_neg isWord] at taken
    by_cases layout : first.kind = .indent ∨ first.kind = .dedent
    · have behind := arrives_skipping (body_concat split) statements
      rw [List.length_append, List.length_singleton] at behind
      refine ⟨⟨before.length + 1, statements, .skipping⟩, .ok (.layout, rest), ?_, ?_, ?_⟩
      · rcases layout with kind | kind <;>
          simp [step?, noEnd, taken, kindAt, here, kind, moved]
      · simpa [ComesTo, Item.statement?] using behind
      · rcases layout with kind | kind <;>
          simp [Item.take, kind, bind, Except.bind, pure, Except.pure, Except.map]
    · rw [not_or] at layout
      refine ⟨⟨before.length, statements, .dropping⟩,
        .ok (.dropped first.line, (first :: rest).dropWhile fun token => !token.isNewline), ?_, ?_,
        ?_⟩
      · simp [step?, noEnd, taken, kindAt, here]
        split <;> simp_all
      · simpa [ComesTo, Item.statement?] using arrives_dropping split statements
      · rw [Item.take]
        split <;> simp_all [bind, Except.bind, pure, Except.pure, Except.map]

/-- What is returned after statements that were read before. -/
def outcome (statements : List Node) (reading : Reading) : Except ParseError Node :=
  match reading.error? with
  | some e => .error e
  | none => .ok (.program (statements ++ reading.statements))

theorem runs_ofBody {tokens before rest : List Token}
    (split : Reading.body tokens = before ++ rest) (statements : List Node) :
    ∃ head last,
      (loop tokens).Rounds (Reading.ofBody (Reading.endLine tokens) rest).items.length
        ⟨before.length, statements, .between⟩ head ∧
      (loop tokens).Reaches head last ∧
      last.result? = some (outcome statements (Reading.ofBody (Reading.endLine tokens) rest)) := by
  -- the item at the front is one round, and behind it fewer tokens are left
  cases rest with
  | nil =>
      have ends : isAtEnd tokens before.length = true := by
        simpa [split] using isAtEnd_body tokens
      rw [Reading.ofBody_nil]
      refine ⟨_, ⟨before.length, statements, .done none⟩, .none _, .single ?_, ?_⟩
      · simp [moves_iff, step?, ends]
      · simp [State.result?, outcome, Reading.statements]
  | cons first rest =>
      obtain ⟨t, found, move, comes, taken⟩ := begins_item split statements
      cases found with
      | error e =>
          obtain ⟨last, reached, failed⟩ := comes
          rw [Reading.ofBody_of_take_eq_error taken]
          exact ⟨_, last, .none _, .head move reached, failed⟩
      | ok result =>
          obtain ⟨item, after⟩ := result
          obtain ⟨before', split', returns⟩ := comes
          have shorter := Item.take_shorter taken
          obtain ⟨head, last, rounds, reached, ended⟩ :=
            runs_ofBody split' (statements ++ item.statement?.toList)
          rw [Reading.ofBody_of_take_eq_ok taken]
          refine ⟨head, last, .round ⟨rfl, t, move, returns⟩ rounds, reached, ?_⟩
          rw [ended, outcome, outcome]
          cases statement : item.statement? <;>
            simp [Reading.statements, statement]
termination_by rest.length

/-! ## The bounds -/

/-- The loop over a token list that holds a given body, up to the first end of input. -/
structure Bounded (tokens : List Token) : Prop where
  /-- No state passes the first end of input, nor the end of the list. -/
  within {s : State} (reached : (loop tokens).Reaches start s) :
    s.position ≤ (Reading.body tokens).length
  /-- Every round that does not end with an error moves on. -/
  advances {s next : State} (round : (loop tokens).Round s next) : s.position < next.position
  /-- There are at most as many rounds as tokens in the body, one that ends with an error
  included. -/
  rounds {n : Nat} {s : State} (rounds : (loop tokens).Rounds n start s) :
    n ≤ (Reading.body tokens).length ∧
      (isAtEnd tokens s.position = false → n < (Reading.body tokens).length)
  /-- The loop ends, after one round for each item, with what parsing returns. -/
  ends : ∃ head last, (loop tokens).Rounds (Reading.ofTokens tokens).items.length start head ∧
    (loop tokens).Reaches head last ∧ last.result? = some (Node.parse tokens)
  /-- Every statement begins with a word of its own. -/
  statements {program : Node} (parsed : Node.parse tokens = .ok program) :
    program.statements.length ≤ (Reading.body tokens).countP fun token => token.kind = .word

theorem runs_body (tokens : List Token) :
    ∃ head last, (loop tokens).Rounds (Reading.ofTokens tokens).items.length start head ∧
      (loop tokens).Reaches head last ∧ last.result? = some (Node.parse tokens) :=
  runs_ofBody (List.nil_append _).symm []

theorem statements_of_result? {s : State} {program : Node}
    (ended : s.result? = some (.ok program)) : program.statements = s.statements := by
  unfold State.result? at ended
  split at ended
  all_goals cases ended
  rfl

theorem statements_le {s : State} (reached : (loop tokens).Reaches start s) :
    s.statements.length ≤ (Reading.body tokens).countP fun token => token.kind = .word := by
  have bounds := inBounds reached
  have taken : tokens.take s.position <+: Reading.body tokens :=
    List.prefix_of_prefix_length_le (List.take_prefix _ _) (List.takeWhile_prefix _)
      ((List.length_take_le _ _).trans bounds.position)
  exact (Nat.le_add_right _ _).trans (bounds.calls.trans taken.sublist.countP_le)

theorem loop_bounded (tokens : List Token) : Bounded tokens where
  within reached := (inBounds reached).position
  advances := position_lt_of_round
  rounds rounds := by
    have raised := rounds.add_le fun _ _ _ round => position_lt_of_round round
    have within := (inBounds rounds.reaches).position
    simp only [start] at raised
    refine ⟨by omega, fun noEnd => ?_⟩
    have more := position_lt_of_more within noEnd
    omega
  ends := runs_body tokens
  statements parsed := by
    obtain ⟨head, last, rounds, reached, ended⟩ := runs_body tokens
    rw [parsed] at ended
    rw [statements_of_result? ended]
    exact statements_le (rounds.reaches.trans reached)

/-! ## Up to the end of input -/

/-- The loop ends and returns a result. -/
def ComesBack (tokens : List Token) (result : Except ParseError Node) : Prop :=
  ∃ last, (loop tokens).Reaches start last ∧ last.result? = some result

theorem stuck_of_result? {s : State} {result : Except ParseError Node}
    (ended : s.result? = some result) : (loop tokens).step? s = none := by
  unfold State.result? at ended
  split at ended
  · next isDone => simp [loop, step?, isDone]
  · next isDone => simp [loop, step?, isDone]
  · cases ended

/-- The loop returns what parsing does, and nothing else. -/
theorem comesBack_iff {result : Except ParseError Node} :
    ComesBack tokens result ↔ Node.parse tokens = result := by
  obtain ⟨head, last, rounds, reached, ended⟩ := runs_body tokens
  have reaches : (loop tokens).Reaches start last := rounds.reaches.trans reached
  constructor
  · rintro ⟨other, reachesOther, endedOther⟩
    obtain rfl := reaches.eq_of_stuck reachesOther (stuck_of_result? ended)
      (stuck_of_result? endedOther)
    exact Option.some.inj (ended.symm.trans endedOther)
  · rintro rfl
    exact ⟨last, reaches, ended⟩

/-- The loop returns the same whatever stands behind an end of input. Where there is none, it does
as if one stood behind the last token and on its line. -/
theorem comesBack_upToEnd (tokens rest : List Token) (text : String) (line : Nat)
    (result : Except ParseError Node) :
    (ComesBack (tokens ++ ⟨.endOfInput, text, line⟩ :: rest) result ↔
        ComesBack (tokens ++ [⟨.endOfInput, text, line⟩]) result) ∧
      (ComesBack tokens result ↔ ComesBack
        (tokens ++ [⟨.endOfInput, text, (tokens.getLast?.map Token.line).getD 1⟩]) result) := by
  have missing : Reading.ofTokens
      (tokens ++ [⟨.endOfInput, text, (tokens.getLast?.map Token.line).getD 1⟩]) =
        Reading.ofTokens tokens := Reading.ofTokens_concat_end rfl rfl
  simp only [comesBack_iff, Node.parse]
  rw [Reading.ofTokens_append_end rfl, missing]
  exact ⟨.rfl, .rfl⟩

end StatementLoop
end CallScript
