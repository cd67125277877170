import CallScript.Proofs.Grammar
import Mathlib.Data.List.Chain

/-!
# Reading token lists that are put together

How the pieces of a token list behave when tokens are appended, relabelled with other lines, or
rid of the changes of indentation, and what an end of input among them does.

* `Grammar.program_join`: what stands behind a line break is read by itself.
* `Grammar.program_appendClosing`: changes of indentation at the end are inert.
* `Grammar.program_withoutLayout`: so are those that stand behind line breaks.
* `Grammar.program_onLine`: on other lines the same is read, and errors move with the lines.
* `Reading.ofTokens_append_end`, `Reading.ofTokens_concat_end`: where the tokens end.
-/

namespace CallScript

namespace Token

def isLayout (token : Token) : Bool := token.kind = .indent || token.kind = .dedent

theorem isLayout_iff {token : Token} :
    token.isLayout = true ↔ token.kind = .indent ∨ token.kind = .dedent := by
  simp [isLayout]

theorem kind_ne_of_isLayout {token : Token} (layout : token.isLayout = true) {kind : Kind}
    (other : kind ≠ .indent ∧ kind ≠ .dedent) : token.kind ≠ kind := by
  rintro rfl
  exact (isLayout_iff.mp layout).elim other.1 other.2

def withoutLayout (tokens : List Token) : List Token := tokens.filter fun token => !token.isLayout

theorem withoutLayout_append (tokens more : List Token) :
    withoutLayout (tokens ++ more) = withoutLayout tokens ++ withoutLayout more :=
  List.filter_append tokens more

theorem withoutLayout_cons_of_not {token : Token} (text : token.isLayout = false)
    (rest : List Token) : withoutLayout (token :: rest) = token :: withoutLayout rest := by
  simp [withoutLayout, text]

theorem withoutLayout_cons_of {token : Token} (layout : token.isLayout = true)
    (rest : List Token) : withoutLayout (token :: rest) = withoutLayout rest := by
  simp [withoutLayout, layout]

theorem withoutLayout_eq_self {tokens : List Token}
    (text : ∀ token ∈ tokens, token.isLayout = false) : withoutLayout tokens = tokens :=
  List.filter_eq_self.mpr (by simpa using text)

def onLine (change : Nat → Nat) (token : Token) : Token := { token with line := change token.line }

/-- Every change of indentation stands right behind a line break or another change. -/
def LaidOut (tokens : List Token) : Prop :=
  tokens.IsChain fun token next => next.isLayout = true → token.isNewline ∨ token.isLayout

/-- Every change of indentation stands there, or right in front of the end of input and on its
line. -/
def Placed (tokens : List Token) : Prop :=
  ∃ front closing line, tokens = front ++ closing ++ [bare .endOfInput line] ∧
    (∀ token ∈ front, token.kind ≠ .endOfInput) ∧ LaidOut front ∧
    ∀ token ∈ closing, token.isLayout = true ∧ token.line = line

end Token

namespace Reading
open Grammar

variable (endLine : Nat)

theorem program_of_derives {tokens : List Token} {statements : List Node}
    (derived : Derives tokens statements) :
    (ofBody endLine tokens).program = .ok (.program statements) := by
  obtain ⟨noError, read⟩ := ofBody_of_derives endLine derived
  simp [program, noError, read]

theorem program_of_unclosed {tokens left : List Token} (unclosed : Unclosed tokens left) :
    (ofBody endLine tokens).program =
      .error (.unclosed ((left.head?.map Token.line).getD endLine)) := by
  simp [program, ofBody_of_unclosed endLine unclosed]

end Reading

namespace Grammar
open Token

/-! ## Behind a line break -/

theorem Piece.append {tokens rest : List Token} {statement? : Option Node}
    (piece : Piece tokens statement? rest) {next : Token} (isBreak : next.kind = .newline)
    (more : List Token) : Piece (tokens ++ next :: more) statement? (rest ++ next :: more) := by
  have headOf (P : Token → Prop) (inside : ∀ token ∈ rest.head?, P token) (here : P next) :
      ∀ token ∈ (rest ++ next :: more).head?, P token := by
    cases rest with
    | nil => simpa using here
    | cons first rest => simpa using inside
  cases piece with
  | call isWord opened spelled closed rest =>
      simpa using Piece.call isWord opened spelled closed (rest ++ next :: more)
  | name isWord alone => exact .name isWord (headOf _ alone (by simp [isBreak]))
  | layout layout rest => exact .layout layout (rest ++ next :: more)
  | dropped other sameLine lineEnd =>
      simpa using Piece.dropped other sameLine (headOf _ lineEnd isBreak)

theorem Derives.join {tokens more : List Token} {statements others : List Node} {next : Token}
    (first : Derives tokens statements) (isBreak : next.kind = .newline)
    (second : Derives more others) :
    Derives (tokens ++ next :: more) (statements ++ others) := by
  induction first with
  | ending => exact .piece (.layout (by simp [isBreak]) more) second
  | piece piece _ ih =>
      rw [List.append_assoc]
      exact .piece (piece.append isBreak more) ih

theorem Unclosed.join {tokens left : List Token} {next : Token} (unclosed : Unclosed tokens left)
    (isBreak : next.kind = .newline) (more : List Token) :
    Unclosed (tokens ++ next :: more) (left ++ next :: more) := by
  induction unclosed with
  | @here word paren args left nodes isWord opened spelled notClosed =>
      have ends : ∀ token ∈ (left ++ next :: more).head?,
          token.kind ∉ [.word, .quoted, .closeParen] := by
        cases left with
        | nil => simp [isBreak]
        | cons first left => simpa using notClosed
      simpa using Unclosed.here isWord opened spelled ends
  | behind piece _ ih => exact .behind (piece.append isBreak more) ih

theorem Unclosed.behindJoin {tokens more left : List Token} {statements : List Node} {next : Token}
    (first : Derives tokens statements) (isBreak : next.kind = .newline)
    (unclosed : Unclosed more left) : Unclosed (tokens ++ next :: more) left := by
  induction first with
  | ending => exact .behind (.layout (by simp [isBreak]) more) unclosed
  | piece piece _ ih => exact .behind (piece.append isBreak more) ih

theorem program_join {tokens : List Token} {statements : List Node} {next : Token}
    (first : Derives tokens statements) (isBreak : next.kind = .newline) (more : List Token)
    (endLine : Nat) : (Reading.ofBody endLine (tokens ++ next :: more)).program =
      (Reading.ofBody endLine more).program.map fun second =>
        .program (statements ++ second.statements) := by
  rcases exists_derives_or_unclosed more with ⟨others, second⟩ | ⟨left, unclosed⟩
  · rw [Reading.program_of_derives endLine second,
      Reading.program_of_derives endLine (first.join isBreak second)]
    rfl
  · rw [Reading.program_of_unclosed endLine unclosed,
      Reading.program_of_unclosed endLine (unclosed.behindJoin first isBreak)]
    rfl

theorem program_join_of_unclosed {tokens left : List Token} {next : Token}
    (unclosed : Unclosed tokens left) (isBreak : next.kind = .newline) (more : List Token)
    (endLine : Nat) : (Reading.ofBody endLine (tokens ++ next :: more)).program =
      (Reading.ofBody next.line tokens).program := by
  rw [Reading.program_of_unclosed endLine (unclosed.join isBreak more),
    Reading.program_of_unclosed next.line unclosed]
  cases left <;> rfl

theorem program_lineBreak {next : Token} (isBreak : next.kind = .newline) (more : List Token)
    (endLine : Nat) : (Reading.ofBody endLine (next :: more)).program =
      (Reading.ofBody endLine more).program := by
  rcases exists_derives_or_unclosed more with ⟨others, second⟩ | ⟨left, unclosed⟩
  · rw [Reading.program_of_derives endLine second]
    exact Reading.program_of_derives endLine (Derives.ending.join isBreak second)
  · rw [Reading.program_of_unclosed endLine unclosed]
    exact Reading.program_of_unclosed endLine (unclosed.behindJoin .ending isBreak)

/-! ## Changes of indentation at the end -/

theorem derives_closing {closing : List Token}
    (dedents : ∀ token ∈ closing, token.isLayout = true) :
    Derives closing [] := by
  induction closing with
  | nil => exact .ending
  | cons token closing ih =>
      have layout : token.kind ∈ [.indent, .dedent, .newline] := by
        rcases isLayout_iff.mp (dedents token (by simp)) with kind | kind <;> simp [kind]
      exact .piece (.layout layout closing)
        (ih fun other member => dedents other (List.mem_cons_of_mem token member))

theorem Piece.appendClosing {tokens rest closing : List Token} {statement? : Option Node}
    (piece : Piece tokens statement? rest)
    (dedents : ∀ token ∈ closing, token.isLayout = true) :
    Piece (tokens ++ closing) statement? (rest ++ closing) ∨
      rest = [] ∧ Piece (tokens ++ closing) statement? [] := by
  cases piece with
  | call isWord opened spelled closed rest =>
      exact .inl (by simpa using Piece.call isWord opened spelled closed (rest ++ closing))
  | name isWord alone =>
      refine .inl (.name isWord fun token head => ?_)
      cases rest with
      | nil => exact kind_ne_of_isLayout (dedents token (List.mem_of_mem_head? head)) (by decide)
      | cons first rest => exact alone token head
  | layout layout rest => exact .inl (.layout layout (rest ++ closing))
  | @dropped first line rest other sameLine lineEnd =>
      -- a dropped line that reaches the end takes what is appended with it
      cases rest with
      | nil =>
          have noBreak : ∀ token ∈ line ++ closing, token.kind ≠ .newline := by
            intro token member
            rcases List.mem_append.mp member with member | member
            · exact sameLine token member
            · exact kind_ne_of_isLayout (dedents token member) (by decide)
          have whole : Piece (first :: (line ++ closing ++ [])) none [] :=
            .dropped other noBreak (by simp)
          exact .inr ⟨rfl, by simpa using whole⟩
      | cons next rest =>
          have more : Piece (first :: (line ++ next :: (rest ++ closing))) none
              (next :: (rest ++ closing)) := .dropped other sameLine (by simpa using lineEnd)
          exact .inl (by simpa using more)

theorem Derives.appendClosing {tokens closing : List Token} {statements : List Node}
    (derived : Derives tokens statements)
    (dedents : ∀ token ∈ closing, token.isLayout = true) :
    Derives (tokens ++ closing) statements := by
  induction derived with
  | ending => exact derives_closing dedents
  | piece piece behind ih =>
      rcases piece.appendClosing dedents with more | ⟨rfl, whole⟩
      · exact .piece more ih
      · exact .piece whole behind

theorem Unclosed.appendClosing {tokens left closing : List Token}
    (unclosed : Unclosed tokens left) (dedents : ∀ token ∈ closing, token.isLayout = true) :
    Unclosed (tokens ++ closing) (left ++ closing) := by
  induction unclosed with
  | @here word paren args left nodes isWord opened spelled notClosed =>
      have ends : ∀ token ∈ (left ++ closing).head?,
          token.kind ∉ [.word, .quoted, .closeParen] := by
        intro token head
        cases left with
        | nil =>
            have layout := dedents token (List.mem_of_mem_head? head)
            simp [kind_ne_of_isLayout layout]
        | cons first left => exact notClosed token head
      simpa using Unclosed.here isWord opened spelled ends
  | behind piece unclosed ih =>
      rcases piece.appendClosing dedents with more | ⟨rfl, -⟩
      · exact .behind more ih
      · cases unclosed with
        | behind piece => cases piece

/-! ## Without changes of indentation -/

section WithoutLayout

theorem isLayout_eq_false {token : Token} {kind : Token.Kind} (isKind : token.kind = kind)
    (other : kind ≠ .indent ∧ kind ≠ .dedent) : token.isLayout = false := by
  by_contra layout
  exact kind_ne_of_isLayout (by simpa using layout) other isKind

theorem next_isText {token next : Token} {rest : List Token}
    (laid : LaidOut (token :: rest)) (head : next ∈ rest.head?)
    (text : token.isLayout = false) (noBreak : token.kind ≠ .newline) : next.isLayout = false := by
  by_contra layout
  have placed := laid.rel_head? head (by simpa using layout)
  simp [text, isNewline, noBreak] at placed

theorem line_isText {first : Token} {line rest : List Token}
    (laid : LaidOut (first :: (line ++ rest))) (text : first.isLayout = false)
    (noBreaks : ∀ token ∈ first :: line, token.kind ≠ .newline) :
    ∀ token ∈ line, token.isLayout = false := by
  induction line generalizing first with
  | nil => simp
  | cons next line ih =>
      have head : next ∈ (next :: line ++ rest).head? := rfl
      have nextText := next_isText laid head text (noBreaks first (by simp))
      refine List.forall_mem_cons.mpr ⟨nextText, ih laid.tail nextText fun token member => ?_⟩
      exact noBreaks token (List.mem_cons_of_mem first member)

theorem head?_withoutLayout {tokens : List Token}
    (text : ∀ next ∈ tokens.head?, next.isLayout = false) :
    (withoutLayout tokens).head? = tokens.head? := by
  cases tokens with
  | nil => rfl
  | cons next tokens => rw [withoutLayout_cons_of_not (text next rfl)]; rfl

theorem arguments_areText {args : List Token} {nodes : List Node}
    (spelled : List.Forall₂ Spells args nodes) : ∀ token ∈ args, token.isLayout = false := by
  intro token member
  have argument := (forall₂_spells_iff.mp spelled).1 token member
  simp only [isArgument, Bool.or_eq_true, decide_eq_true_eq] at argument
  rcases argument with kind | kind <;> exact isLayout_eq_false kind (by decide)

theorem Piece.withoutLayout {tokens rest : List Token} {statement? : Option Node}
    (piece : Piece tokens statement? rest) (laid : LaidOut tokens) :
    Piece (withoutLayout tokens) statement? (withoutLayout rest) ∨
      statement? = none ∧ withoutLayout tokens = withoutLayout rest := by
  -- inside a piece there is none to take away, unless the piece is nothing else
  cases piece with
  | @call word paren close args nodes isWord opened spelled closed rest =>
      refine .inl ?_
      rw [withoutLayout_cons_of_not (isLayout_eq_false isWord (by decide)),
        withoutLayout_cons_of_not (isLayout_eq_false opened (by decide)), withoutLayout_append,
        withoutLayout_eq_self (arguments_areText spelled),
        withoutLayout_cons_of_not (isLayout_eq_false closed (by decide))]
      exact .call isWord opened spelled closed (Token.withoutLayout rest)
  | @name word rest isWord alone =>
      have text := isLayout_eq_false isWord (by decide)
      have next : ∀ next ∈ rest.head?, next.isLayout = false :=
        fun next head => next_isText laid head text (by simp [isWord])
      rw [withoutLayout_cons_of_not text]
      exact .inl (.name isWord (by rwa [head?_withoutLayout next]))
  | @layout token layout rest =>
      by_cases newline : token.kind = .newline
      · rw [withoutLayout_cons_of_not (isLayout_eq_false newline (by decide))]
        exact .inl (.layout layout (Token.withoutLayout rest))
      · have isLayout : token.isLayout = true := isLayout_iff.mpr (by simp_all)
        exact .inr ⟨rfl, withoutLayout_cons_of isLayout rest⟩
  | @dropped first line rest other sameLine lineEnd =>
      have text : first.isLayout = false := by simp_all [isLayout]
      have noBreaks : ∀ token ∈ first :: line, token.kind ≠ .newline :=
        List.forall_mem_cons.mpr ⟨by simp_all, sameLine⟩
      have restText : ∀ next ∈ rest.head?, next.isLayout = false :=
        fun next head => isLayout_eq_false (lineEnd next head) (by decide)
      rw [withoutLayout_cons_of_not text, withoutLayout_append,
        withoutLayout_eq_self (line_isText laid text noBreaks)]
      exact .inl (.dropped other sameLine (by rwa [head?_withoutLayout restText]))

theorem Derives.withoutLayout {tokens : List Token} {statements : List Node}
    (derived : Derives tokens statements) (laid : LaidOut tokens) :
    Derives (withoutLayout tokens) statements := by
  induction derived with
  | ending => exact .ending
  | piece piece _ ih =>
      have behind := ih (laid.suffix piece.rest_suffix)
      rcases piece.withoutLayout laid with more | ⟨rfl, same⟩
      · exact .piece more behind
      · rwa [same]

theorem Unclosed.withoutLayout {tokens left : List Token} (unclosed : Unclosed tokens left)
    (laid : LaidOut tokens) :
    ∃ same, Unclosed (withoutLayout tokens) same ∧ same.head? = left.head? := by
  induction unclosed with
  | @here word paren args left nodes isWord opened spelled notClosed =>
      -- the last token before those left is a parenthesis or an argument
      have text : ∀ next ∈ left.head?, next.isLayout = false := by
        intro next head
        cases last : args.getLast? with
        | none =>
            obtain rfl := List.getLast?_eq_none_iff.mp last
            exact next_isText laid.tail head (isLayout_eq_false opened (by decide))
              (by simp [opened])
        | some arg =>
            obtain ⟨front, rfl⟩ := List.getLast?_eq_some_iff.mp last
            have member : arg ∈ front ++ [arg] := by simp
            have argument := (forall₂_spells_iff.mp spelled).1 arg member
            have laidHere : LaidOut (arg :: left) :=
              laid.suffix ⟨word :: paren :: front, by simp⟩
            refine next_isText laidHere head (arguments_areText spelled arg member) ?_
            rintro newline
            simp [isArgument, newline] at argument
      refine ⟨Token.withoutLayout left, ?_, head?_withoutLayout text⟩
      rw [withoutLayout_cons_of_not (isLayout_eq_false isWord (by decide)),
        withoutLayout_cons_of_not (isLayout_eq_false opened (by decide)), withoutLayout_append,
        withoutLayout_eq_self (arguments_areText spelled)]
      exact .here isWord opened spelled (by rwa [head?_withoutLayout text])
  | behind piece _ ih =>
      obtain ⟨same, behind, head⟩ := ih (laid.suffix piece.rest_suffix)
      rcases piece.withoutLayout laid with more | ⟨-, equal⟩
      · exact ⟨same, .behind more behind, head⟩
      · exact ⟨same, equal ▸ behind, head⟩

theorem program_withoutLayout {tokens : List Token} (laid : LaidOut tokens) (endLine : Nat) :
    (Reading.ofBody endLine (withoutLayout tokens)).program =
      (Reading.ofBody endLine tokens).program := by
  rcases exists_derives_or_unclosed tokens with ⟨statements, derived⟩ | ⟨left, unclosed⟩
  · rw [Reading.program_of_derives endLine derived,
      Reading.program_of_derives endLine (derived.withoutLayout laid)]
  · obtain ⟨same, found, head⟩ := unclosed.withoutLayout laid
    rw [Reading.program_of_unclosed endLine unclosed, Reading.program_of_unclosed endLine found,
      head]

theorem program_appendClosing (tokens : List Token) {closing : List Token} {endLine : Nat}
    (dedents : ∀ token ∈ closing, token.isLayout = true ∧ token.line = endLine) :
    (Reading.ofBody endLine (tokens ++ closing)).program =
      (Reading.ofBody endLine tokens).program := by
  have layout := fun token member => (dedents token member).1
  rcases exists_derives_or_unclosed tokens with ⟨statements, derived⟩ | ⟨left, unclosed⟩
  · rw [Reading.program_of_derives endLine derived,
      Reading.program_of_derives endLine (derived.appendClosing layout)]
  · rw [Reading.program_of_unclosed endLine unclosed,
      Reading.program_of_unclosed endLine (unclosed.appendClosing layout)]
    cases left with
    | cons found left => rfl
    | nil =>
        cases closing with
        | nil => rfl
        | cons dedent closing => simp [(dedents dedent (by simp)).2]

end WithoutLayout

/-! ## The same tokens on other lines -/

section Relabelled

variable (change : Nat → Nat)

theorem Spells.onLine {token : Token} {node : Node} (spells : Spells token node) :
    Spells (token.onLine change) node := by
  obtain ⟨isArgument, rfl⟩ := argument_of_spells spells
  have again : (token.onLine change).isArgument = true := isArgument
  exact spells_argument again

theorem head_onLine {tokens : List Token} {P : Token.Kind → Prop}
    (inside : ∀ token ∈ tokens.head?, P token.kind) :
    ∀ token ∈ (tokens.map (onLine change)).head?, P token.kind := by
  cases tokens with
  | nil => simp
  | cons first tokens => simpa [onLine] using inside

theorem spelled_onLine {args : List Token} {nodes : List Node}
    (spelled : List.Forall₂ Spells args nodes) :
    List.Forall₂ Spells (args.map (onLine change)) nodes :=
  List.forall₂_map_left_iff.mpr (spelled.imp fun _ _ spells => spells.onLine change)

theorem Piece.onLine {tokens rest : List Token} {statement? : Option Node}
    (piece : Piece tokens statement? rest) :
    Piece (tokens.map (onLine change)) statement? (rest.map (onLine change)) := by
  cases piece with
  | call isWord opened spelled closed rest =>
      rw [List.map_cons, List.map_cons, List.map_append, List.map_cons]
      refine .call ?_ ?_ (spelled_onLine change spelled) ?_ _ <;> assumption
  | name isWord alone =>
      rw [List.map_cons]
      exact .name isWord (head_onLine (P := (· ≠ .openParen)) change alone)
  | layout layout rest =>
      rw [List.map_cons]
      exact .layout (by exact layout) _
  | dropped other sameLine lineEnd =>
      rw [List.map_cons, List.map_append]
      exact .dropped other (by simpa [Token.onLine] using sameLine)
        (head_onLine (P := (· = .newline)) change lineEnd)

theorem Derives.onLine {tokens : List Token} {statements : List Node}
    (derived : Derives tokens statements) : Derives (tokens.map (onLine change)) statements := by
  induction derived with
  | ending => exact .ending
  | piece piece _ ih => exact .piece (piece.onLine change) ih

theorem Unclosed.onLine {tokens left : List Token} (unclosed : Unclosed tokens left) :
    Unclosed (tokens.map (onLine change)) (left.map (onLine change)) := by
  induction unclosed with
  | here isWord opened spelled notClosed =>
      rw [List.map_cons, List.map_cons, List.map_append]
      exact .here isWord opened (spelled_onLine change spelled)
        (head_onLine (P := (· ∉ [.word, .quoted, .closeParen])) change notClosed)
  | behind piece _ ih => exact .behind (piece.onLine change) ih

theorem program_onLine (tokens : List Token) (endLine : Nat) :
    (Reading.ofBody (change endLine) (tokens.map (onLine change))).program =
      (Reading.ofBody endLine tokens).program.mapError fun e =>
        { e with line := change e.line } := by
  rcases exists_derives_or_unclosed tokens with ⟨statements, derived⟩ | ⟨left, unclosed⟩
  · rw [Reading.program_of_derives _ derived, Reading.program_of_derives _ (derived.onLine change)]
    rfl
  · rw [Reading.program_of_unclosed _ unclosed,
      Reading.program_of_unclosed _ (unclosed.onLine change)]
    cases left <;> rfl

end Relabelled

end Grammar

/-! ## The end of input -/

namespace Reading

variable {ending : Token}

theorem body_append_end (isEnd : ending.kind = .endOfInput) (tokens rest : List Token) :
    body (tokens ++ ending :: rest) = body tokens := by
  induction tokens with
  | nil => simp [body, isEnd]
  | cons first tokens ih =>
      simp only [body, List.cons_append, List.takeWhile_cons] at ih ⊢
      rw [ih]

theorem endLine_append_end (isEnd : ending.kind = .endOfInput) (tokens rest : List Token) :
    endLine (tokens ++ ending :: rest) =
      ((tokens.find? fun token => token.kind = .endOfInput).getD ending).line := by
  cases found : tokens.find? fun token => decide (token.kind = .endOfInput) <;>
    simp [endLine, List.find?_append, found, isEnd]

theorem ofTokens_append_end (isEnd : ending.kind = .endOfInput) (tokens rest : List Token) :
    ofTokens (tokens ++ ending :: rest) = ofTokens (tokens ++ [ending]) := by
  simp only [ofTokens, body_append_end isEnd, endLine_append_end isEnd]

theorem ofTokens_concat_end (isEnd : ending.kind = .endOfInput) {tokens : List Token}
    (line : ending.line = (tokens.getLast?.map Token.line).getD 1) :
    ofTokens (tokens ++ [ending]) = ofTokens tokens := by
  have sameLine : endLine (tokens ++ [ending]) = endLine tokens := by
    rw [endLine_append_end isEnd, endLine]
    cases tokens.find? fun token => decide (token.kind = .endOfInput) with
    | none => exact line
    | some token => rfl
  rw [ofTokens, ofTokens, body_append_end isEnd, sameLine]

end Reading

/-- An end of input is where parsing ends, and a missing one is taken to stand behind the last token
and on its line. -/
theorem Node.parse_upToEnd (tokens rest : List Token) (text : String) (line : Nat) :
    parse (tokens ++ ⟨.endOfInput, text, line⟩ :: rest) =
        parse (tokens ++ [⟨.endOfInput, text, line⟩]) ∧
      parse tokens =
        parse (tokens ++ [⟨.endOfInput, text, (tokens.getLast?.map Token.line).getD 1⟩]) := by
  refine ⟨?_, ?_⟩
  · rw [parse, parse, Reading.ofTokens_append_end rfl]
  · rw [parse, parse, Reading.ofTokens_concat_end rfl rfl]

end CallScript
