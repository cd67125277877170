import CallScript.Proofs.LongestPrefix
import CallScript.Reading
import Mathlib.Data.List.Forall2

/-!
# The grammar of statements

A token list is a sequence of pieces: calls with and without arguments, layout tokens, and tokens
that are dropped with the rest of their line. The rules below say what a piece is and which program
the pieces spell; they keep no position and know nothing of how the tokens are gone through.

* `Grammar.exists_derives_or_unclosed`: the pieces reach the end of the tokens, or an argument list
  that is not closed.
* `Grammar.ofBody_of_derives`, `Grammar.ofBody_of_unclosed`: reading finds the program or the place.
-/

namespace CallScript
namespace Grammar

/-! ## The rules -/

/-- One quote is taken off each end of a text where there is one. A lone quote is taken once. -/
inductive Unquoted : List Char → List Char → Prop
  | both (value : List Char) : Unquoted ('"' :: (value ++ ['"'])) value
  | first {value : List Char} (last : value.getLast? ≠ some '"') : Unquoted ('"' :: value) value
  | last {value : List Char} (first : (value ++ ['"']).head? ≠ some '"') :
      Unquoted (value ++ ['"']) value
  | neither {value : List Char} (first : value.head? ≠ some '"')
      (last : value.getLast? ≠ some '"') : Unquoted value value

/-- The tokens that may stand in an argument list, and the nodes they spell. -/
inductive Spells : Token → Node → Prop
  | word {token : Token} (word : token.kind = .word) : Spells token (.word token.text)
  | text {token : Token} {value : List Char} (quoted : token.kind = .quoted)
      (unquoted : Unquoted token.text.toList value) : Spells token (.text (String.ofList value))

/-- One piece at the front of the tokens, the statement it is, and the tokens behind it. -/
inductive Piece : List Token → Option Node → List Token → Prop
  | call {word paren close : Token} {args : List Token} {nodes : List Node}
      (isWord : word.kind = .word) (opened : paren.kind = .openParen)
      (spelled : List.Forall₂ Spells args nodes) (closed : close.kind = .closeParen)
      (rest : List Token) :
      Piece (word :: paren :: (args ++ close :: rest)) (some (.call word.text nodes)) rest
  | name {word : Token} {rest : List Token} (isWord : word.kind = .word)
      (alone : ∀ next ∈ rest.head?, next.kind ≠ .openParen) :
      Piece (word :: rest) (some (.call word.text [])) rest
  | layout {token : Token} (layout : token.kind ∈ [.indent, .dedent, .newline])
      (rest : List Token) : Piece (token :: rest) none rest
  | dropped {first : Token} {line rest : List Token}
      (other : first.kind ∉ [.word, .indent, .dedent, .newline])
      (sameLine : ∀ token ∈ line, token.kind ≠ .newline)
      (lineEnd : ∀ next ∈ rest.head?, next.kind = .newline) :
      Piece (first :: (line ++ rest)) none rest

/-- The statements that a token list spells, piece by piece. -/
inductive Derives : List Token → List Node → Prop
  | ending : Derives [] []
  | piece {tokens rest : List Token} {statement? : Option Node} {statements : List Node}
      (first : Piece tokens statement? rest) (behind : Derives rest statements) :
      Derives tokens (statement?.toList ++ statements)

/-- Behind some pieces stands an argument list that is not closed. The second list holds the tokens
behind its arguments; it is empty where the tokens run out. -/
inductive Unclosed : List Token → List Token → Prop
  | here {word paren : Token} {args left : List Token} {nodes : List Node}
      (isWord : word.kind = .word) (opened : paren.kind = .openParen)
      (spelled : List.Forall₂ Spells args nodes)
      (notClosed : ∀ next ∈ left.head?, next.kind ∉ [.word, .quoted, .closeParen]) :
      Unclosed (word :: paren :: (args ++ left)) left
  | behind {tokens rest left : List Token} {statement? : Option Node}
      (first : Piece tokens statement? rest) (unclosed : Unclosed rest left) :
      Unclosed tokens left

/-- The line of the first of the tokens left; where none is left, that of the end of input, and
without an end of input that of the last token. -/
def offenceLine (tokens : List Token) : List Token → Nat
  | found :: _ => found.line
  | [] =>
      match tokens.dropWhile fun token => token.kind ≠ .endOfInput with
      | ending :: _ => ending.line
      | [] => (tokens.getLast?.map Token.line).getD 1

/-! ## Arguments -/

theorem unquoted_stripQuotes (text : List Char) : Unquoted text (stripQuotes text) := by
  unfold stripQuotes
  by_cases first : text.head? = some '"'
  · obtain ⟨inner, rfl⟩ := List.head?_eq_some_iff.mp first
    by_cases last : inner.getLast? = some '"'
    · obtain ⟨value, rfl⟩ := List.getLast?_eq_some_iff.mp last
      simpa using Unquoted.both value
    · simpa [last] using Unquoted.first last
  · by_cases last : text.getLast? = some '"'
    · obtain ⟨value, rfl⟩ := List.getLast?_eq_some_iff.mp last
      simp only [if_neg first, if_pos last, List.dropLast_concat]
      exact .last first
    · simpa [first, last] using Unquoted.neither first last

theorem stripQuotes_of_unquoted {text value : List Char} (h : Unquoted text value) :
    stripQuotes text = value := by
  cases h with
  | both => simp [stripQuotes]
  | first last => simp [stripQuotes, last]
  | last first =>
      simp only [stripQuotes, if_neg first, List.getLast?_concat, if_true, List.dropLast_concat]
  | neither first last => simp [stripQuotes, first, last]

theorem spells_argument {token : Token} (argument : token.isArgument = true) :
    Spells token token.argument := by
  by_cases quoted : token.kind = .quoted
  · simpa [Token.argument, quoted] using Spells.text quoted (unquoted_stripQuotes _)
  · have word : token.kind = .word := by simpa [Token.isArgument, quoted] using argument
    simpa [Token.argument, word] using Spells.word word

theorem argument_of_spells {token : Token} {node : Node} (h : Spells token node) :
    token.isArgument = true ∧ token.argument = node := by
  cases h with
  | word word => simp [Token.isArgument, Token.argument, word]
  | text quoted unquoted =>
      simp [Token.isArgument, Token.argument, quoted, stripQuotes_of_unquoted unquoted]

theorem forall₂_spells_iff {args : List Token} {nodes : List Node} :
    List.Forall₂ Spells args nodes ↔
      (∀ token ∈ args, token.isArgument = true) ∧ nodes = args.map Token.argument := by
  constructor
  · intro spelled
    induction spelled with
    | nil => simp
    | cons first _ ih =>
        obtain ⟨argument, rfl⟩ := argument_of_spells first
        exact ⟨by simpa [argument] using ih.1, by rw [List.map_cons, ← ih.2]⟩
  · rintro ⟨arguments, rfl⟩
    rw [List.forall₂_map_right_iff, List.forall₂_same]
    exact fun token member => spells_argument (arguments token member)

theorem isArgument_eq_false_iff {token : Token} :
    token.isArgument = false ↔ token.kind ≠ .word ∧ token.kind ≠ .quoted := by
  simp [Token.isArgument, and_comm]

/-! ## Pieces reach the end or an argument list that is not closed -/

theorem piece_or_unclosed_of_word {word : Token} (isWord : word.kind = .word)
    (rest : List Token) :
    (∃ statement? behind, Piece (word :: rest) statement? behind ∧
      behind.length < (word :: rest).length) ∨ ∃ left, Unclosed (word :: rest) left := by
  by_cases opened : ∃ paren inner, rest = paren :: inner ∧ paren.kind = .openParen
  · obtain ⟨paren, inner, rfl, opened⟩ := opened
    have spelled := forall₂_spells_iff.mpr
      ⟨fun token (member : token ∈ inner.takeWhile Token.isArgument) =>
        List.mem_takeWhile_imp member, rfl⟩
    have ends := ends_dropWhile Token.isArgument inner
    rw [← List.takeWhile_append_dropWhile (p := Token.isArgument) (l := inner)]
    generalize inner.dropWhile Token.isArgument = left at ends ⊢
    -- behind the longest run of arguments the list is closed or breaks off
    by_cases closed : ∃ close behind, left = close :: behind ∧ close.kind = .closeParen
    · obtain ⟨close, behind, rfl, closed⟩ := closed
      refine .inl ⟨_, behind, .call isWord opened spelled closed behind, ?_⟩
      simp only [List.length_cons, List.length_append]
      omega
    · refine .inr ⟨left, .here isWord opened spelled ?_⟩
      intro next head
      obtain ⟨noWord, noText⟩ := isArgument_eq_false_iff.mp (ends next head)
      obtain ⟨behind, rfl⟩ := List.head?_eq_some_iff.mp head
      have noClose : next.kind ≠ .closeParen := fun close => closed ⟨next, behind, rfl, close⟩
      simp [noWord, noText, noClose]
  · refine .inl ⟨_, rest, .name isWord ?_, Nat.lt_succ_self _⟩
    intro next head kind
    obtain ⟨behind, rfl⟩ := List.head?_eq_some_iff.mp head
    exact opened ⟨next, behind, rfl, kind⟩

theorem piece_or_unclosed (first : Token) (rest : List Token) :
    (∃ statement? behind, Piece (first :: rest) statement? behind ∧
      behind.length < (first :: rest).length) ∨ ∃ left, Unclosed (first :: rest) left := by
  by_cases isWord : first.kind = .word
  · exact piece_or_unclosed_of_word isWord rest
  by_cases layout : first.kind ∈ [.indent, .dedent, .newline]
  · exact .inl ⟨none, rest, .layout layout rest, Nat.lt_succ_self _⟩
  have dropped : Piece (first :: (rest.takeWhile (fun token => !token.isNewline) ++
      rest.dropWhile fun token => !token.isNewline)) none _ :=
    .dropped (by simp_all)
      (fun token member => by simpa [Token.isNewline] using List.mem_takeWhile_imp member)
      (fun next head => by simpa [Token.isNewline] using ends_dropWhile _ rest next head)
  rw [List.takeWhile_append_dropWhile] at dropped
  exact .inl ⟨none, _, dropped, Nat.lt_succ_of_le (List.dropWhile_sublist _).length_le⟩

theorem exists_derives_or_unclosed (tokens : List Token) :
    (∃ statements, Derives tokens statements) ∨ ∃ left, Unclosed tokens left := by
  cases tokens with
  | nil => exact .inl ⟨[], .ending⟩
  | cons first rest =>
      rcases piece_or_unclosed first rest with ⟨statement?, behind, piece, shorter⟩ | unclosed
      · rcases exists_derives_or_unclosed behind with ⟨statements, derived⟩ | ⟨left, unclosed⟩
        · exact .inl ⟨_, .piece piece derived⟩
        · exact .inr ⟨left, .behind piece unclosed⟩
      · exact .inr unclosed
termination_by tokens.length
decreasing_by exact shorter

theorem Piece.rest_suffix {tokens rest : List Token} {statement? : Option Node}
    (piece : Piece tokens statement? rest) : rest <:+ tokens := by
  cases piece with
  | @call word paren close args nodes isWord opened spelled closed rest =>
      exact ⟨word :: paren :: (args ++ [close]), by simp⟩
  | @name word rest isWord alone => exact List.suffix_cons word rest
  | @layout token layout rest => exact List.suffix_cons token rest
  | @dropped first line rest other sameLine lineEnd => exact List.suffix_append (first :: line) rest

theorem Unclosed.suffix {tokens left : List Token} (unclosed : Unclosed tokens left) :
    left <:+ tokens := by
  induction unclosed with
  | @here word paren args left => exact List.suffix_append (word :: paren :: args) left
  | behind first _ ih => exact ih.trans first.rest_suffix

theorem Piece.call_of_mem {tokens rest : List Token} {statement? : Option Node}
    (piece : Piece tokens statement? rest) {statement : Node}
    (member : statement ∈ statement?.toList) :
    ∃ word ∈ tokens, ∃ args, statement = .call word.text args ∧ word.kind = .word ∧
      ∀ arg ∈ args, ∃ token ∈ tokens, Spells token arg := by
  cases piece with
  | @call word paren close args nodes isWord opened spelled closed rest =>
      obtain rfl : statement = .call word.text nodes := by simpa using member
      refine ⟨word, by simp, nodes, rfl, isWord, fun arg argMember => ?_⟩
      obtain ⟨arguments, rfl⟩ := forall₂_spells_iff.mp spelled
      obtain ⟨token, tokenMember, rfl⟩ := List.mem_map.mp argMember
      exact ⟨token, by simp [tokenMember], spells_argument (arguments token tokenMember)⟩
  | @name word rest isWord alone =>
      obtain rfl : statement = .call word.text [] := by simpa using member
      exact ⟨word, by simp, [], rfl, isWord, by simp⟩
  | layout layout rest => cases member
  | dropped other sameLine lineEnd => cases member

/-! ## Reading a piece -/

variable (endLine : Nat)

theorem ofBody_of_take {first : Token} {rest after : List Token} {item : Item}
    (taken : Item.take endLine first rest = .ok (item, after)) :
    (Reading.ofBody endLine (first :: rest)).error? = (Reading.ofBody endLine after).error? ∧
      (Reading.ofBody endLine (first :: rest)).statements =
        item.statement?.toList ++ (Reading.ofBody endLine after).statements := by
  rw [Reading.ofBody_of_take_eq_ok taken]
  cases h : item.statement? <;> simp [Reading.statements, h]

theorem ofBody_dropWhile_isNewline (tokens : List Token) :
    (Reading.ofBody endLine (tokens.dropWhile Token.isNewline)).error? =
        (Reading.ofBody endLine tokens).error? ∧
      (Reading.ofBody endLine (tokens.dropWhile Token.isNewline)).statements =
        (Reading.ofBody endLine tokens).statements := by
  cases tokens with
  | nil => simp
  | cons first rest =>
      by_cases newline : first.kind = .newline
      · have taken : Item.take endLine first rest =
            .ok (.dropped first.line, (first :: rest).dropWhile Token.isNewline) := by
          simp [Item.take, newline, Token.isNewline, bind, Except.bind, pure, Except.pure]
        have read := ofBody_of_take endLine taken
        exact ⟨read.1.symm, by simpa [Item.statement?] using read.2.symm⟩
      · simp [Token.isNewline, newline]

theorem ofBody_of_take_line {first : Token} {rest after : List Token} {item : Item}
    (taken : Item.take endLine first rest = .ok (item, after.dropWhile Token.isNewline)) :
    (Reading.ofBody endLine (first :: rest)).error? = (Reading.ofBody endLine after).error? ∧
      (Reading.ofBody endLine (first :: rest)).statements =
        item.statement?.toList ++ (Reading.ofBody endLine after).statements := by
  obtain ⟨sameError, sameStatements⟩ := ofBody_dropWhile_isNewline endLine after
  rw [← sameError, ← sameStatements]
  exact ofBody_of_take endLine taken

theorem take_of_takeCall {first : Token} {rest : List Token} (isWord : first.kind = .word) :
    Item.take endLine first rest = (Item.takeCall endLine first.text rest).map
      fun (item, after) => (item, after.dropWhile Token.isNewline) := by
  cases called : Item.takeCall endLine first.text rest <;>
    simp [Item.take, isWord, called, bind, Except.bind, pure, Except.pure, Except.map]

theorem takeCall_of_unclosed {paren : Token} {args left : List Token} {nodes : List Node}
    (name : String) (opened : paren.kind = .openParen)
    (spelled : List.Forall₂ Spells args nodes)
    (notClosed : ∀ next ∈ left.head?, next.kind ∉ [.word, .quoted, .closeParen]) :
    Item.takeCall endLine name (paren :: (args ++ left)) =
      .error (.unclosed ((left.head?.map Token.line).getD endLine)) := by
  obtain ⟨arguments, rfl⟩ := forall₂_spells_iff.mp spelled
  have ends : ∀ next ∈ left.head?, next.isArgument = false := by
    intro next head
    have other := notClosed next head
    exact isArgument_eq_false_iff.mpr ⟨by simp_all, by simp_all⟩
  have spanned := longest_span arguments ends
  cases left with
  | nil => simp only [Item.takeCall, opened, spanned]; rfl
  | cons next left =>
      have open' : next.kind ≠ .closeParen := by
        have := notClosed next (by simp)
        simp_all
      simp [Item.takeCall, opened, spanned, open']

theorem ofBody_of_piece {tokens rest : List Token} {statement? : Option Node}
    (piece : Piece tokens statement? rest) :
    (Reading.ofBody endLine tokens).error? = (Reading.ofBody endLine rest).error? ∧
      (Reading.ofBody endLine tokens).statements =
        statement?.toList ++ (Reading.ofBody endLine rest).statements := by
  cases piece with
  | @call word paren close args nodes isWord opened spelled closed rest =>
      obtain ⟨arguments, rfl⟩ := forall₂_spells_iff.mp spelled
      have ends : ∀ next ∈ (close :: rest).head?, next.isArgument = false := by
        simp [Token.isArgument, closed]
      have spanned := longest_span arguments ends
      -- reading takes the line breaks behind a call with it; here they are pieces of their own
      have called : Item.takeCall endLine word.text (paren :: (args ++ close :: rest)) =
          .ok (.call word.text (args.map Token.argument), rest) := by
        simp [Item.takeCall, opened, spanned, closed]
      exact ofBody_of_take_line endLine (by rw [take_of_takeCall endLine isWord, called]; rfl)
  | @name word rest isWord alone =>
      have called : Item.takeCall endLine word.text rest = .ok (.call word.text [], rest) := by
        cases rest with
        | nil => rfl
        | cons next rest => simp [Item.takeCall, alone next (by simp)]
      exact ofBody_of_take_line endLine (by rw [take_of_takeCall endLine isWord, called]; rfl)
  | @layout token layout rest =>
      simp only [List.mem_cons, List.not_mem_nil, or_false] at layout
      rcases layout with indent | dedent | newline
      · have taken : Item.take endLine token rest =
            .ok (.layout, rest.dropWhile Token.isNewline) := by simp only [Item.take, indent]; rfl
        exact ofBody_of_take_line endLine taken
      · have taken : Item.take endLine token rest =
            .ok (.layout, rest.dropWhile Token.isNewline) := by simp only [Item.take, dedent]; rfl
        exact ofBody_of_take_line endLine taken
      · have whole := ofBody_dropWhile_isNewline endLine (token :: rest)
        have part := ofBody_dropWhile_isNewline endLine rest
        rw [List.dropWhile_cons_of_pos (by simp [Token.isNewline, newline])] at whole
        exact ⟨whole.1.symm.trans part.1, whole.2.symm.trans part.2⟩
  | @dropped first line rest other sameLine lineEnd =>
      have skipped :
          (first :: (line ++ rest)).dropWhile (fun token => !token.isNewline) = rest := by
        have here : first.isNewline = false := by simp_all [Token.isNewline]
        have inLine : ∀ token ∈ line, (!token.isNewline) = true := by
          simpa [Token.isNewline] using sameLine
        rw [List.dropWhile_cons_of_pos (by simp [here])]
        exact (longest_span inLine (by simpa [Token.isNewline] using lineEnd)).2
      have taken : Item.take endLine first (line ++ rest) =
          .ok (.dropped first.line, rest.dropWhile Token.isNewline) := by
        unfold Item.take
        rw [skipped]
        split
        · simp_all
        · simp_all
        · simp_all
        · rfl
      exact ofBody_of_take_line endLine taken

/-! ## Reading all pieces -/

theorem ofBody_of_derives {tokens : List Token} {statements : List Node}
    (derived : Derives tokens statements) :
    (Reading.ofBody endLine tokens).error? = none ∧
      (Reading.ofBody endLine tokens).statements = statements := by
  induction derived with
  | ending => simp [Reading.ofBody_nil, Reading.statements]
  | piece first _ ih =>
      obtain ⟨sameError, more⟩ := ofBody_of_piece endLine first
      exact ⟨sameError.trans ih.1, by rw [more, ih.2]⟩

theorem ofBody_of_unclosed {tokens left : List Token} (unclosed : Unclosed tokens left) :
    (Reading.ofBody endLine tokens).error? =
      some (.unclosed ((left.head?.map Token.line).getD endLine)) := by
  induction unclosed with
  | @here word paren args left nodes isWord opened spelled notClosed =>
      have called := takeCall_of_unclosed endLine word.text opened spelled notClosed
      rw [Reading.ofBody_of_take_eq_error (by rw [take_of_takeCall endLine isWord, called]; rfl)]
  | behind first _ ih => exact (ofBody_of_piece endLine first).1.trans ih

theorem offenceLine_eq (tokens left : List Token) :
    offenceLine tokens left = (left.head?.map Token.line).getD (Reading.endLine tokens) := by
  cases left with
  | cons found left => rfl
  | nil =>
      have ending := List.find?_eq_head?_dropWhile_not
        (fun token : Token => decide (token.kind = .endOfInput)) tokens
      simp only [offenceLine, Reading.endLine, ending, ne_eq, decide_not, List.head?_nil,
        Option.map_none, Option.getD_none]
      cases tokens.dropWhile fun token => !decide (token.kind = .endOfInput) <;> rfl

/-! ## Parsing -/

variable {tokens left : List Token} {statements : List Node}

theorem parse_of_derives (derived : Derives (Reading.body tokens) statements) :
    Node.parse tokens = .ok (.program statements) := by
  obtain ⟨noError, read⟩ := ofBody_of_derives (Reading.endLine tokens) derived
  simp [Node.parse, Reading.ofTokens, Reading.program, noError, read]

theorem parse_of_unclosed (unclosed : Unclosed (Reading.body tokens) left) :
    Node.parse tokens = .error ⟨"')' after arguments", offenceLine tokens left⟩ := by
  have error := ofBody_of_unclosed (Reading.endLine tokens) unclosed
  simp [Node.parse, Reading.ofTokens, Reading.program, error, ParseError.unclosed, offenceLine_eq]

theorem derives_of_parse {node : Node} (parsed : Node.parse tokens = .ok node) :
    ∃ statements, node = .program statements ∧ Derives (Reading.body tokens) statements := by
  rcases exists_derives_or_unclosed (Reading.body tokens) with ⟨statements, h⟩ | ⟨left, h⟩
  · rw [parse_of_derives h, Except.ok.injEq] at parsed
    exact ⟨statements, parsed.symm, h⟩
  · rw [parse_of_unclosed h] at parsed
    cases parsed

theorem unclosed_of_parse {e : ParseError} (failed : Node.parse tokens = .error e) :
    ∃ left, Unclosed (Reading.body tokens) left ∧
      e = ⟨"')' after arguments", offenceLine tokens left⟩ := by
  rcases exists_derives_or_unclosed (Reading.body tokens) with ⟨statements, h⟩ | ⟨left, h⟩
  · rw [parse_of_derives h] at failed
    cases failed
  · rw [parse_of_unclosed h, Except.error.injEq] at failed
    exact ⟨left, h, failed.symm⟩

/-- Parsing accepts exactly what the grammar derives and returns the statements derived. All other
token lists hold an argument list that is not closed, and the error says where it breaks off. -/
theorem parse_iff_grammar (tokens : List Token) :
    (∀ node, Node.parse tokens = .ok node ↔
      ∃ statements, node = .program statements ∧ Derives (Reading.body tokens) statements) ∧
    (∀ e, Node.parse tokens = .error e ↔
      ∃ left, Unclosed (Reading.body tokens) left ∧
        e = ⟨"')' after arguments", offenceLine tokens left⟩) := by
  refine ⟨fun node => ⟨derives_of_parse, ?_⟩, fun e => ⟨unclosed_of_parse, ?_⟩⟩
  · rintro ⟨statements, rfl, derived⟩
    exact parse_of_derives derived
  · rintro ⟨left, unclosed, rfl⟩
    exact parse_of_unclosed unclosed

end Grammar
end CallScript
