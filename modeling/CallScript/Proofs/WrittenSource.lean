import CallScript.Proofs.ReadBack
import CallScript.Proofs.ScanRuns

/-!
# Programs and the sources that spell them

The programs that reading yields are those that are well formed: calls of words, whose arguments are
words and texts made of units. Each of them is written out here as a source, one statement a line.

* `Node.wellFormed_of_derives`: what the tokens of a source spell is well formed.
* `Node.exists_run_lines`: the written source of a program is scanned to tokens that spell it.
* `Node.parse_image`: reading yields the well-formed programs, and reads back what is written.
-/

namespace CallScript

namespace Node
open HostReader Token

inductive WellFormedArgument : Node → Prop
  | word {name : String} (isWord : isWord name = true) : WellFormedArgument (.word name)
  | text {value : String} (units : Units value.toList) : WellFormedArgument (.text value)

inductive WellFormedCall : Node → Prop
  | call {name : String} {args : List Node} (isWord : isWord name = true)
      (arguments : ∀ arg ∈ args, WellFormedArgument arg) : WellFormedCall (.call name args)

inductive WellFormed : Node → Prop
  | program {statements : List Node}
      (calls : ∀ statement ∈ statements, WellFormedCall statement) :
      WellFormed (.program statements)

/-! ## Written programs -/

/-- Nothing is written for what cannot be an argument. -/
def writtenArgument : Node → List Char
  | .word name => name.toList
  | .text value => '"' :: (value.toList ++ ['"'])
  | .program _ | .call _ _ => []

def writtenArguments : List Node → List Char
  | [] => []
  | [arg] => writtenArgument arg
  | arg :: others => writtenArgument arg ++ ' ' :: writtenArguments others

def writtenCall : Node → List Char
  | .call name args => name.toList ++ '(' :: (writtenArguments args ++ [')'])
  | .program _ | .text _ | .word _ => []

def writtenLines : List Node → List Char
  | [] => []
  | [statement] => writtenCall statement
  | statement :: others => writtenCall statement ++ '\n' :: writtenLines others

def written (program : Node) : String := String.ofList (writtenLines program.statements)

/-! ## What is read is well formed -/

theorem quoted_of_step {s next : Scanner} {read : List Token} (step : Scanner.Step s read next) :
    ∀ token ∈ read, token.kind = .quoted →
      read = [token] ∧ (token.IsTerminated ∨ next.rest = []) := by
  intro token member quoted
  cases step.reads with
  | lineBreak rest line widths =>
      rcases Scanner.mem_breakLine member with rfl | rfl | rfl <;> cases quoted
  | @slice s next other kind slice first noBreak spelled split line sameLine =>
      obtain rfl := List.mem_singleton.mp member
      refine ⟨rfl, ?_⟩
      have text := text_of_lexeme? spelled noBreak
      have sameKind := (kind_of_lexeme? spelled).1.symm.trans quoted
      cases first with
      | newline => exact absurd rfl noBreak
      | sign sign =>
          rcases ofSign?_eq_some sign with ⟨-, rfl⟩ | ⟨-, rfl⟩ | ⟨-, rfl⟩ <;> cases sameKind
      | word => cases sameKind
      | quoted tail =>
          by_cases ended : next.rest = []
          · exact .inr ended
          · obtain ⟨units, h, rfl⟩ := tail.units ended
            exact .inl ⟨units, h, text⟩
  | filler filler split sameLine => cases member

theorem terminated_before_closeParen (s : Scanner) :
    s.tokens.Pairwise fun token later =>
      token.kind = .quoted → later.kind = .closeParen → token.IsTerminated := by
  have noClose (line : Nat) (widths : List Nat) :
      ∀ token ∈ (Scanner.mk [] line widths).tokens, token.kind ≠ .closeParen := by
    intro token member
    rw [Scanner.tokens_nil] at member
    rcases Scanner.mem_close member with rfl | rfl <;> simp [bare]
  refine Scanner.run_induction (motive := fun s => s.tokens.Pairwise fun token later =>
    token.kind = .quoted → later.kind = .closeParen → token.IsTerminated) ?_ ?_ s
  · intro line widths
    refine List.pairwise_of_forall_mem_list fun token _ later member _ close => ?_
    exact absurd close (noClose line widths later member)
  · intro s read next step ih
    rw [Scanner.tokens_of_step step]
    refine List.pairwise_append.mpr ⟨?_, ih, fun token member later laterMember quoted close => ?_⟩
    · refine List.pairwise_of_forall_mem_list fun token member later laterMember quoted close => ?_
      rw [(quoted_of_step step token member quoted).1, List.mem_singleton] at laterMember
      rw [laterMember, quoted] at close
      cases close
    -- a text without its closing quote leaves nothing in which a parenthesis could stand
    · refine (quoted_of_step step token member quoted).2.resolve_right fun ended => ?_
      obtain ⟨source, line, widths⟩ := next
      obtain rfl : source = [] := ended
      exact noClose line widths later laterMember close

theorem wellFormedArgument_of_spells {token : Token} {arg : Node}
    (spells : Grammar.Spells token arg) (word : token.kind = .word → isWord token.text = true)
    (terminated : token.kind = .quoted → token.IsTerminated) : WellFormedArgument arg := by
  cases spells with
  | word kind => exact .word (word kind)
  | @text value quoted unquoted =>
      obtain ⟨units, h, text⟩ := terminated quoted
      -- taking the quotes off leaves the units between them
      have stripped := Grammar.stripQuotes_of_unquoted unquoted
      rw [text, Grammar.stripQuotes_of_unquoted (.both units)] at stripped
      subst stripped
      exact .text (by simpa using h)

theorem wellFormed_of_derives {tokens : List Token} {statements : List Node}
    (derived : Grammar.Derives tokens statements)
    (words : ∀ token ∈ tokens, token.kind = .word → isWord token.text = true)
    (terminated : tokens.Pairwise fun token later =>
      token.kind = .quoted → later.kind = .closeParen → token.IsTerminated) :
    ∀ statement ∈ statements, WellFormedCall statement := by
  induction derived with
  | ending => simp
  | @piece tokens rest statement? statements first _ ih =>
      have suffix := first.rest_suffix
      have behind := ih (fun token member => words token (suffix.subset member))
        (terminated.sublist suffix.sublist)
      refine List.forall_mem_append.mpr ⟨?_, behind⟩
      cases first with
      | @call word paren close args nodes isWord opened spelled closed rest =>
          -- a parenthesis stands behind the text, so it has not run to the end of the source
          have closes : ∀ token ∈ args, token.kind = .quoted → token.IsTerminated := by
            intro token member quoted
            have parts := (List.pairwise_append.mp
              (List.pairwise_cons.mp (List.pairwise_cons.mp terminated).2).2).2.2
            exact parts token member close (by simp) quoted closed
          have arguments : ∀ arg ∈ nodes, WellFormedArgument arg := by
            intro arg member
            obtain ⟨areArguments, rfl⟩ := Grammar.forall₂_spells_iff.mp spelled
            obtain ⟨token, tokenMember, rfl⟩ := List.mem_map.mp member
            exact wellFormedArgument_of_spells
              (Grammar.spells_argument (areArguments token tokenMember))
              (words token (by simp [tokenMember])) (closes token tokenMember)
          simpa using WellFormedCall.call (words word (by simp) isWord) arguments
      | @name word rest isWord alone =>
          simpa using WellFormedCall.call (words word (by simp) isWord)
            (List.forall_mem_nil WellFormedArgument)
      | layout layout rest => simp
      | dropped other sameLine lineEnd => simp

theorem wellFormed_of_parse {source : String} {program : Node}
    (parsed : Node.parse (Token.scan source) = .ok program) : WellFormed program := by
  obtain ⟨statements, rfl, derived⟩ := Grammar.derives_of_parse parsed
  have body : (Reading.body (Token.scan source)).Sublist (Token.scan source) :=
    List.takeWhile_sublist _
  exact .program (wellFormed_of_derives derived
    (fun token member => isWord_of_mem_tokens _ token (body.subset member))
    ((terminated_before_closeParen _).sublist body))

/-! ## What is written is read -/

theorem exists_run_argument {arg : Node} (wellFormed : WellFormedArgument arg) {rest : List Char}
    (ends : ∀ d ∈ rest.head?, isWordPart d = false) (line : Nat) (widths : List Nat) :
    ∃ token, Scanner.Run ⟨writtenArgument arg ++ rest, line, widths⟩ [token]
      ⟨rest, line, widths⟩ ∧ Grammar.Spells token arg := by
  cases wellFormed with
  | @word name isWord =>
      obtain ⟨c, part, letters, start, parts⟩ := isWord_iff.mp isWord
      obtain ⟨taken, left⟩ := longest_span parts ends
      have step := Scanner.Step.word start (part ++ rest) line widths
      rw [taken, left, ← letters, String.ofList_toList] at step
      refine ⟨⟨.word, name, line⟩, ?_, .word rfl⟩
      rw [writtenArgument, letters]
      exact .step step (.done _)
  | @text value units =>
      have step := Scanner.Step.quoted (value.toList ++ ['"'] ++ rest) line widths
      rw [splitQuoted_of_tail (units.quotedTail rest)] at step
      have unquoted : Grammar.Unquoted ('"' :: (value.toList ++ ['"'])) value.toList := .both _
      have spells : Grammar.Spells ⟨.quoted, String.ofList ('"' :: (value.toList ++ ['"'])), line⟩
          (.text (String.ofList value.toList)) :=
        .text rfl (by rwa [String.toList_ofList])
      rw [String.ofList_toList] at spells
      exact ⟨_, .step step (.done _), spells⟩

theorem exists_run_arguments {args : List Node} (wellFormed : ∀ arg ∈ args, WellFormedArgument arg)
    (rest : List Char) (line : Nat) (widths : List Nat) :
    ∃ tokens, Scanner.Run ⟨writtenArguments args ++ ')' :: rest, line, widths⟩ tokens
      ⟨')' :: rest, line, widths⟩ ∧ List.Forall₂ Grammar.Spells tokens args := by
  induction args with
  | nil => exact ⟨[], .done _, .nil⟩
  | cons arg args ih =>
      obtain ⟨here, others⟩ := List.forall_mem_cons.mp wellFormed
      obtain ⟨tokens, run, spelled⟩ := ih others
      have noPart : isWordPart ' ' = false ∧ isWordPart ')' = false := by decide
      cases args with
      | nil =>
          have ends : ∀ d ∈ (')' :: rest).head?, isWordPart d = false := by simpa using noPart.2
          obtain ⟨token, first, spells⟩ := exists_run_argument here ends line widths
          exact ⟨[token], first, .cons spells .nil⟩
      | cons next args =>
          have ends : ∀ d ∈ (' ' :: (writtenArguments (next :: args) ++ ')' :: rest)).head?,
              isWordPart d = false := by simpa using noPart.1
          obtain ⟨token, first, spells⟩ := exists_run_argument here ends line widths
          have blank : isFiller ' ' = true := by decide
          have whole := first.trans (.step (.filler blank _ line widths) run)
          refine ⟨token :: tokens, ?_, .cons spells spelled⟩
          simpa [writtenArguments] using whole

theorem exists_run_call {statement : Node} (wellFormed : WellFormedCall statement)
    (rest : List Char) (line : Nat) (widths : List Nat) :
    ∃ tokens, Scanner.Run ⟨writtenCall statement ++ rest, line, widths⟩ tokens
      ⟨rest, line, widths⟩ ∧ ∀ more, Grammar.Piece (tokens ++ more) (some statement) more := by
  cases wellFormed with
  | @call name args isWord arguments =>
      have opens : Token.Kind.ofSign? '(' = some .openParen := rfl
      have closes : Token.Kind.ofSign? ')' = some .closeParen := rfl
      have ends : ∀ d ∈ ('(' :: (writtenArguments args ++ ')' :: rest)).head?,
          isWordPart d = false := by
        have noPart : isWordPart '(' = false := by decide
        simpa using noPart
      obtain ⟨word, named, spells⟩ := exists_run_argument (.word isWord) ends line widths
      obtain ⟨tokens, run, spelled⟩ := exists_run_arguments arguments rest line widths
      have behind := run.trans (.step (.sign closes rest line widths) (.done _))
      have whole := named.trans (.step (.sign opens _ line widths) behind)
      refine ⟨_, by simpa [writtenCall, writtenArgument] using whole, fun more => ?_⟩
      cases spells with
      | word isName => simpa using Grammar.Piece.call isName rfl spelled rfl more

theorem breakLine_of_text {rest : List Char} (text : ∀ c ∈ rest.head?, isBlank c = false)
    (line : Nat) :
    Scanner.breakLine line [] rest = ([bare .newline line], ⟨rest, line + 1, []⟩) := by
  have blanks := longest_span (List.forall_mem_nil (isBlank · = true)) text
  simp only [List.nil_append] at blanks
  simp [Scanner.breakLine, Scanner.layout, blanks]

theorem head?_writtenLines {statements : List Node}
    (wellFormed : ∀ statement ∈ statements, WellFormedCall statement) :
    ∀ c ∈ (writtenLines statements).head?, isBlank c = false := by
  cases statements with
  | nil => simp [writtenLines]
  | cons statement others =>
      cases wellFormed statement (by simp) with
      | @call name args isWord arguments =>
          obtain ⟨c, part, letters, start, -⟩ := isWord_iff.mp isWord
          have noBlank : isBlank c = false := by
            by_contra blank
            have filler := isFiller_of_isBlank (by simpa using blank)
            simp [isFiller, start] at filler
          cases others <;> simpa [writtenLines, writtenCall, letters] using noBlank

theorem exists_run_lines {statements : List Node}
    (wellFormed : ∀ statement ∈ statements, WellFormedCall statement) (line : Nat) :
    ∃ tokens last, Scanner.Run ⟨writtenLines statements, line, []⟩ tokens ⟨[], last, []⟩ ∧
      Grammar.Derives tokens statements := by
  induction statements generalizing line with
  | nil => exact ⟨[], line, .done _, .ending⟩
  | cons statement others ih =>
      obtain ⟨here, behind⟩ := List.forall_mem_cons.mp wellFormed
      cases others with
      | nil =>
          obtain ⟨tokens, run, piece⟩ := exists_run_call here [] line []
          refine ⟨tokens, line, by simpa [writtenLines] using run, ?_⟩
          simpa using Grammar.Derives.piece (piece []) .ending
      | cons next others =>
          obtain ⟨tokens, last, run, derived⟩ := ih behind (line + 1)
          obtain ⟨first, firstRun, piece⟩ :=
            exists_run_call here ('\n' :: writtenLines (next :: others)) line []
          have lineBreak := Scanner.Step.lineBreak (writtenLines (next :: others)) line []
          rw [breakLine_of_text (head?_writtenLines behind)] at lineBreak
          refine ⟨_, last, firstRun.trans (.step lineBreak run), ?_⟩
          have isBreak : (bare .newline line).kind ∈ [.indent, .dedent, .newline] := by simp [bare]
          exact .piece (piece _) (.piece (.layout isBreak tokens) derived)

theorem parse_written {program : Node} (wellFormed : WellFormed program) :
    Node.parse (Token.scan program.written) = .ok program := by
  cases wellFormed with
  | @program statements calls =>
      obtain ⟨tokens, last, run, derived⟩ := exists_run_lines calls 1
      have scanned : Scanner.ofSource (Node.program statements).written =
          ⟨writtenLines statements, 1, []⟩ := by
        simp [Scanner.ofSource, written, Node.statements]
      rw [Token.scan, scanned, run.parse_of_end, Reading.program_of_derives last derived]

/-- The programs that reading yields are the well-formed ones, and such a program is read back from
its written source. -/
theorem parse_image :
    (∀ program, (∃ source, Node.parse (Token.scan source) = .ok program) ↔ WellFormed program) ∧
      ∀ program, WellFormed program → Node.parse (Token.scan program.written) = .ok program := by
  refine ⟨fun program => ⟨?_, fun wellFormed => ⟨program.written, ?_⟩⟩, fun _ => parse_written⟩
  · rintro ⟨source, parsed⟩
    exact wellFormed_of_parse parsed
  · exact parse_written wellFormed

/-- The case of a text with a line break, a quote and a backslash in it. -/
theorem parse_image_escapes :
    let program : Node := .program
      [.call "print" [.text "a\n\\\"\\\\", .word "größe", .text ""], .call "f" []]
    WellFormed program ∧
      program.written = "print(\"a\n\\\"\\\\\" größe \"\")\nf()" ∧
      Node.parse (Token.scan program.written) = .ok program ∧
      ∃ source, Node.parse (Token.scan source) = .ok program := by
  intro program
  have wellFormed : WellFormed program := by
    refine .program (List.forall_mem_cons.mpr ⟨.call (by decide) ?_, ?_⟩)
    · have units : Units "a\n\\\"\\\\".toList :=
        .plain (by decide) (by decide) (.plain (by decide) (by decide)
          (.hidden '"' (.hidden '\\' .nil)))
      have empty : Units "".toList := .nil
      simpa using ⟨WellFormedArgument.text units, .word (by decide), .text empty⟩
    · simpa using WellFormedCall.call (by decide) (List.forall_mem_nil WellFormedArgument)
  exact ⟨wellFormed, by decide, parse_image.2 program wellFormed,
    (parse_image.1 program).mpr wellFormed⟩

end Node
end CallScript
