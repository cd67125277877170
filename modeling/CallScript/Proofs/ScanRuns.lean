import CallScript.Proofs.TokenLists
import CallScript.Proofs.Tokenization

/-!
# Runs over a part of the source

A run takes steps from one scanner to another and collects the tokens they read. What a run reads
does not depend on the source behind a line break that follows it, nor, layout tokens and the
noted lines apart, on the lines and widths it starts with.

* `Scanner.Run.before_lineBreak`: a run to the end of a source goes on in front of a line break.
* `Scanner.placed_tokens`: where the layout tokens of a source stand.
* `Scanner.parse_withoutLayout`: there they are inert.
* `Scanner.Run.elsewhere`: all other tokens are the same, and their lines keep their distance.
-/

namespace CallScript
namespace Token

/-- Units of a quoted text: characters other than quote and backslash, and characters with a
backslash before them. -/
inductive Units : List Char → Prop
  | nil : Units []
  | plain {c : Char} {units : List Char} (quote : c ≠ '"') (backslash : c ≠ '\\')
      (behind : Units units) : Units (c :: units)
  | hidden (c : Char) {units : List Char} (behind : Units units) : Units ('\\' :: c :: units)

theorem Units.quotedTail {units : List Char} (h : Units units) (rest : List Char) :
    QuotedTail (units ++ ['"']) rest := by
  induction h with
  | nil => exact .closed rest
  | plain quote backslash _ ih => exact .plain quote backslash ih
  | hidden c _ ih => exact .hidden c ih

theorem QuotedTail.units {part rest : List Char} (tail : QuotedTail part rest)
    (more : rest ≠ []) : ∃ units, Units units ∧ part = units ++ ['"'] := by
  induction tail with
  | closed rest => exact ⟨[], .nil, rfl⟩
  | ended => exact absurd rfl more
  | endedByBackslash => exact absurd rfl more
  | plain quote backslash _ ih =>
      obtain ⟨units, h, rfl⟩ := ih more
      exact ⟨_, .plain quote backslash h, rfl⟩
  | hidden c _ ih =>
      obtain ⟨units, h, rfl⟩ := ih more
      exact ⟨_, .hidden c h, rfl⟩

/-- The token has its closing quote. -/
def IsTerminated (token : Token) : Prop :=
  ∃ units, Units units ∧ token.text.toList = '"' :: (units ++ ['"'])

end Token

theorem span_before {α : Type} {p : α → Bool} {stop : α} (stops : p stop = false)
    (front behind : List α) :
    (front ++ stop :: behind).takeWhile p = front.takeWhile p ∧
      (front ++ stop :: behind).dropWhile p = front.dropWhile p ++ stop :: behind := by
  induction front with
  | nil => simp [stops]
  | cons first front ih =>
      cases inside : p first
      · simp [inside]
      · simpa [inside] using ih

namespace Scanner
open Token

inductive Run : Scanner → List Token → Scanner → Prop
  | done (s : Scanner) : Run s [] s
  | step {s next last : Scanner} {read more : List Token} (first : Step s read next)
      (behind : Run next more last) : Run s (read ++ more) last

theorem Run.trans {s next last : Scanner} {read more : List Token} (first : Run s read next)
    (second : Run next more last) : Run s (read ++ more) last := by
  induction first with
  | done s => exact second
  | step one _ ih =>
      rw [List.append_assoc]
      exact .step one (ih second)

theorem Run.tokens_eq {s last : Scanner} {read : List Token} (run : Run s read last) :
    s.tokens = read ++ last.tokens := by
  induction run with
  | done s => rfl
  | step one _ ih => rw [tokens_of_step one, ih, List.append_assoc]

theorem exists_run_to_end (s : Scanner) : ∃ read line widths, Run s read ⟨[], line, widths⟩ := by
  refine run_induction (motive := fun s => ∃ read line widths, Run s read ⟨[], line, widths⟩)
    ?_ ?_ s
  · intro line widths
    exact ⟨[], line, widths, .done _⟩
  · rintro s read next one ⟨more, line, widths, behind⟩
    exact ⟨read ++ more, line, widths, .step one behind⟩

theorem Run.not_endOfInput {s last : Scanner} {read : List Token} (run : Run s read last) :
    ∀ token ∈ read, token.kind ≠ .endOfInput := by
  induction run with
  | done s => simp
  | step one _ ih =>
      intro token member
      rcases List.mem_append.mp member with member | member
      · exact one.not_endOfInput token member
      · exact ih token member

/-! ## In front of a line break -/

def before (s : Scanner) (more : List Char) : Scanner := { s with rest := s.rest ++ more }

theorem Step.before_lineBreak {s next : Scanner} {read : List Token} (one : Step s read next)
    (terminated : ∀ token ∈ read, token.kind = .quoted → token.IsTerminated) (more : List Char) :
    Step (s.before ('\n' :: more)) read (next.before ('\n' :: more)) := by
  cases one with
  | lineBreak rest line widths =>
      obtain ⟨blanks, behind⟩ := span_before isBlank_newline rest more
      have goesOn := Step.lineBreak (rest ++ '\n' :: more) line widths
      simpa only [breakLine, blanks, behind, before, List.cons_append] using goesOn
  | sign sign rest line widths => exact .sign sign _ line widths
  | quoted rest line widths =>
      -- the closing quote ends the text, whatever stands behind it
      obtain ⟨units, h, text⟩ := terminated _ (List.mem_singleton_self _) rfl
      have part : (splitQuoted rest).1 = units ++ ['"'] := by simpa using text
      have split := splitQuoted_of_tail (h.quotedTail ((splitQuoted rest).2 ++ '\n' :: more))
      rw [← List.append_assoc, ← part, splitQuoted_append] at split
      have goesOn := Step.quoted (rest ++ '\n' :: more) line widths
      simpa only [split, before, List.cons_append] using goesOn
  | word start rest line widths =>
      obtain ⟨part, behind⟩ := span_before isWordPart_newline rest more
      have goesOn := Step.word start (rest ++ '\n' :: more) line widths
      simpa only [part, behind, before, List.cons_append] using goesOn
  | filler filler rest line widths => exact .filler filler _ line widths

theorem Run.before_lineBreak {s last : Scanner} {read : List Token} (run : Run s read last)
    (terminated : ∀ token ∈ read, token.kind = .quoted → token.IsTerminated) (more : List Char) :
    Run (s.before ('\n' :: more)) read (last.before ('\n' :: more)) := by
  induction run with
  | done s => exact .done _
  | step one _ ih =>
      have parts := List.forall_mem_append.mp terminated
      exact .step (one.before_lineBreak parts.1 more) (ih parts.2)

/-! ## Layout tokens -/

theorem isLayout_of_mem_layout {width line : Nat} {widths : List Nat} {token : Token}
    (member : token ∈ (layout width line widths).1) : token.isLayout = true := by
  rcases mem_layout member with rfl | rfl <;> rfl

theorem Step.shape {s next : Scanner} {read : List Token} (one : Step s read next) :
    read = [] ∨ ∃ token raised, read = token :: raised ∧ token.isLayout = false ∧
      (∀ other ∈ raised, other.isLayout = true) ∧ (token.isNewline = true ∨ raised = []) := by
  cases one.reads with
  | lineBreak rest line widths =>
      exact .inr ⟨_, _, rfl, rfl, fun _ member => isLayout_of_mem_layout member, .inl rfl⟩
  | @slice s next token kind slice first noBreak spelled split line sameLine =>
      have others := (kind_of_lexeme? spelled).2
      have text : token.isLayout = false := by simp_all [isLayout]
      exact .inr ⟨token, [], rfl, text, by simp, .inr rfl⟩
  | filler filler split sameLine => exact .inl rfl

theorem laidOut_of_all {tokens : List Token} (layout : ∀ token ∈ tokens, token.isLayout = true) :
    LaidOut tokens := by
  induction tokens with
  | nil => exact List.isChain_nil
  | cons token tokens ih =>
      refine List.isChain_cons.mpr ⟨fun _ _ _ => .inr (layout token (by simp)), ih ?_⟩
      exact fun other member => layout other (List.mem_cons_of_mem token member)

theorem Run.laidOut {s last : Scanner} {read : List Token} (run : Run s read last) :
    LaidOut read ∧ ∀ first ∈ read.head?, first.isLayout = false := by
  induction run with
  | done s => exact ⟨List.isChain_nil, by simp⟩
  | @step s next last read more one _ ih =>
      obtain ⟨behind, text⟩ := ih
      rcases one.shape with rfl | ⟨token, raised, rfl, tokenText, layout, breaks⟩
      · exact ⟨behind, text⟩
      have here : LaidOut (token :: raised) := by
        refine List.isChain_cons.mpr ⟨fun next head _ => .inl ?_, laidOut_of_all layout⟩
        rcases breaks with isBreak | rfl
        · exact isBreak
        · cases head
      refine ⟨here.append behind fun _ _ first head isLayout => ?_, by simpa using tokenText⟩
      rw [text first head] at isLayout
      cases isLayout

/-! ## The whole source -/

theorem Run.tokens_of_end {s : Scanner} {read : List Token} {line : Nat} {widths : List Nat}
    (run : Run s read ⟨[], line, widths⟩) : s.tokens =
      read ++ (widths.map fun _ => bare .dedent line) ++ [bare .endOfInput line] := by
  rw [run.tokens_eq, tokens_nil, close, List.append_assoc]

theorem endLine_concat {tokens : List Token} (others : ∀ token ∈ tokens, token.kind ≠ .endOfInput)
    (line : Nat) : Reading.endLine (tokens ++ [bare .endOfInput line]) = line := by
  have noEnd : tokens.find? (fun token => decide (token.kind = .endOfInput)) = none :=
    List.find?_eq_none.mpr (by simpa using others)
  simp [Reading.endLine, List.find?_append, noEnd, bare]

theorem parse_concat {tokens : List Token} (others : ∀ token ∈ tokens, token.kind ≠ .endOfInput)
    (line : Nat) : Node.parse (tokens ++ [bare .endOfInput line]) =
      (Reading.ofBody line tokens).program := by
  have body : Reading.body (tokens ++ [bare .endOfInput line]) = tokens :=
    (longest_span (by simpa using others) (by simp [bare])).1
  rw [Node.parse, Reading.ofTokens, body, endLine_concat others]

theorem dedents_areLayout (line : Nat) (widths : List Nat) :
    ∀ token ∈ widths.map fun _ => bare .dedent line, token.isLayout = true ∧ token.line = line := by
  simp [bare, isLayout]

theorem Run.noEnd {s : Scanner} {read : List Token} {line : Nat} {widths : List Nat}
    (run : Run s read ⟨[], line, widths⟩) :
    ∀ token ∈ read ++ widths.map fun _ => bare .dedent line, token.kind ≠ .endOfInput := by
  intro token member
  rcases List.mem_append.mp member with member | member
  · exact run.not_endOfInput token member
  · exact kind_ne_of_isLayout (dedents_areLayout line widths token member).1 (by decide)

theorem Run.endLine_of_end {s : Scanner} {read : List Token} {line : Nat} {widths : List Nat}
    (run : Run s read ⟨[], line, widths⟩) : Reading.endLine s.tokens = line := by
  rw [run.tokens_of_end, endLine_concat run.noEnd]

theorem Run.parse_of_end {s : Scanner} {read : List Token} {line : Nat} {widths : List Nat}
    (run : Run s read ⟨[], line, widths⟩) :
    Node.parse s.tokens = (Reading.ofBody line read).program := by
  rw [run.tokens_of_end, parse_concat run.noEnd,
    Grammar.program_appendClosing read (dedents_areLayout line widths)]

theorem placed_tokens (s : Scanner) : Placed s.tokens := by
  obtain ⟨read, line, widths, run⟩ := exists_run_to_end s
  exact ⟨read, _, line, run.tokens_of_end, run.not_endOfInput, run.laidOut.1,
    dedents_areLayout line widths⟩

theorem parse_withoutLayout {tokens : List Token} (placed : Placed tokens) :
    Node.parse (withoutLayout tokens) = Node.parse tokens := by
  obtain ⟨front, closing, line, rfl, noEnd, laid, dedents⟩ := placed
  have none : withoutLayout closing = [] :=
    List.filter_eq_nil_iff.mpr fun token member => by simp [(dedents token member).1]
  have last : withoutLayout [bare .endOfInput line] = [bare .endOfInput line] := rfl
  have others : ∀ token ∈ withoutLayout front, token.kind ≠ .endOfInput :=
    fun token member => noEnd token (List.mem_filter.mp member).1
  have whole : ∀ token ∈ front ++ closing, token.kind ≠ .endOfInput := by
    intro token member
    rcases List.mem_append.mp member with member | member
    · exact noEnd token member
    · exact kind_ne_of_isLayout (dedents token member).1 (by decide)
  rw [withoutLayout_append, withoutLayout_append, none, last, List.append_nil, parse_concat others,
    parse_concat whole, Grammar.program_appendClosing front dedents,
    Grammar.program_withoutLayout laid]

/-! ## From other lines and widths -/

theorem withoutLayout_onLine (change : Nat → Nat) (tokens : List Token) :
    withoutLayout (tokens.map (onLine change)) = (withoutLayout tokens).map (onLine change) := by
  simp only [withoutLayout, List.filter_map]
  rfl

theorem withoutLayout_lineBreak (line : Nat) (widths : List Nat) (rest : List Char) :
    withoutLayout (breakLine line widths rest).1 = [bare .newline line] := by
  have raised : withoutLayout
      (layout ((rest.takeWhile isBlank).count ' ') (line + 1) widths).1 = [] :=
    List.filter_eq_nil_iff.mpr fun token member => by simp [isLayout_of_mem_layout member]
  rw [breakLine, withoutLayout_cons_of_not rfl, raised]

theorem Step.elsewhere {s next : Scanner} {read : List Token} (one : Step s read next)
    (lines : Nat) (widths : List Nat) : ∃ other widths',
      Step ⟨s.rest, lines + s.line, widths⟩ other ⟨next.rest, lines + next.line, widths'⟩ ∧
        withoutLayout other = (withoutLayout read).map (onLine (lines + ·)) := by
  cases one with
  | lineBreak rest line _ =>
      refine ⟨_, _, .lineBreak rest (lines + line) widths, ?_⟩
      rw [withoutLayout_lineBreak, withoutLayout_lineBreak]
      rfl
  | sign sign rest line _ =>
      refine ⟨_, _, .sign sign rest (lines + line) widths, ?_⟩
      exact withoutLayout_onLine (lines + ·) [⟨_, _, line⟩]
  | quoted rest line _ =>
      refine ⟨_, _, .quoted rest (lines + line) widths, ?_⟩
      exact withoutLayout_onLine (lines + ·) [⟨_, _, line⟩]
  | word start rest line _ =>
      refine ⟨_, _, .word start rest (lines + line) widths, ?_⟩
      exact withoutLayout_onLine (lines + ·) [⟨_, _, line⟩]
  | filler filler rest line _ => exact ⟨_, _, .filler filler rest (lines + line) widths, rfl⟩

theorem Run.elsewhere {s last : Scanner} {read : List Token} (run : Run s read last)
    (lines : Nat) (widths : List Nat) : ∃ other widths',
      Run ⟨s.rest, lines + s.line, widths⟩ other ⟨last.rest, lines + last.line, widths'⟩ ∧
        withoutLayout other = (withoutLayout read).map (onLine (lines + ·)) := by
  induction run generalizing widths with
  | done s => exact ⟨[], widths, .done _, rfl⟩
  | step one _ ih =>
      obtain ⟨first, between, found, same⟩ := one.elsewhere lines widths
      obtain ⟨others, widths', behind, sameBehind⟩ := ih between
      refine ⟨first ++ others, widths', .step found behind, ?_⟩
      rw [withoutLayout_append, withoutLayout_append, List.map_append, same, sameBehind]

theorem run_gap {gap : List Char} (fillers : ∀ c ∈ gap, isFiller c = true) (rest : List Char)
    (line : Nat) (widths : List Nat) : Run ⟨gap ++ rest, line, widths⟩ [] ⟨rest, line, widths⟩ := by
  induction gap with
  | nil => exact .done _
  | cons c gap ih =>
      have parts := List.forall_mem_cons.mp fillers
      exact .step (.filler parts.1 (gap ++ rest) line widths) (ih parts.2)

end Scanner

/-- Every source has its changes of indentation in places where they are inert. Elsewhere they need
not be: inside an argument list they are an error. -/
theorem Token.scan_layout_inert :
    (∀ source, Placed (Token.scan source) ∧
      Node.parse (withoutLayout (Token.scan source)) = Node.parse (Token.scan source)) ∧
    ∃ tokens, Node.parse (withoutLayout tokens) ≠ Node.parse tokens := by
  refine ⟨fun source => ?_, ?_⟩
  · have placed : Placed (Token.scan source) := Scanner.placed_tokens (.ofSource source)
    exact ⟨placed, Scanner.parse_withoutLayout placed⟩
  · refine ⟨[⟨.word, "f", 1⟩, ⟨.openParen, "(", 1⟩, bare .indent 1, ⟨.closeParen, ")", 1⟩,
      bare .endOfInput 1], ?_⟩
    decide +kernel

end CallScript
