import CallScript.Proofs.LongestPrefix
import CallScript.Proofs.Scanning

/-!
# The tokenization of a source text

A source text is cut into lexemes and the gaps between them. The rules below say what a lexeme is
and what may stand in a gap; they do not say how the cuts are found. Every text has exactly one
such cutting, and scanning computes it.

* `Scanner.tokenization_lexemes`: scanning cuts by the rules.
* `Scanner.lexemes_eq_of_tokenization`: any cutting by the rules is that of scanning.
-/

namespace CallScript
namespace Token

/-! ## The rules -/

/-- A slice of the source, with the kind of token that is read from it. -/
structure Lexeme where
  kind : Kind
  slice : List Char
deriving DecidableEq

/-- What stands behind an opening quote as part of its token, and what follows the token. The part
consists of characters that are neither quote nor backslash and of characters with a backslash
before them; it ends with a quote, or else with the source, there perhaps with a lone backslash. -/
inductive QuotedTail : List Char → List Char → Prop
  | closed (rest : List Char) : QuotedTail ['"'] rest
  | ended : QuotedTail [] []
  | endedByBackslash : QuotedTail ['\\'] []
  | plain {c : Char} {part rest : List Char} (quote : c ≠ '"') (backslash : c ≠ '\\')
      (behind : QuotedTail part rest) : QuotedTail (c :: part) rest
  | hidden (c : Char) {part rest : List Char} (behind : QuotedTail part rest) :
      QuotedTail ('\\' :: c :: part) rest

/-- The slices of each kind, in front of what follows them. A word is as long as it can be. -/
inductive IsLexeme : Kind → List Char → List Char → Prop
  | newline (rest : List Char) : IsLexeme .newline ['\n'] rest
  | sign {c : Char} {kind : Kind} (sign : Kind.ofSign? c = some kind) (rest : List Char) :
      IsLexeme kind [c] rest
  | quoted {part rest : List Char} (tail : QuotedTail part rest) :
      IsLexeme .quoted ('"' :: part) rest
  | word {c : Char} {part rest : List Char} (start : isWordStart c = true)
      (parts : ∀ d ∈ part, isWordPart d = true)
      (longest : ∀ d ∈ rest.head?, isWordPart d = false) : IsLexeme .word (c :: part) rest

/-- A source text cut into lexemes, with gaps of fillers before, between and behind them. -/
inductive Tokenization : List Char → List Lexeme → Prop
  | ending {gap : List Char} (fillers : ∀ c ∈ gap, isFiller c = true) : Tokenization gap []
  | lexeme {gap slice rest : List Char} {kind : Kind} {lexemes : List Lexeme}
      (fillers : ∀ c ∈ gap, isFiller c = true) (first : IsLexeme kind slice rest)
      (behind : Tokenization rest lexemes) :
      Tokenization (gap ++ slice ++ rest) (⟨kind, slice⟩ :: lexemes)

/-- The lexeme of a token. A newline stands for its character; indentation and the end of input
have no lexeme. -/
def lexeme? (token : Token) : Option Lexeme :=
  match token.kind with
  | .newline => some ⟨.newline, ['\n']⟩
  | .word | .quoted | .openParen | .closeParen | .colon => some ⟨token.kind, token.text.toList⟩
  | .number | .indent | .dedent | .endOfInput => none

theorem kind_of_lexeme? {token : Token} {lexeme : Lexeme} (spelled : lexeme? token = some lexeme) :
    token.kind = lexeme.kind ∧ token.kind ∉ [.number, .indent, .dedent, .endOfInput] := by
  obtain ⟨kind, text, line⟩ := token
  cases kind <;> cases spelled <;> exact ⟨rfl, by simp⟩

theorem text_of_lexeme? {token : Token} {lexeme : Lexeme} (spelled : lexeme? token = some lexeme)
    (noBreak : lexeme.kind ≠ .newline) : token.text.toList = lexeme.slice := by
  obtain ⟨kind, text, line⟩ := token
  cases kind <;> cases spelled <;> first | rfl | exact absurd rfl noBreak

/-! ## Quoted tokens -/

theorem quotedTail_splitQuoted (source : List Char) :
    QuotedTail (splitQuoted source).1 (splitQuoted source).2 := by
  fun_induction splitQuoted source with
  | case1 => exact .ended
  | case2 => exact .endedByBackslash
  | case3 c rest ih => exact .hidden c ih
  | case4 rest => exact .closed rest
  | case5 c rest alone more quote ih =>
      refine .plain quote ?_ ih
      rintro rfl
      cases rest with
      | nil => exact alone rfl rfl
      | cons d rest => exact more d rest rfl rfl

theorem splitQuoted_of_tail {part rest : List Char} (tail : QuotedTail part rest) :
    splitQuoted (part ++ rest) = (part, rest) := by
  induction tail with
  | closed rest => simp [splitQuoted]
  | ended => rfl
  | endedByBackslash => rfl
  | @plain c part rest quote backslash _ ih =>
      rw [List.cons_append, splitQuoted.eq_4 c (part ++ rest) (by simp_all) (by simp_all),
        if_neg quote, ih]
  | hidden c _ ih => simp [splitQuoted, ih]

/-! ## Gaps -/

theorem isFiller_of_isBlank {c : Char} (blank : isBlank c = true) : isFiller c = true := by
  simp only [isBlank, Bool.or_eq_true, beq_iff_eq] at blank
  rcases blank with rfl | rfl <;> decide

theorem isFiller_of_mem_blanks (source : List Char) :
    ∀ c ∈ source.takeWhile isBlank, isFiller c = true :=
  fun _ member => isFiller_of_isBlank (List.mem_takeWhile_imp member)

theorem Tokenization.behindGap {gap source : List Char} {lexemes : List Lexeme}
    (fillers : ∀ c ∈ gap, isFiller c = true) (h : Tokenization source lexemes) :
    Tokenization (gap ++ source) lexemes := by
  have joined {next : List Char} (more : ∀ c ∈ next, isFiller c = true) :
      ∀ c ∈ gap ++ next, isFiller c = true := by
    intro c member
    rcases List.mem_append.mp member with member | member
    · exact fillers c member
    · exact more c member
  cases h with
  | ending more => exact .ending (joined more)
  | lexeme more first behind =>
      simpa only [List.append_assoc] using Tokenization.lexeme (joined more) first behind

theorem Tokenization.front {kind : Kind} {slice rest : List Char} {lexemes : List Lexeme}
    (first : IsLexeme kind slice rest) (behind : Tokenization rest lexemes) :
    Tokenization (slice ++ rest) (⟨kind, slice⟩ :: lexemes) :=
  .lexeme (List.forall_mem_nil _) first behind

end Token

namespace Scanner
open Token

def lexemes (s : Scanner) : List Lexeme := s.tokens.filterMap lexeme?

theorem lexemes_nil (line : Nat) (widths : List Nat) :
    (Scanner.mk [] line widths).lexemes = [] := by
  rw [lexemes, tokens_nil, List.filterMap_eq_nil_iff]
  intro token member
  rcases mem_close member with rfl | rfl <;> rfl

theorem lexemes_of_step {s next : Scanner} {read : List Token} (h : Step s read next) :
    s.lexemes = read.filterMap lexeme? ++ next.lexemes := by
  rw [lexemes, tokens_of_step h, List.filterMap_append, ← lexemes]

theorem lexemes_lineBreak (rest : List Char) (line : Nat) (widths : List Nat) :
    (breakLine line widths rest).1.filterMap lexeme? = [⟨.newline, ['\n']⟩] := by
  have layoutTokens (width : Nat) : (layout width (line + 1) widths).1.filterMap lexeme? = [] := by
    rw [List.filterMap_eq_nil_iff]
    intro token member
    rcases mem_layout member with rfl | rfl <;> rfl
  simp only [breakLine, List.filterMap_cons, layoutTokens]
  rfl

theorem lexeme?_sign {c : Char} {kind : Token.Kind} (sign : Token.Kind.ofSign? c = some kind)
    (line : Nat) : Token.lexeme? ⟨kind, String.ofList [c], line⟩ = some ⟨kind, [c]⟩ := by
  rcases ofSign?_eq_some sign with ⟨rfl, rfl⟩ | ⟨rfl, rfl⟩ | ⟨rfl, rfl⟩ <;> simp [lexeme?]

/-! ## What a step reads -/

/-- A step reads a line break with the indentation behind it, one slice, or a filler. Only the line
break changes the line. -/
inductive Reads : Scanner → List Token → Scanner → Prop
  | lineBreak (rest : List Char) (line : Nat) (widths : List Nat) :
      Reads ⟨'\n' :: rest, line, widths⟩ (breakLine line widths rest).1
        (breakLine line widths rest).2
  | slice {s next : Scanner} {token : Token} {kind : Token.Kind} {slice : List Char}
      (first : IsLexeme kind slice next.rest) (noBreak : kind ≠ .newline)
      (spelled : lexeme? token = some ⟨kind, slice⟩) (split : s.rest = slice ++ next.rest)
      (line : token.line = s.line) (sameLine : next.line = s.line) : Reads s [token] next
  | filler {s next : Scanner} {c : Char} (filler : isFiller c = true)
      (split : s.rest = c :: next.rest) (sameLine : next.line = s.line) : Reads s [] next

theorem Step.reads {s next : Scanner} {read : List Token} (h : Step s read next) :
    Reads s read next := by
  cases h with
  | lineBreak rest line widths => exact .lineBreak rest line widths
  | @sign c kind sign rest line widths =>
      have noBreak : kind ≠ .newline := by
        rcases ofSign?_eq_some sign with ⟨-, rfl⟩ | ⟨-, rfl⟩ | ⟨-, rfl⟩ <;> decide
      exact .slice (.sign sign rest) noBreak (lexeme?_sign sign line) rfl rfl rfl
  | quoted rest line widths =>
      exact .slice (.quoted (quotedTail_splitQuoted rest)) (by decide) (by simp [lexeme?])
        (by simp [splitQuoted_append]) rfl rfl
  | @word c start rest line widths =>
      have parts : ∀ d ∈ rest.takeWhile isWordPart, isWordPart d = true :=
        fun _ => List.mem_takeWhile_imp
      exact .slice (.word start parts (ends_dropWhile isWordPart rest)) (by decide)
        (by simp [lexeme?]) (by simp) rfl rfl
  | filler filler rest line widths => exact .filler filler rfl rfl

theorem Step.not_endOfInput {s next : Scanner} {read : List Token} (h : Step s read next) :
    ∀ token ∈ read, token.kind ≠ .endOfInput := by
  intro token member
  cases h.reads with
  | lineBreak rest line widths => rcases mem_breakLine member with rfl | rfl | rfl <;> simp [bare]
  | slice first noBreak spelled split line sameLine =>
      obtain rfl := List.mem_singleton.mp member
      have := (kind_of_lexeme? spelled).2
      simp_all
  | filler filler split sameLine => cases member

/-! ## Scanning cuts by the rules -/

theorem tokenization_lexemes (s : Scanner) : Tokenization s.rest s.lexemes := by
  refine run_induction (motive := fun s => Tokenization s.rest s.lexemes) ?_ ?_ s
  · intro line widths
    rw [lexemes_nil]
    exact .ending (by simp)
  · intro s read next step ih
    rw [lexemes_of_step step]
    cases step.reads with
    | lineBreak rest line widths =>
        rw [lexemes_lineBreak]
        have behind := ih.behindGap (isFiller_of_mem_blanks rest)
        simp only [breakLine, List.takeWhile_append_dropWhile] at behind
        exact .front (.newline rest) behind
    | slice first noBreak spelled split line sameLine =>
        rw [split, List.filterMap_cons, spelled]
        exact .front first ih
    | @filler s next c filler split sameLine =>
        rw [split]
        exact ih.behindGap (List.forall_mem_singleton.mpr filler)

/-! ## There is no other cutting -/

theorem lexemes_behindGap {gap : List Char} (fillers : ∀ c ∈ gap, isFiller c = true)
    (rest : List Char) (line : Nat) (widths : List Nat) :
    (Scanner.mk (gap ++ rest) line widths).lexemes = (Scanner.mk rest line widths).lexemes := by
  induction gap with
  | nil => rfl
  | cons c gap ih =>
      have filler : isFiller c = true := fillers c (by simp)
      rw [List.cons_append, lexemes_of_step (.filler filler _ line widths), List.filterMap_nil,
        List.nil_append]
      exact ih fun d member => fillers d (List.mem_cons_of_mem c member)

theorem lexemes_of_isLexeme {kind : Token.Kind} {slice rest : List Char}
    (first : IsLexeme kind slice rest) (line : Nat) (widths : List Nat) :
    ∃ line' widths', (Scanner.mk (slice ++ rest) line widths).lexemes =
      ⟨kind, slice⟩ :: (Scanner.mk rest line' widths').lexemes := by
  cases first with
  | newline rest =>
      -- the blanks that are read with the line break are a gap in what stands behind it
      have blanks := isFiller_of_mem_blanks rest
      refine ⟨line + 1, (breakLine line widths rest).2.widths, ?_⟩
      rw [List.cons_append, List.nil_append, lexemes_of_step (.lineBreak rest line widths),
        lexemes_lineBreak, ← List.takeWhile_append_dropWhile (p := isBlank) (l := rest),
        lexemes_behindGap blanks]
      simp [breakLine]
  | sign sign rest =>
      refine ⟨line, widths, ?_⟩
      rw [List.cons_append, List.nil_append, lexemes_of_step (.sign sign rest line widths),
        List.filterMap_cons, lexeme?_sign sign]
      rfl
  | @quoted part rest tail =>
      refine ⟨line, widths, ?_⟩
      rw [List.cons_append, lexemes_of_step (.quoted (part ++ rest) line widths),
        splitQuoted_of_tail tail]
      simp [lexeme?]
  | @word c part rest start parts longest =>
      obtain ⟨taken, left⟩ := longest_span parts longest
      refine ⟨line, widths, ?_⟩
      rw [List.cons_append, lexemes_of_step (.word start (part ++ rest) line widths), taken, left]
      simp [lexeme?]

theorem lexemes_eq_of_tokenization {source : List Char} {found : List Lexeme}
    (cut : Tokenization source found) (line : Nat) (widths : List Nat) :
    (Scanner.mk source line widths).lexemes = found := by
  induction cut generalizing line widths with
  | @ending gap fillers =>
      rw [← List.append_nil gap, lexemes_behindGap fillers, lexemes_nil]
  | @lexeme gap slice rest kind lexemes fillers first _ ih =>
      obtain ⟨line', widths', read⟩ := lexemes_of_isLexeme first line widths
      rw [List.append_assoc, lexemes_behindGap fillers, read, ih]

/-! ## Tokens without a slice -/

theorem text_of_mem_tokens (s : Scanner) : ∀ token ∈ s.tokens, token.kind ≠ .number ∧
    (token.kind ∈ [.indent, .dedent, .newline, .endOfInput] → token.text = "") := by
  refine forall_mem_tokens ?_ ?_ s
  · intro s read next step token member
    cases step.reads with
    | lineBreak rest line widths =>
        rcases mem_breakLine member with rfl | rfl | rfl <;> simp [bare]
    | slice first noBreak spelled split line sameLine =>
        obtain rfl := List.mem_singleton.mp member
        obtain ⟨sameKind, noLayout⟩ := kind_of_lexeme? spelled
        rw [sameKind] at noLayout ⊢
        simp_all
    | filler filler split sameLine => simp at member
  · intro line widths token member
    rcases mem_close member with rfl | rfl <;> simp [bare]

end Scanner

/-- Scanning computes the only tokenization of its source. No token is a number, and tokens that
are no slice of the source have no text. -/
theorem Token.scan_only_tokenization (source : String) :
    (∀ lexemes, Tokenization source.toList lexemes ↔
      lexemes = (Token.scan source).filterMap lexeme?) ∧
    ∀ token ∈ Token.scan source, token.kind ≠ .number ∧
      (token.kind ∈ [.indent, .dedent, .newline, .endOfInput] → token.text = "") := by
  refine ⟨fun lexemes => ⟨?_, ?_⟩, Scanner.text_of_mem_tokens _⟩
  · intro cut
    exact (Scanner.lexemes_eq_of_tokenization cut 1 []).symm
  · rintro rfl
    exact Scanner.tokenization_lexemes (.ofSource source)

end CallScript
