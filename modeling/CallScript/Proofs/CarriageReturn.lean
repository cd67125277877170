import CallScript.HostSource
import CallScript.Proofs.ScanRuns
import CallScript.Proofs.SourceLine

/-!
# Carriage returns in front of line breaks

Lines may end with a carriage return and a line break in place of the line break alone. The two runs
of the scanner go side by side: a carriage return is passed over, unless it is inside of a text. So
the tokens are the same, but for the texts that run over the end of a line.

* `Scanner.Step.withReturns`: one step in a source is a run in the source with carriage returns.
* `Scanner.tokens_withReturns`: all tokens, with carriage returns in their texts.
-/

namespace CallScript
namespace Text

/-- The text with a carriage return in front of every line break. -/
def withReturns (text : List Char) : List Char :=
  text.flatMap fun c => if c = '\n' then ['\r', '\n'] else [c]

theorem withReturns_newline (text : List Char) :
    withReturns ('\n' :: text) = '\r' :: '\n' :: withReturns text := rfl

theorem withReturns_cons {c : Char} (noBreak : c ≠ '\n') (text : List Char) :
    withReturns (c :: text) = c :: withReturns text := by
  simp [withReturns, noBreak]

theorem withReturns_append (text more : List Char) :
    withReturns (text ++ more) = withReturns text ++ withReturns more := List.flatMap_append

theorem withReturns_eq_self {text : List Char} (noBreak : '\n' ∉ text) :
    withReturns text = text := by
  induction text with
  | nil => rfl
  | cons c text ih =>
      simp only [List.mem_cons, not_or] at noBreak
      rw [withReturns_cons (Ne.symm noBreak.1), ih noBreak.2]

theorem length_withReturns (text : List Char) :
    (withReturns text).length = text.length + text.count '\n' := by
  induction text with
  | nil => rfl
  | cons c text ih =>
      by_cases isBreak : c = '\n'
      · subst isBreak
        simp only [withReturns_newline, List.length_cons, ih, List.count_cons_self]
        omega
      · simp only [withReturns_cons isBreak, List.length_cons, ih, List.count_cons_of_ne isBreak]
        omega

theorem withReturns_eq_self_iff {text : List Char} : withReturns text = text ↔ '\n' ∉ text := by
  refine ⟨fun same => ?_, withReturns_eq_self⟩
  have lengths := length_withReturns text
  rw [same] at lengths
  exact List.count_eq_zero.mp (by omega)

theorem span_withReturns {p : Char → Bool} (lineBreak : p '\n' = false) (carriage : p '\r' = false)
    (text : List Char) : (withReturns text).takeWhile p = text.takeWhile p ∧
      (withReturns text).dropWhile p = withReturns (text.dropWhile p) := by
  induction text with
  | nil => exact ⟨rfl, rfl⟩
  | cons c text ih =>
      by_cases isBreak : c = '\n'
      · subst isBreak
        simp [withReturns_newline, lineBreak, carriage]
      · rw [withReturns_cons isBreak]
        cases inside : p c <;> simp [inside, ih, withReturns_cons isBreak]

end Text

namespace Token

/-- A text ends at the same quote. Where a backslash hides a line break, it hides the carriage
return in its place. -/
theorem QuotedTail.withReturns {part rest : List Char} (tail : QuotedTail part rest) :
    QuotedTail (Text.withReturns part) (Text.withReturns rest) := by
  have lineBreak {part rest : List Char} (behind : QuotedTail part rest) :
      QuotedTail ('\n' :: part) rest := .plain (by decide) (by decide) behind
  induction tail with
  | closed rest => exact .closed _
  | ended => exact .ended
  | endedByBackslash => exact .endedByBackslash
  | @plain c part rest quote backslash _ ih =>
      by_cases isBreak : c = '\n'
      · subst isBreak
        exact .plain (by decide) (by decide) (lineBreak ih)
      · rw [Text.withReturns_cons isBreak]
        exact .plain quote backslash ih
  | @hidden c part rest _ ih =>
      rw [Text.withReturns_cons (by decide)]
      by_cases isBreak : c = '\n'
      · subst isBreak
        exact .hidden '\r' (lineBreak ih)
      · rw [Text.withReturns_cons isBreak]
        exact .hidden c ih

theorem splitQuoted_withReturns (source : List Char) :
    splitQuoted (Text.withReturns source) =
      (Text.withReturns (splitQuoted source).1, Text.withReturns (splitQuoted source).2) := by
  have split := splitQuoted_of_tail (quotedTail_splitQuoted source).withReturns
  rwa [← Text.withReturns_append, splitQuoted_append] at split

def withReturns (token : Token) : Token :=
  { token with text := String.ofList (Text.withReturns token.text.toList) }

theorem withReturns_eq_self_iff {token : Token} :
    token.withReturns = token ↔ '\n' ∉ token.text.toList := by
  rw [← Text.withReturns_eq_self_iff]
  obtain ⟨kind, text, line⟩ := token
  constructor
  · intro same
    have texts := congrArg (fun token => token.text.toList) same
    simpa [withReturns] using texts
  · intro same
    simp [withReturns, same]

theorem map_withReturns_eq_self_iff {tokens : List Token} :
    tokens.map withReturns = tokens ↔ ∀ token ∈ tokens, '\n' ∉ token.text.toList := by
  induction tokens with
  | nil => simp
  | cons token tokens ih =>
      rw [List.map_cons, List.cons.injEq, ih, withReturns_eq_self_iff, List.forall_mem_cons]

end Token

namespace Scanner
open Token

/-! ## Two runs side by side -/

theorem text_of_mem_breakLine {line : Nat} {widths : List Nat} {rest : List Char} {token : Token}
    (member : token ∈ (breakLine line widths rest).1) :
    token.kind ≠ .quoted ∧ token.text = "" := by
  rcases mem_breakLine member with rfl | rfl | rfl <;> simp [bare]

theorem Step.newline_not_mem_text {s next : Scanner} {read : List Token} (one : Step s read next) :
    ∀ token ∈ read, token.kind ≠ .quoted → '\n' ∉ token.text.toList := by
  intro token member noText
  cases one.reads with
  | lineBreak rest line widths =>
      rw [(text_of_mem_breakLine member).2]
      exact List.not_mem_nil
  | @slice s next other kind slice first noBreak spelled split line sameLine =>
      obtain rfl := List.mem_singleton.mp member
      have inside := count_newline_slice first noBreak spelled
      rw [breaksInside, if_neg noText] at inside
      rw [text_of_lexeme? spelled noBreak]
      exact List.count_eq_zero.mp inside
  | filler filler split sameLine => cases member

theorem newline_not_mem_text (s : Scanner) :
    ∀ token ∈ s.tokens, token.kind ≠ .quoted → '\n' ∉ token.text.toList := by
  refine forall_mem_tokens (fun s read next one => one.newline_not_mem_text) ?_ s
  intro line widths token member noText
  rcases mem_close member with rfl | rfl <;> simp [bare]

def withReturns (s : Scanner) : Scanner := { s with rest := Text.withReturns s.rest }

theorem breakLine_withReturns (line : Nat) (widths : List Nat) (rest : List Char) :
    breakLine line widths (Text.withReturns rest) =
      ((breakLine line widths rest).1, (breakLine line widths rest).2.withReturns) := by
  obtain ⟨blanks, behind⟩ := Text.span_withReturns isBlank_newline (by decide) rest
  simp only [breakLine, blanks, behind, withReturns]

theorem Step.withReturns {s next : Scanner} {read : List Token} (one : Step s read next) :
    Run s.withReturns (read.map Token.withReturns) next.withReturns := by
  have alone {s next : Scanner} {read : List Token} (other : Step s read next) :
      Run s read next := by
    simpa using Run.step other (.done next)
  -- a token that is no text stays what it is
  have same (noTexts : ∀ token ∈ read, token.kind ≠ .quoted) :
      read.map Token.withReturns = read := map_withReturns_eq_self_iff.mpr fun token member =>
    one.newline_not_mem_text token member (noTexts token member)
  cases one with
  | lineBreak rest line widths =>
      have noTexts : ∀ token ∈ (breakLine line widths rest).1, token.kind ≠ .quoted :=
        fun token member => (text_of_mem_breakLine member).1
      have carriage : isFiller '\r' = true := by decide
      have broken := Step.lineBreak (Text.withReturns rest) line widths
      rw [breakLine_withReturns] at broken
      rw [same noTexts]
      exact .step (.filler carriage _ line widths) (alone broken)
  | @sign c kind sign rest line widths =>
      have noBreak : c ≠ '\n' := by
        rintro rfl
        cases sign
      rw [same (by rcases ofSign?_eq_some sign with ⟨-, rfl⟩ | ⟨-, rfl⟩ | ⟨-, rfl⟩ <;> simp)]
      have step := Step.sign sign (Text.withReturns rest) line widths
      rw [← Text.withReturns_cons noBreak] at step
      exact alone step
  | quoted rest line widths =>
      have step := Step.quoted (Text.withReturns rest) line widths
      rw [splitQuoted_withReturns, ← Text.withReturns_cons (by decide),
        ← Text.withReturns_cons (by decide)] at step
      simpa [Token.withReturns, Scanner.withReturns] using alone step
  | @word c start rest line widths =>
      have noBreak : c ≠ '\n' := by
        rintro rfl
        simp [isWordStart_newline] at start
      obtain ⟨part, behind⟩ := Text.span_withReturns isWordPart_newline (by decide +kernel) rest
      rw [same (by simp)]
      have step := Step.word start (Text.withReturns rest) line widths
      rw [part, behind, ← Text.withReturns_cons noBreak] at step
      exact alone step
  | @filler c filler rest line widths =>
      have step := Step.filler filler (Text.withReturns rest) line widths
      rw [← Text.withReturns_cons (isFiller_iff.mp filler).2.2.2] at step
      exact alone step

theorem Run.withReturns {s last : Scanner} {read : List Token} (run : Run s read last) :
    Run s.withReturns (read.map Token.withReturns) last.withReturns := by
  induction run with
  | done s => exact .done _
  | step one _ ih =>
      rw [List.map_append]
      exact one.withReturns.trans ih

theorem tokens_withReturns (s : Scanner) :
    s.withReturns.tokens = s.tokens.map Token.withReturns := by
  obtain ⟨read, line, widths, run⟩ := exists_run_to_end s
  have closing : (Scanner.mk [] line widths).close.map Token.withReturns =
      (Scanner.mk [] line widths).close :=
    map_withReturns_eq_self_iff.mpr fun token member => by
      rcases mem_close member with rfl | rfl <;> simp [bare]
  have ended : (Scanner.mk [] line widths).withReturns = ⟨[], line, widths⟩ := rfl
  rw [run.withReturns.tokens_eq, run.tokens_eq, List.map_append, ended, tokens_nil, closing]

end Scanner

namespace Token

/-! ## Whole sources -/

theorem scan_withReturns (source : String) :
    Token.scan (String.ofList (Text.withReturns source.toList)) =
      (Token.scan source).map withReturns := by
  have start : Scanner.ofSource (String.ofList (Text.withReturns source.toList)) =
      (Scanner.ofSource source).withReturns := by
    simp [Scanner.ofSource, Scanner.withReturns]
  rw [Token.scan, start, Scanner.tokens_withReturns, ← Token.scan]

/-- With carriage returns in front of its line breaks, a source has the same tokens exactly if none
of its texts runs over the end of a line. Then it is also written out as the same host source. -/
theorem scan_withReturns_iff (source : String) :
    (Token.scan (String.ofList (Text.withReturns source.toList)) = Token.scan source ↔
      InOneLine (Token.scan source)) ∧
    (InOneLine (Token.scan source) → ∀ target,
      emit (String.ofList (Text.withReturns source.toList)) target = emit source target) := by
  have same : Token.scan (String.ofList (Text.withReturns source.toList)) = Token.scan source ↔
      InOneLine (Token.scan source) := by
    rw [scan_withReturns, map_withReturns_eq_self_iff]
    constructor
    · intro noBreak token member _
      exact noBreak token member
    · intro inOneLine token member
      by_cases quoted : token.kind = .quoted
      · exact inOneLine token member quoted
      · exact Scanner.newline_not_mem_text _ token member quoted
  refine ⟨same, fun inOneLine target => ?_⟩
  rw [emit, emit, same.mpr inOneLine]

/-- The case of a carriage return behind a text, behind blanks and inside an argument list. -/
theorem scan_withReturns_indented :
    let source := "f(\"a\"\n \t\n  g)\n"
    let returned := "f(\"a\"\r\n \t\r\n  g)\r\n"
    InOneLine (Token.scan source) ∧ Token.scan returned = Token.scan source ∧
      emit returned .go = emit source .go := by
  intro source returned
  have quoted : (Token.scan source).filter (·.kind = .quoted) = [⟨.quoted, "\"a\"", 1⟩] := by
    decide +kernel
  have inOneLine : InOneLine (Token.scan source) := by
    intro token member isQuoted
    have found : token ∈ (Token.scan source).filter (·.kind = .quoted) := by simp [member, isQuoted]
    rw [quoted, List.mem_singleton] at found
    subst found
    decide
  have same : String.ofList (Text.withReturns source.toList) = returned := by decide +kernel
  obtain ⟨tokens, hosts⟩ := scan_withReturns_iff source
  rw [same] at tokens hosts
  exact ⟨inOneLine, tokens.mpr inOneLine, hosts inOneLine .go⟩

end Token
end CallScript
