import CallScript.Proofs.ScanRuns

/-!
# Sources joined by a line break

Two sources with a line break between them read as the one and then the other. Whatever indentation
is open at the end of the first, and however the second begins, only the lines of the second move.

* `Scanner.exists_run_join`: the run over the joined source, made of the runs over its parts.
* `Node.parse_join`: reading a joined source.
-/

namespace CallScript
namespace Scanner
open Token

theorem exists_run_join {first : Scanner} {read : List Token} {line : Nat} {widths : List Nat}
    (run : Run first read ⟨[], line, widths⟩)
    (terminated : ∀ token ∈ read, token.kind = .quoted → token.IsTerminated) (source : List Char) :
    ∃ second lines behind widths', Run ⟨source, 1, []⟩ second ⟨[], lines, widths'⟩ ∧
      (∃ widths'', Run (first.before ('\n' :: source)) (read ++ bare .newline line :: behind)
        ⟨[], line + lines, widths''⟩) ∧
      LaidOut (bare .newline line :: behind) ∧
      withoutLayout behind = (withoutLayout second).map (onLine (line + ·)) := by
  obtain ⟨second, lines, widths', runSecond⟩ :=
    exists_run_to_end ⟨source.dropWhile isBlank, 1, []⟩
  have blanks := run_gap (isFiller_of_mem_blanks source) (source.dropWhile isBlank) 1 []
  rw [List.takeWhile_append_dropWhile] at blanks
  let begun := breakLine line widths source
  obtain ⟨others, widths'', runOthers, same⟩ := runSecond.elsewhere line begun.2.widths
  have lineBreak : Run ⟨'\n' :: source, line, widths⟩ (begun.1 ++ others)
      ⟨[], line + lines, widths''⟩ := .step (.lineBreak source line widths) runOthers
  refine ⟨second, lines, begun.1.tail ++ others, widths', blanks.trans runSecond,
    ⟨widths'', (run.before_lineBreak terminated source).trans lineBreak⟩, lineBreak.laidOut.1, ?_⟩
  have raised : withoutLayout begun.1.tail = [] := by
    have all := withoutLayout_lineBreak line widths source
    rw [breakLine, withoutLayout_cons_of_not rfl] at all
    exact List.tail_eq_of_cons_eq all
  rw [withoutLayout_append, raised, List.nil_append, same]

end Scanner

namespace Node
open Token

/-- A joined source is read as its two parts. An error of the first part is the error; that of the
second is on a line as far down as the first part has lines. -/
theorem parse_join (first second : String)
    (terminated : ∀ token ∈ Token.scan first, token.kind = .quoted → token.IsTerminated) :
    Node.parse (Token.scan (first ++ "\n" ++ second)) =
      match Node.parse (Token.scan first), Node.parse (Token.scan second) with
      | .error e, _ => .error e
      | .ok one, .ok other => .ok (.program (one.statements ++ other.statements))
      | .ok _, .error e =>
          .error { e with line := Reading.endLine (Token.scan first) + e.line } := by
  obtain ⟨read, line, widths, run⟩ := Scanner.exists_run_to_end (.ofSource first)
  have quoted : ∀ token ∈ read, token.kind = .quoted → token.IsTerminated := fun token member =>
    terminated token (by rw [Token.scan, run.tokens_eq]; exact List.mem_append_left _ member)
  obtain ⟨others, lines, behind, widths', runSecond, ⟨widths'', joined⟩, laid, same⟩ :=
    Scanner.exists_run_join run quoted second.toList
  have whole : (Scanner.ofSource first).before ('\n' :: second.toList) =
      .ofSource (first ++ "\n" ++ second) := by
    simp [Scanner.before, Scanner.ofSource]
  -- without layout the tokens behind the break are those of the second source
  have moved : (Reading.ofBody (line + lines) behind).program =
      (Reading.ofBody lines others).program.mapError fun e => { e with line := line + e.line } := by
    have isBreak : (bare .newline line).kind = .newline := rfl
    rw [← Grammar.program_lineBreak isBreak, ← Grammar.program_withoutLayout laid,
      withoutLayout_cons_of_not rfl, Grammar.program_lineBreak isBreak, same,
      Grammar.program_onLine (line + ·), Grammar.program_withoutLayout runSecond.laidOut.1]
  rw [whole] at joined
  have parsedFirst : Node.parse (Token.scan first) = (Reading.ofBody line read).program :=
    run.parse_of_end
  have parsedSecond : Node.parse (Token.scan second) = (Reading.ofBody lines others).program :=
    runSecond.parse_of_end
  have lastLine : Reading.endLine (Token.scan first) = line := run.endLine_of_end
  rw [Token.scan, joined.parse_of_end, parsedFirst, parsedSecond, lastLine]
  rcases Grammar.exists_derives_or_unclosed read with ⟨statements, derived⟩ | ⟨left, unclosed⟩
  · rw [Grammar.program_join derived rfl, moved, Reading.program_of_derives line derived]
    cases (Reading.ofBody lines others).program <;> rfl
  · rw [Grammar.program_join_of_unclosed unclosed rfl]
    rw [Reading.program_of_unclosed _ unclosed, Reading.program_of_unclosed _ unclosed]
    rfl

/-- The case of a first source that ends in an indented line, with a text over two lines in it, and
of an error in the second. -/
theorem parse_join_indented :
    let first := "a\n  print(\"x\ny\")"
    let second := "    b(\nc"
    (∀ token ∈ Token.scan first, token.kind = .quoted → token.IsTerminated) ∧
      Node.parse (Token.scan (first ++ "\n" ++ second)) = .error (.unclosed 3) := by
  intro first second
  have tokens : (Token.scan first).filter (·.kind = .quoted) = [⟨.quoted, "\"x\ny\"", 2⟩] := by
    decide +kernel
  have terminated : ∀ token ∈ Token.scan first, token.kind = .quoted → token.IsTerminated := by
    intro token member quoted
    have found : token ∈ (Token.scan first).filter (·.kind = .quoted) := by simp [member, quoted]
    rw [tokens, List.mem_singleton] at found
    subst found
    exact ⟨['x', '\n', 'y'],
      .plain (by decide) (by decide)
        (.plain (by decide) (by decide) (.plain (by decide) (by decide) .nil)), rfl⟩
  have parsed : Node.parse (Token.scan first) =
      .ok (.program [.call "a" [], .call "print" [.text "x\ny"]]) := by decide +kernel
  have failed : Node.parse (Token.scan second) = .error (.unclosed 1) := by decide +kernel
  have lines : Reading.endLine (Token.scan first) = 2 := by decide +kernel
  refine ⟨terminated, ?_⟩
  rw [parse_join first second terminated, parsed, failed, lines]
  rfl

end Node
end CallScript
