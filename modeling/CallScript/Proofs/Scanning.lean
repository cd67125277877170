import CallScript.Token.Scan

/-!
# Runs of the scanner

What one step of the scanner can do, as a relation with one rule for each kind of step, and the
induction over the steps of a run.

* `Scanner.step?_eq_some_iff`: the relation is the step function.
* `Scanner.run_induction`: what the end of the source has and every step keeps holds of a run.
-/

namespace CallScript

def Token.Kind.ofSign? : Char → Option Token.Kind
  | '(' => some .openParen
  | ')' => some .closeParen
  | ':' => some .colon
  | _ => none

/-- A character that begins no token. -/
def isFiller (c : Char) : Bool := !(isWordStart c || ['(', ')', ':', '"', '\n'].contains c)

/-! ## Classes of characters -/

theorem ofSign?_eq_some {c : Char} {kind : Token.Kind} (sign : Token.Kind.ofSign? c = some kind) :
    (c = '(' ∧ kind = .openParen) ∨ (c = ')' ∧ kind = .closeParen) ∨
      (c = ':' ∧ kind = .colon) := by
  unfold Token.Kind.ofSign? at sign
  split at sign <;> simp_all

theorem isFiller_iff {c : Char} : isFiller c = true ↔
    isWordStart c = false ∧ Token.Kind.ofSign? c = none ∧ c ≠ '"' ∧ c ≠ '\n' := by
  have signs : Token.Kind.ofSign? c = none ↔ c ≠ '(' ∧ c ≠ ')' ∧ c ≠ ':' := by
    unfold Token.Kind.ofSign?
    split <;> simp_all
  simp only [isFiller, signs, Bool.not_eq_true', Bool.or_eq_false_iff, List.contains_eq_mem,
    decide_eq_false_iff_not, List.mem_cons, List.not_mem_nil, or_false, not_or, ne_eq, and_assoc]

theorem isWordStart_quote : isWordStart '"' = false := by decide

theorem isWordStart_newline : isWordStart '\n' = false := by decide

theorem isWordPart_newline : isWordPart '\n' = false := by decide

theorem isWordPart_of_isWordStart {c : Char} (start : isWordStart c = true) :
    isWordPart c = true := by
  simp only [isWordStart] at start
  simp [isWordPart, start]

theorem isBlank_newline : isBlank '\n' = false := by decide

namespace Scanner

/-! ## One step -/

/-- One step of the scanner: the scanner before it, the tokens it reads, the scanner after it. -/
inductive Step : Scanner → List Token → Scanner → Prop
  | lineBreak (rest : List Char) (line : Nat) (widths : List Nat) :
      Step ⟨'\n' :: rest, line, widths⟩ (breakLine line widths rest).1
        (breakLine line widths rest).2
  | sign {c : Char} {kind : Token.Kind} (sign : Token.Kind.ofSign? c = some kind)
      (rest : List Char) (line : Nat) (widths : List Nat) :
      Step ⟨c :: rest, line, widths⟩ [⟨kind, String.ofList [c], line⟩] ⟨rest, line, widths⟩
  | quoted (rest : List Char) (line : Nat) (widths : List Nat) :
      Step ⟨'"' :: rest, line, widths⟩
        [⟨.quoted, String.ofList ('"' :: (splitQuoted rest).1), line⟩]
        ⟨(splitQuoted rest).2, line, widths⟩
  | word {c : Char} (start : isWordStart c = true) (rest : List Char) (line : Nat)
      (widths : List Nat) :
      Step ⟨c :: rest, line, widths⟩
        [⟨.word, String.ofList (c :: rest.takeWhile isWordPart), line⟩]
        ⟨rest.dropWhile isWordPart, line, widths⟩
  | filler {c : Char} (filler : isFiller c = true) (rest : List Char) (line : Nat)
      (widths : List Nat) :
      Step ⟨c :: rest, line, widths⟩ [] ⟨rest, line, widths⟩

theorem step?_of_step {s next : Scanner} {read : List Token} (h : Step s read next) :
    s.step? = some (read, next) := by
  cases h with
  | lineBreak rest line widths => rfl
  | sign sign rest line widths =>
      rcases ofSign?_eq_some sign with ⟨rfl, rfl⟩ | ⟨rfl, rfl⟩ | ⟨rfl, rfl⟩ <;> rfl
  | quoted rest line widths => rfl
  | @word c start rest line widths =>
      have other (d : Char) (no : isWordStart d = false) : c ≠ d := by
        rintro rfl
        simp [no] at start
      simp [step?, start, other '\n' (by decide), other '(' (by decide), other ')' (by decide),
        other ':' (by decide), other '"' (by decide)]
  | filler filler rest line widths =>
      simp only [isFiller, Bool.not_eq_true', Bool.or_eq_false_iff, List.contains_eq_mem,
        decide_eq_false_iff_not, List.mem_cons, List.not_mem_nil, or_false, not_or] at filler
      simp [step?, filler]

theorem step_of_step? {s next : Scanner} {read : List Token}
    (h : s.step? = some (read, next)) : Step s read next := by
  obtain ⟨source, line, widths⟩ := s
  cases source with
  | nil => simp [step?] at h
  | cons c rest =>
      -- the relation has a rule for every character, and the step is a function
      have rule : ∃ read' next', Step ⟨c :: rest, line, widths⟩ read' next' := by
        by_cases start : isWordStart c = true
        · exact ⟨_, _, .word start rest line widths⟩
        cases sign : Token.Kind.ofSign? c with
        | some kind => exact ⟨_, _, .sign sign rest line widths⟩
        | none =>
            by_cases quote : c = '"'
            · subst quote
              exact ⟨_, _, .quoted rest line widths⟩
            by_cases newline : c = '\n'
            · subst newline
              exact ⟨_, _, .lineBreak rest line widths⟩
            exact ⟨_, _, .filler (isFiller_iff.mpr ⟨by simpa using start, sign, quote, newline⟩)
              rest line widths⟩
      obtain ⟨read', next', found⟩ := rule
      have same := step?_of_step found
      rw [h, Option.some.injEq, Prod.mk.injEq] at same
      obtain ⟨rfl, rfl⟩ := same
      exact found

theorem step?_eq_some_iff {s next : Scanner} {read : List Token} :
    s.step? = some (read, next) ↔ Step s read next := ⟨step_of_step?, step?_of_step⟩

theorem rest_of_step?_eq_none {s : Scanner} (h : s.step? = none) : s.rest = [] := by
  obtain ⟨source, line, widths⟩ := s
  cases source with
  | nil => rfl
  | cons c rest =>
      simp only [step?] at h
      repeat' split at h
      all_goals simp at h

theorem Step.rest_suffix {s next : Scanner} {read : List Token} (h : Step s read next) :
    ∃ taken, taken ≠ [] ∧ s.rest = taken ++ next.rest := by
  cases h with
  | lineBreak rest line widths =>
      refine ⟨'\n' :: rest.takeWhile isBlank, by simp, ?_⟩
      simp [breakLine, List.takeWhile_append_dropWhile]
  | @sign c kind sign rest line widths => exact ⟨[c], by simp, rfl⟩
  | quoted rest line widths =>
      exact ⟨'"' :: (splitQuoted rest).1, by simp, by simp [splitQuoted_append]⟩
  | @word c start rest line widths =>
      refine ⟨c :: rest.takeWhile isWordPart, by simp, ?_⟩
      simp [List.takeWhile_append_dropWhile]
  | @filler c filler rest line widths => exact ⟨[c], by simp, rfl⟩

/-! ## Runs -/

theorem tokens_of_step {s next : Scanner} {read : List Token} (h : Step s read next) :
    s.tokens = read ++ next.tokens := tokens_of_step?_eq_some (step?_of_step h)

theorem tokens_nil (line : Nat) (widths : List Nat) :
    (Scanner.mk [] line widths).tokens = (Scanner.mk [] line widths).close :=
  tokens_of_step?_eq_none rfl

/-- Induction over the steps of a run, from its end. -/
theorem run_induction {motive : Scanner → Prop}
    (ending : ∀ line widths, motive ⟨[], line, widths⟩)
    (step : ∀ s read next, Step s read next → motive next → motive s) (s : Scanner) :
    motive s := by
  cases h : s.step? with
  | none =>
      obtain ⟨source, line, widths⟩ := s
      obtain rfl : source = [] := rest_of_step?_eq_none h
      exact ending line widths
  | some result =>
      obtain ⟨read, next⟩ := result
      have shorter := step?_shorter h
      exact step s read next (step_of_step? h) (run_induction ending step next)
termination_by s.rest.length

theorem forall_mem_tokens {P : Token → Prop}
    (step : ∀ s read next, Step s read next → ∀ token ∈ read, P token)
    (ending : ∀ line widths, ∀ token ∈ (Scanner.mk [] line widths).close, P token) (s : Scanner) :
    ∀ token ∈ s.tokens, P token := by
  refine run_induction (motive := fun s => ∀ token ∈ s.tokens, P token) ?_ ?_ s
  · intro line widths
    rw [tokens_nil]
    exact ending line widths
  · intro s read next h ih token member
    rw [tokens_of_step h, List.mem_append] at member
    rcases member with member | member
    · exact step s read next h token member
    · exact ih token member

theorem mem_layout {width line : Nat} {widths : List Nat} {token : Token}
    (member : token ∈ (layout width line widths).1) :
    token = .bare .indent line ∨ token = .bare .dedent line := by
  unfold layout at member
  split at member
  · simp_all
  · simp only [List.mem_map] at member
    obtain ⟨-, -, rfl⟩ := member
    exact .inr rfl

theorem mem_breakLine {line : Nat} {widths : List Nat} {rest : List Char} {token : Token}
    (member : token ∈ (breakLine line widths rest).1) :
    token = .bare .newline line ∨ token = .bare .indent (line + 1) ∨
      token = .bare .dedent (line + 1) :=
  (List.mem_cons.mp member).imp_right mem_layout

theorem mem_close {s : Scanner} {token : Token} (member : token ∈ s.close) :
    token = .bare .dedent s.line ∨ token = .bare .endOfInput s.line := by
  simp only [close, List.mem_append, List.mem_map, List.mem_singleton] at member
  rcases member with ⟨-, -, rfl⟩ | rfl
  · exact .inl rfl
  · exact .inr rfl

end Scanner
end CallScript
