import CallScript.Proofs.Grammar
import CallScript.Proofs.Tokenization

/-!
# The lines of tokens

A token stands in the source line in which its first character is. Every token of a scan is paired
here with the source text before it, so that its line is one more than the line breaks in that text.
The line that scanning notes falls behind by the line breaks inside the quoted tokens before it.

* `Scanner.laid_places`: the tokens of a scan stand where their places say.
* `Scanner.counted_places`: how far the line noted is behind, token by token.
* `Scanner.exists_offence`: the token at which an argument list breaks off, and its place.
-/

namespace CallScript
namespace Token

/-! ## Places -/

/-- A token and the source text before it. -/
structure Place where
  before : List Char
  token : Token
deriving DecidableEq

def Place.sourceLine (place : Place) : Nat := 1 + place.before.count '\n'

/-- Tokens with the places at which a source has them, given the text before the source. A change of
indentation stands behind the blanks of its line, and the end of input behind the source. -/
inductive Laid : List Char → List Char → List Place → Prop
  | ending {before gap : List Char} {closing : List Token} {last : Token}
      (fillers : ∀ c ∈ gap, isFiller c = true) (dedents : ∀ token ∈ closing, token.kind = .dedent)
      (isLast : last.kind = .endOfInput) :
      Laid before gap ((closing ++ [last]).map (Place.mk (before ++ gap)))
  | lexeme {before gap slice rest : List Char} {kind : Kind} {token : Token} {places : List Place}
      (fillers : ∀ c ∈ gap, isFiller c = true) (first : IsLexeme kind slice rest)
      (noBreak : kind ≠ .newline) (spelled : lexeme? token = some ⟨kind, slice⟩)
      (behind : Laid (before ++ gap ++ slice) rest places) :
      Laid before (gap ++ slice ++ rest) (⟨before ++ gap, token⟩ :: places)
  | lineBreak {before gap blanks rest : List Char} {token : Token} {raised : List Token}
      {places : List Place} (fillers : ∀ c ∈ gap, isFiller c = true)
      (indentation : ∀ c ∈ blanks, isBlank c = true) (text : ∀ c ∈ rest.head?, isBlank c = false)
      (isBreak : token.kind = .newline) (layout : ∀ token ∈ raised, token.kind ∈ [.indent, .dedent])
      (behind : Laid (before ++ gap ++ '\n' :: blanks) rest places) :
      Laid before (gap ++ '\n' :: blanks ++ rest) (⟨before ++ gap, token⟩ ::
        (raised.map (Place.mk (before ++ gap ++ '\n' :: blanks)) ++ places))

theorem Laid.behindGap {before gap rest : List Char} {places : List Place}
    (fillers : ∀ c ∈ gap, isFiller c = true) (h : Laid (before ++ gap) rest places) :
    Laid before (gap ++ rest) places := by
  have joined {next : List Char} (more : ∀ c ∈ next, isFiller c = true) :
      ∀ c ∈ gap ++ next, isFiller c = true :=
    fun c member => (List.mem_append.mp member).elim (fillers c) (more c)
  cases h with
  | ending more dedents isLast =>
      simpa only [List.append_assoc] using Laid.ending (joined more) dedents isLast
  | lexeme more first noBreak spelled behind =>
      have laid := Laid.lexeme (joined more) first noBreak spelled
        (by simpa only [List.append_assoc] using behind)
      simpa only [List.append_assoc] using laid
  | lineBreak more indentation text isBreak layout behind =>
      have laid := Laid.lineBreak (joined more) indentation text isBreak layout
        (by simpa only [List.append_assoc] using behind)
      simpa only [List.append_assoc] using laid

theorem Laid.front {before slice rest : List Char} {kind : Kind} {token : Token}
    {places : List Place} (first : IsLexeme kind slice rest) (noBreak : kind ≠ .newline)
    (spelled : lexeme? token = some ⟨kind, slice⟩)
    (behind : Laid (before ++ slice) rest places) :
    Laid before (slice ++ rest) (⟨before, token⟩ :: places) := by
  have noGap : Laid (before ++ [] ++ slice) rest places := by rwa [List.append_nil]
  simpa using Laid.lexeme (List.forall_mem_nil _) first noBreak spelled noGap

/-! ## Line breaks inside tokens -/

def breaksInside (token : Token) : Nat :=
  if token.kind = .quoted then token.text.toList.count '\n' else 0

def hiddenBreaks : List Place → Nat
  | [] => 0
  | place :: behind => place.token.breaksInside + hiddenBreaks behind

/-- All quoted tokens end in the line in which they begin. -/
def InOneLine (tokens : List Token) : Prop :=
  ∀ token ∈ tokens, token.kind = .quoted → '\n' ∉ token.text.toList

theorem breaksInside_eq_zero_iff {token : Token} :
    token.breaksInside = 0 ↔ (token.kind = .quoted → '\n' ∉ token.text.toList) := by
  by_cases quoted : token.kind = .quoted <;> simp [breaksInside, quoted, List.count_eq_zero]

theorem hiddenBreaks_eq_zero_iff {places : List Place} :
    hiddenBreaks places = 0 ↔ InOneLine (places.map Place.token) := by
  induction places with
  | nil => simp [hiddenBreaks, InOneLine]
  | cons place places ih =>
      rw [hiddenBreaks, Nat.add_eq_zero_iff, breaksInside_eq_zero_iff, ih]
      simp only [InOneLine, List.map_cons, List.forall_mem_cons]

/-- The line of every token, together with the line breaks that the tokens before it hide, is the
line of its place. The first argument counts the breaks hidden before the list. -/
def Counted : Nat → List Place → Prop
  | _, [] => True
  | hidden, place :: behind =>
      place.token.line + hidden = place.sourceLine ∧
        Counted (hidden + place.token.breaksInside) behind

theorem counted_append {hidden : Nat} {places behind : List Place} :
    Counted hidden (places ++ behind) ↔
      Counted hidden places ∧ Counted (hidden + hiddenBreaks places) behind := by
  induction places generalizing hidden with
  | nil => simp [Counted, hiddenBreaks]
  | cons place places ih =>
      simp only [List.cons_append, Counted, ih, and_assoc, hiddenBreaks, Nat.add_assoc]

theorem counted_of_forall {hidden : Nat} {places : List Place}
    (h : ∀ place ∈ places, place.token.line + hidden = place.sourceLine ∧
      place.token.breaksInside = 0) : Counted hidden places ∧ hiddenBreaks places = 0 := by
  induction places with
  | nil => simp [Counted, hiddenBreaks]
  | cons place places ih =>
      obtain ⟨line, noBreaks⟩ := h place (by simp)
      obtain ⟨counted, none⟩ := ih fun other member => h other (List.mem_cons_of_mem place member)
      refine ⟨⟨line, by simpa [noBreaks] using counted⟩, ?_⟩
      simpa [hiddenBreaks, noBreaks] using none

end Token

namespace Scanner
open Token

/-! ## Scanning with places -/

/-- The places of the tokens of one step: at its first character, or behind its last. -/
def placesRead (before behind : List Char) (read : List Token) : List Place :=
  read.map fun token => ⟨if token.kind ∈ [.indent, .dedent] then behind else before, token⟩

/-- The tokens from here to the end with their places, given the text before. -/
def places (before : List Char) (s : Scanner) : List Place :=
  match _h : s.step? with
  | none => s.close.map (Place.mk before)
  | some (read, next) =>
      let behind := before ++ s.rest.take (s.rest.length - next.rest.length)
      placesRead before behind read ++ places behind next
termination_by s.rest.length
decreasing_by exact step?_shorter (by assumption)

theorem places_nil (before : List Char) (line : Nat) (widths : List Nat) :
    (Scanner.mk [] line widths).places before =
      (Scanner.mk [] line widths).close.map (Place.mk before) := by
  have ended : (Scanner.mk [] line widths).step? = none := rfl
  rw [places]
  split <;> simp_all

theorem places_of_step {s next : Scanner} {read : List Token} (h : Step s read next)
    {taken : List Char} (split : s.rest = taken ++ next.rest) (before : List Char) :
    s.places before =
      placesRead before (before ++ taken) read ++ next.places (before ++ taken) := by
  have found := step?_of_step h
  have cut : s.rest.take (s.rest.length - next.rest.length) = taken := by simp [split]
  rw [places]
  split
  · simp_all
  · next read' next' found' =>
      rw [found, Option.some.injEq, Prod.mk.injEq] at found'
      obtain ⟨rfl, rfl⟩ := found'
      rw [cut]

theorem places_map_token (s : Scanner) (before : List Char) :
    (s.places before).map Place.token = s.tokens := by
  refine run_induction
    (motive := fun s => ∀ before, (s.places before).map Place.token = s.tokens) ?_ ?_ s before
  · intro line widths before
    simp [places_nil, tokens_nil, Function.comp_def]
  · intro s read next step ih before
    obtain ⟨taken, -, split⟩ := step.rest_suffix
    rw [places_of_step step split, tokens_of_step step, List.map_append, ih]
    simp [placesRead, Function.comp_def]

/-! ## Tokens stand at their places -/

theorem laid_nil (before : List Char) (line : Nat) (widths : List Nat) :
    Laid before [] ((Scanner.mk [] line widths).places before) := by
  have dedents : ∀ token ∈ widths.map fun _ => Token.bare .dedent line, token.kind = .dedent := by
    simp [bare]
  have isLast : (Token.bare .endOfInput line).kind = .endOfInput := rfl
  have laid : Laid before [] _ := .ending (List.forall_mem_nil _) dedents isLast
  simpa [places_nil, close] using laid

theorem places_of_slice {s next : Scanner} {token : Token} (step : Step s [token] next)
    {lexeme : Lexeme} (spelled : lexeme? token = some lexeme)
    (split : s.rest = lexeme.slice ++ next.rest) (before : List Char) :
    s.places before = ⟨before, token⟩ :: next.places (before ++ lexeme.slice) := by
  have noLayout : token.kind ∉ [.indent, .dedent] := by
    have := (kind_of_lexeme? spelled).2
    simp_all
  rw [places_of_step step split]
  simp only [placesRead, List.map_cons, List.map_nil, if_neg noLayout, List.singleton_append]

theorem places_of_filler {s next : Scanner} {c : Char} (step : Step s [] next)
    (split : s.rest = c :: next.rest) (before : List Char) :
    s.places before = next.places (before ++ [c]) := by
  have taken : s.rest = [c] ++ next.rest := split
  rw [places_of_step step taken]
  rfl

theorem kind_of_mem_layout {width line : Nat} {widths : List Nat} {token : Token}
    (member : token ∈ (layout width line widths).1) : token.kind ∈ [.indent, .dedent] := by
  rcases mem_layout member with rfl | rfl <;> simp [bare]

theorem places_lineBreak (before rest : List Char) (line : Nat) (widths : List Nat) :
    (Scanner.mk ('\n' :: rest) line widths).places before =
      ⟨before, .bare .newline line⟩ ::
        ((layout ((rest.takeWhile isBlank).count ' ') (line + 1) widths).1.map
            (Place.mk (before ++ '\n' :: rest.takeWhile isBlank)) ++
          (breakLine line widths rest).2.places (before ++ '\n' :: rest.takeWhile isBlank)) := by
  have split : '\n' :: rest = ('\n' :: rest.takeWhile isBlank) ++ rest.dropWhile isBlank := by simp
  rw [places_of_step (.lineBreak rest line widths) split]
  simp only [placesRead, breakLine, List.map_cons, List.cons_append, List.cons.injEq,
    List.append_cancel_right_eq]
  refine ⟨by simp [bare], List.map_congr_left fun token member => ?_⟩
  rw [if_pos (kind_of_mem_layout member)]

theorem places_of_lineBreak (before rest : List Char) (line : Nat) (widths : List Nat) :
    ∃ raised : List Token,
      (∀ token ∈ raised, token.line = line + 1 ∧ token.kind ∈ [.indent, .dedent]) ∧
      (Scanner.mk ('\n' :: rest) line widths).places before =
        ⟨before, .bare .newline line⟩ ::
          (raised.map (Place.mk (before ++ '\n' :: rest.takeWhile isBlank)) ++
            (breakLine line widths rest).2.places (before ++ '\n' :: rest.takeWhile isBlank)) := by
  refine ⟨_, fun token member => ⟨?_, kind_of_mem_layout member⟩,
    places_lineBreak before rest line widths⟩
  rcases mem_layout member with rfl | rfl <;> rfl

theorem laid_places (s : Scanner) (before : List Char) : Laid before s.rest (s.places before) := by
  refine run_induction (motive := fun s => ∀ before, Laid before s.rest (s.places before))
    ?_ ?_ s before
  · intro line widths before
    exact laid_nil before line widths
  · intro s read next step ih before
    cases step.reads with
    | lineBreak rest line widths =>
        obtain ⟨raised, layout, placed⟩ := places_of_lineBreak before rest line widths
        have behind : Laid (before ++ [] ++ '\n' :: rest.takeWhile isBlank) (rest.dropWhile isBlank)
            ((breakLine line widths rest).2.places (before ++ '\n' :: rest.takeWhile isBlank)) := by
          rw [List.append_nil]
          exact ih (before ++ '\n' :: rest.takeWhile isBlank)
        have isBreak : (Token.bare .newline line).kind = .newline := rfl
        have laid := Laid.lineBreak (List.forall_mem_nil _)
          (fun c member => List.mem_takeWhile_imp member) (ends_dropWhile isBlank rest) isBreak
          (fun token member => (layout token member).2) behind
        simpa [placed] using laid
    | slice first noBreak spelled split line sameLine =>
        rw [places_of_slice step spelled split, split]
        exact .front first noBreak spelled (ih _)
    | @filler s next c filler split sameLine =>
        rw [places_of_filler step split, split]
        exact .behindGap (List.forall_mem_singleton.mpr filler) (ih _)

/-! ## How far the line noted is behind -/

theorem breaksInside_of_layout {token : Token} (layout : token.kind ∈ [.indent, .dedent]) :
    token.breaksInside = 0 := by
  have other : token.kind ≠ .quoted := by
    intro quoted
    simp [quoted] at layout
  simp [breaksInside, other]

theorem count_lineBreak (before rest : List Char) :
    (before ++ '\n' :: rest.takeWhile isBlank).count '\n' = before.count '\n' + 1 := by
  have noBreaks : '\n' ∉ rest.takeWhile isBlank := fun member => by
    simpa [isBlank_newline] using List.mem_takeWhile_imp member
  rw [List.count_append, List.count_cons_self, List.count_eq_zero.mpr noBreaks]

theorem count_newline_slice {token : Token} {kind : Token.Kind} {slice rest : List Char}
    (first : IsLexeme kind slice rest) (noBreak : kind ≠ .newline)
    (spelled : lexeme? token = some ⟨kind, slice⟩) :
    slice.count '\n' = token.breaksInside := by
  have sameKind := (kind_of_lexeme? spelled).1
  have sameText := text_of_lexeme? spelled noBreak
  cases first with
  | newline => exact absurd rfl noBreak
  | @sign c kind sign =>
      rcases ofSign?_eq_some sign with ⟨rfl, rfl⟩ | ⟨rfl, rfl⟩ | ⟨rfl, rfl⟩ <;>
        simp [breaksInside, sameKind]
  | quoted tail => simp only [breaksInside, sameKind, if_true, sameText]
  | @word c part rest start parts longest =>
      have noBreaks : '\n' ∉ c :: part := by
        rintro (- | ⟨-, member⟩)
        · simp [isWordStart_newline] at start
        · simpa [isWordPart_newline] using parts _ member
      simp [breaksInside, sameKind, List.count_eq_zero.mpr noBreaks]

theorem counted_places (s : Scanner) (before : List Char) (hidden : Nat)
    (inStep : s.line + hidden = 1 + before.count '\n') : Counted hidden (s.places before) := by
  refine run_induction (motive := fun s => ∀ before hidden,
    s.line + hidden = 1 + before.count '\n' → Counted hidden (s.places before)) ?_ ?_ s before
    hidden inStep
  -- the line noted and the breaks hidden so far together keep step with the text read
  · intro line widths before hidden inStep
    rw [places_nil]
    refine (counted_of_forall fun place member => ?_).1
    obtain ⟨token, closing, rfl⟩ := List.mem_map.mp member
    rcases mem_close closing with rfl | rfl <;> exact ⟨inStep, rfl⟩
  · intro s read next step ih before hidden inStep
    cases step.reads with
    | lineBreak rest line widths =>
        obtain ⟨raised, layout, placed⟩ := places_of_lineBreak before rest line widths
        have behind : line + 1 + hidden =
            1 + (before ++ '\n' :: rest.takeWhile isBlank).count '\n' := by
          rw [count_lineBreak]
          dsimp only at inStep
          omega
        have right : ∀ place ∈ raised.map (Place.mk (before ++ '\n' :: rest.takeWhile isBlank)),
            place.token.line + hidden = place.sourceLine ∧ place.token.breaksInside = 0 := by
          intro place member
          obtain ⟨token, raises, rfl⟩ := List.mem_map.mp member
          obtain ⟨tokenLine, kind⟩ := layout token raises
          exact ⟨tokenLine ▸ behind, breaksInside_of_layout kind⟩
        obtain ⟨counted, none⟩ := counted_of_forall right
        rw [placed]
        refine ⟨inStep, counted_append.mpr ⟨counted, ?_⟩⟩
        rw [none]
        exact ih _ _ behind
    | @slice s next token kind slice first noBreak spelled split line sameLine =>
        rw [places_of_slice step spelled split]
        refine ⟨line ▸ inStep, ih _ _ ?_⟩
        rw [sameLine, List.count_append, count_newline_slice first noBreak spelled]
        dsimp only
        omega
    | @filler s next c filler split sameLine =>
        rw [places_of_filler step split]
        have noBreak : c ≠ '\n' := (isFiller_iff.mp filler).2.2.2
        refine ih _ _ ?_
        rw [sameLine, List.count_append, List.count_singleton, if_neg (by simpa using noBreak)]
        exact inStep

/-! ## Parse errors -/

theorem tokens_eq_concat (s : Scanner) :
    ∃ tokens last, s.tokens = tokens ++ [last] ∧ last.kind = .endOfInput ∧
      ∀ token ∈ tokens, token.kind ≠ .endOfInput := by
  refine run_induction (motive := fun s => ∃ tokens last, s.tokens = tokens ++ [last] ∧
    last.kind = .endOfInput ∧ ∀ token ∈ tokens, token.kind ≠ .endOfInput) ?_ ?_ s
  · intro line widths
    exact ⟨_, _, tokens_nil line widths, rfl, by simp [bare]⟩
  · rintro s read next step ⟨tokens, last, split, isLast, others⟩
    refine ⟨read ++ tokens, last, by rw [tokens_of_step step, split, List.append_assoc], isLast, ?_⟩
    intro token member
    rcases List.mem_append.mp member with member | member
    · exact step.not_endOfInput token member
    · exact others token member

end Scanner

namespace Token

def places (source : String) : List Place := (Scanner.ofSource source).places []

theorem places_map (source : String) : (places source).map Place.token = Token.scan source :=
  Scanner.places_map_token _ _

section Ended

variable {tokens : List Token} {last : Token} (isLast : last.kind = .endOfInput)
include isLast

theorem body_of_concat (others : ∀ token ∈ tokens, token.kind ≠ .endOfInput) :
    Reading.body (tokens ++ [last]) = tokens :=
  (longest_span (by simpa using others) (by simp [isLast])).1

theorem offenceLine_of_concat (others : ∀ token ∈ tokens, token.kind ≠ .endOfInput)
    {left behind : List Token} {found : Token} (leftOver : left ++ [last] = found :: behind) :
    Grammar.offenceLine (tokens ++ [last]) left = found.line := by
  cases left with
  | nil =>
      obtain ⟨rfl, -⟩ := List.cons_eq_cons.mp leftOver
      have ends : ∀ next ∈ [last].head?, decide (next.kind ≠ .endOfInput) = false := by
        simp [isLast]
      rw [Grammar.offenceLine, (longest_span (by simpa using others) ends).2]
  | cons first left =>
      obtain ⟨rfl, -⟩ := List.cons_eq_cons.mp leftOver
      rfl

end Ended

theorem exists_offence {source : String} {e : ParseError}
    (failed : Node.parse (Token.scan source) = .error e) :
    ∃ earlier place later, places source = earlier ++ place :: later ∧
      Grammar.Unclosed (Reading.body (Token.scan source))
        (Reading.body ((place :: later).map Place.token)) ∧ e.line = place.token.line := by
  obtain ⟨left, unclosed, rfl⟩ := Grammar.unclosed_of_parse failed
  obtain ⟨tokens, last, scanned, isLast, others⟩ := Scanner.tokens_eq_concat (.ofSource source)
  rw [← Token.scan] at scanned
  -- what is left in front of the end of input begins with the token at which reading stops
  rw [scanned, body_of_concat isLast others] at unclosed ⊢
  obtain ⟨front, rfl⟩ := unclosed.suffix
  obtain ⟨found, behind, leftOver⟩ := List.exists_cons_of_ne_nil (l := left ++ [last]) (by simp)
  have tokensOf : (places source).map Place.token = front ++ found :: behind := by
    rw [places_map, scanned, List.append_assoc, leftOver]
  obtain ⟨earlier, here, split, -, hereTokens⟩ := List.map_eq_append_iff.mp tokensOf
  obtain ⟨place, later, rfl, rfl, laterTokens⟩ := List.map_eq_cons_iff.mp hereTokens
  refine ⟨earlier, place, later, split, ?_, offenceLine_of_concat isLast others leftOver⟩
  rw [hereTokens, ← leftOver, body_of_concat isLast fun token member =>
    others token (List.mem_append_right front member)]
  exact unclosed

/-! ## Which lines are right -/

variable {source : String}

theorem line_eq_sourceLine_iff {earlier later : List Place} {place : Place}
    (split : places source = earlier ++ place :: later) :
    place.token.line = place.sourceLine ↔ InOneLine (earlier.map Place.token) := by
  have counted := Scanner.counted_places (.ofSource source) [] 0 rfl
  rw [← places, split, counted_append, Nat.zero_add] at counted
  rw [← hiddenBreaks_eq_zero_iff, ← counted.2.1]
  omega

theorem forall_line_eq_sourceLine_iff :
    (∀ place ∈ places source, place.token.line = place.sourceLine) ↔
      InOneLine (Token.scan source) := by
  constructor
  · -- the end of input has all quoted tokens before it
    intro right
    obtain ⟨tokens, last, scanned, isLast, -⟩ := Scanner.tokens_eq_concat (.ofSource source)
    rw [← Token.scan] at scanned
    obtain ⟨earlier, ending, split, rfl, sameLast⟩ :=
      List.map_eq_append_iff.mp ((places_map source).trans scanned)
    obtain ⟨place, later, rfl, rfl, -⟩ := List.map_eq_cons_iff.mp sameLast
    have inOneLine := (line_eq_sourceLine_iff split).mp (right place (by simp [split]))
    intro token member quoted
    rw [scanned, List.mem_append, List.mem_singleton] at member
    rcases member with member | rfl
    · exact inOneLine token member quoted
    · rw [isLast] at quoted
      cases quoted
  · intro inOneLine place member
    obtain ⟨earlier, later, split⟩ := List.append_of_mem member
    refine (line_eq_sourceLine_iff split).mpr fun token before => inOneLine token ?_
    rw [← places_map, split, List.map_append]
    exact List.mem_append_left _ before

/-- The lines that scanning notes are those of the source where no quoted token runs over the end of
its line, and otherwise exactly up to and with the first that does. So is the line of a parse error,
which is that of the token at which an argument list breaks off. -/
theorem scan_lines_right_iff (source : String) :
    (places source).map Place.token = Token.scan source ∧
    Laid [] source.toList (places source) ∧
    ((∀ place ∈ places source, place.token.line = place.sourceLine) ↔
      InOneLine (Token.scan source)) ∧
    (∀ earlier place later, places source = earlier ++ place :: later →
      (place.token.line = place.sourceLine ↔ InOneLine (earlier.map Place.token))) ∧
    ∀ e, Node.parse (Token.scan source) = .error e →
      ∃ earlier place later, places source = earlier ++ place :: later ∧
        Grammar.Unclosed (Reading.body (Token.scan source))
          (Reading.body ((place :: later).map Place.token)) ∧
        e.line = place.token.line ∧
        (e.line = place.sourceLine ↔ InOneLine (earlier.map Place.token)) := by
  refine ⟨places_map source, Scanner.laid_places (.ofSource source) [],
    forall_line_eq_sourceLine_iff, fun _ _ _ => line_eq_sourceLine_iff, fun e failed => ?_⟩
  obtain ⟨earlier, place, later, split, unclosed, sameLine⟩ := exists_offence failed
  exact ⟨earlier, place, later, split, unclosed, sameLine, sameLine ▸ line_eq_sourceLine_iff split⟩

/-- The word behind a text of two lines is said to stand in the first. -/
theorem not_all_lines_right :
    ¬ ∀ source : String, ∀ place ∈ places source, place.token.line = place.sourceLine := by
  intro right
  have behind := right "\"a\nb\" c" ⟨"\"a\nb\" ".toList, ⟨.word, "c", 1⟩⟩ (by decide +kernel)
  exact absurd behind (by decide)

end Token
end CallScript
