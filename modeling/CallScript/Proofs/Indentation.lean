import CallScript.Proofs.ScanRuns
import CallScript.Proofs.SourceLine

/-!
# Indents and dedents match like brackets

A line begins behind a line break outside of texts, and is as wide as the number of spaces in its
indentation. A line that is wider than the innermost open level opens one, with an indent. The level
is closed, with a dedent, by the first later line that is narrower than itself, or at the end of the
source.

* `Scanner.Run.ascending`: the open levels of a run, and the line in which they are open.
* `Scanner.closes_tokens`: what is left to read closes the open levels.
* `Scanner.endsLevel_places`: where it closes each of them.
-/

namespace CallScript
namespace Token

/-! ## Lines -/

/-- The width of the line that a line break begins: the spaces among the blanks behind the break. -/
def lineWidth (source : List Char) (lineBreak : Place) : Nat :=
  ((source.drop (lineBreak.before.length + 1)).takeWhile isBlank).count ' '

/-- The width of the last line that is begun, 0 where none is. -/
def lastWidth (source : List Char) (places : List Place) : Nat :=
  places.foldl
    (fun width place => if place.token.isNewline then lineWidth source place else width) 0

/-- Tokens in lines that are numbered from the given number on. A line break ends its line. -/
def Numbered : Nat → List Token → Prop
  | _, [] => True
  | number, token :: rest =>
      token.line = number ∧ Numbered (if token.isNewline then number + 1 else number) rest

theorem lineWidth_eq {source before rest : List Char} (whole : source = before ++ '\n' :: rest)
    (token : Token) : lineWidth source ⟨before, token⟩ = (rest.takeWhile isBlank).count ' ' := by
  have behind : source.drop (before.length + 1) = rest := by simp [whole]
  rw [lineWidth, behind]

theorem lastWidth_concat (source : List Char) (begun : List Place) (place : Place) :
    lastWidth source (begun ++ [place]) =
      if place.token.isNewline then lineWidth source place else lastWidth source begun := by
  simp [lastWidth]

theorem lastWidth_append {source : List Char} {begun more : List Place}
    (sameLine : ∀ place ∈ more, place.token.kind ≠ .newline) :
    lastWidth source (begun ++ more) = lastWidth source begun := by
  induction more generalizing begun with
  | nil => rw [List.append_nil]
  | cons place more ih =>
      obtain ⟨here, others⟩ := List.forall_mem_cons.mp sameLine
      rw [List.append_cons, ih others, lastWidth_concat,
        if_neg (by simpa [isNewline] using here)]

theorem numbered_append {number : Nat} {front behind : List Token}
    (sameLine : ∀ token ∈ front, token.line = number ∧ token.kind ≠ .newline)
    (numbered : Numbered number behind) : Numbered number (front ++ behind) := by
  induction front with
  | nil => exact numbered
  | cons token front ih =>
      obtain ⟨⟨line, noBreak⟩, others⟩ := List.forall_mem_cons.mp sameLine
      refine ⟨line, ?_⟩
      rw [if_neg (by simpa [isNewline] using noBreak)]
      exact ih others

/-! ## Brackets -/

def indents (tokens : List Token) : Nat := tokens.countP fun token => token.kind = .indent

def dedents (tokens : List Token) : Nat := tokens.countP fun token => token.kind = .dedent

/-- The tokens close the levels that they open and `opened` levels before them. At no point more is
closed than is open. -/
structure Closes (opened : Nat) (tokens : List Token) : Prop where
  front : ∀ front, front <+: tokens → dedents front ≤ indents front + opened
  whole : dedents tokens = indents tokens + opened

def Balanced (tokens : List Token) : Prop := Closes 0 tokens

theorem indents_append (front behind : List Token) :
    indents (front ++ behind) = indents front + indents behind := List.countP_append

theorem dedents_append (front behind : List Token) :
    dedents (front ++ behind) = dedents front + dedents behind := List.countP_append

theorem closes_nil : Closes 0 [] where
  front front isFront := by simp [List.prefix_nil.mp isFront, indents, dedents]
  whole := rfl

theorem Closes.cons {token : Token} {tokens : List Token} {opened inner : Nat}
    (behind : Closes inner tokens)
    (balance : dedents [token] + inner = indents [token] + opened) :
    Closes opened (token :: tokens) where
  front front isFront := by
    rcases List.prefix_cons_iff.mp isFront with rfl | ⟨more, rfl, isMore⟩
    · simp [dedents]
    · have := behind.front more isMore
      rw [← List.singleton_append, dedents_append, indents_append]
      omega
  whole := by
    have := behind.whole
    rw [← List.singleton_append, dedents_append, indents_append]
    omega

theorem Closes.append {first second : Nat} {front behind : List Token} (here : Closes first front)
    (more : Closes second behind) : Closes (first + second) (front ++ behind) where
  front part isFront := by
    obtain ⟨rest, split⟩ := isFront
    rcases List.append_eq_append_iff.mp split with ⟨left, rfl, -⟩ | ⟨left, rfl, rfl⟩
    · have := here.front part (List.prefix_append part left)
      omega
    · have := here.whole
      have := more.front left (List.prefix_append left rest)
      rw [dedents_append, indents_append]
      omega
  whole := by
    have := here.whole
    have := more.whole
    rw [dedents_append, indents_append]
    omega

theorem closes_of_dedents {tokens : List Token}
    (areDedents : ∀ token ∈ tokens, token.kind = .dedent) : Closes tokens.length tokens := by
  induction tokens with
  | nil => exact closes_nil
  | cons token tokens ih =>
      obtain ⟨here, others⟩ := List.forall_mem_cons.mp areDedents
      refine (ih others).cons ?_
      simp [dedents, indents, here]
      omega

theorem closes_of_texts {tokens : List Token} (texts : ∀ token ∈ tokens, token.isLayout = false) :
    Closes 0 tokens := by
  induction tokens with
  | nil => exact closes_nil
  | cons token tokens ih =>
      obtain ⟨here, others⟩ := List.forall_mem_cons.mp texts
      have kind : token.kind ≠ .indent ∧ token.kind ≠ .dedent := by simpa [isLayout] using here
      exact (ih others).cons (by simp [dedents, indents, kind])

/-! ## The end of a level -/

def NoNarrower (source : List Char) (width : Nat) (places : List Place) : Prop :=
  ∀ place ∈ places, place.token.kind = .newline → width ≤ lineWidth source place

theorem NoNarrower.append {source : List Char} {width : Nat} {front places : List Place}
    (here : NoNarrower source width front) (more : NoNarrower source width places) :
    NoNarrower source width (front ++ places) :=
  List.forall_mem_append.mpr ⟨here, more⟩

theorem noNarrower_of_kind {source : List Char} {width : Nat} {places : List Place}
    (noBreak : ∀ place ∈ places, place.token.kind ≠ .newline) : NoNarrower source width places :=
  fun place member isBreak => absurd isBreak (noBreak place member)

/-- Where the level of the given width ends: all levels inside it are closed, `opened` of them open
already, and then comes its dedent. Either the dedent stands in the first line that is narrower, or
no line is narrower and it is one of the dedents in front of the end of input. -/
inductive EndsLevel (source : List Char) (width opened : Nat) : List Place → Prop
  | atLine {wide closed later : List Place} {lineBreak dedent : Place}
      (noNarrower : NoNarrower source width wide)
      (isBreak : lineBreak.token.kind = .newline) (narrower : lineWidth source lineBreak < width)
      (closedHere : ∀ place ∈ closed, place.token.kind = .dedent)
      (inside : Closes opened ((wide ++ lineBreak :: closed).map Place.token))
      (isDedent : dedent.token.kind = .dedent)
      (sameLine : dedent.token.line = lineBreak.token.line + 1) :
      EndsLevel source width opened (wide ++ lineBreak :: (closed ++ dedent :: later))
  | atEnd {wide closing : List Place} {dedent last : Place}
      (noNarrower : NoNarrower source width wide)
      (inside : Closes opened (wide.map Place.token)) (isDedent : dedent.token.kind = .dedent)
      (dedents : ∀ place ∈ closing, place.token.kind = .dedent)
      (isLast : last.token.kind = .endOfInput) :
      EndsLevel source width opened (wide ++ dedent :: (closing ++ [last]))

theorem EndsLevel.append {source : List Char} {width first second : Nat}
    {front places : List Place} (ends : EndsLevel source width second places)
    (noNarrower : NoNarrower source width front)
    (closes : Closes first (front.map Place.token)) :
    EndsLevel source width (first + second) (front ++ places) := by
  cases ends with
  | atLine more isBreak narrower closedHere inside isDedent sameLine =>
      rw [← List.append_assoc]
      refine .atLine (noNarrower.append more) isBreak narrower closedHere ?_ isDedent sameLine
      rw [List.append_assoc, List.map_append]
      exact closes.append inside
  | atEnd more inside isDedent dedents isLast =>
      rw [← List.append_assoc]
      refine .atEnd (noNarrower.append more) ?_ isDedent dedents isLast
      rw [List.map_append]
      exact closes.append inside

theorem EndsLevel.indent {source : List Char} {width opened : Nat} {places : List Place}
    (ends : EndsLevel source width (opened + 1) places) {place : Place}
    (isIndent : place.token.kind = .indent) : EndsLevel source width opened (place :: places) := by
  have here : NoNarrower source width [place] := noNarrower_of_kind (by simp [isIndent])
  have balance : dedents [place.token] + (opened + 1) = indents [place.token] + opened := by
    simp [dedents, indents, isIndent]
    omega
  cases ends with
  | atLine more isBreak narrower closedHere inside isDedent sameLine =>
      exact .atLine (here.append more) isBreak narrower closedHere (inside.cons balance) isDedent
        sameLine
  | atEnd more inside isDedent dedents isLast =>
      exact .atEnd (here.append more) (inside.cons balance) isDedent dedents isLast

/-- Every indent stands behind a line break, and the level of that line ends behind it. -/
def LevelsEnd (source : List Char) (places : List Place) : Prop :=
  ∀ earlier indent later, places = earlier ++ indent :: later → indent.token.kind = .indent →
    ∃ lineBreak ∈ earlier.getLast?, lineBreak.token.kind = .newline ∧
      EndsLevel source (lineWidth source lineBreak) 0 later

theorem LevelsEnd.append {source : List Char} {front places : List Place}
    (levels : LevelsEnd source places) (noIndent : ∀ place ∈ front, place.token.kind ≠ .indent) :
    LevelsEnd source (front ++ places) := by
  induction front with
  | nil => exact levels
  | cons place front ih =>
      obtain ⟨here, others⟩ := List.forall_mem_cons.mp noIndent
      intro earlier indent later split isIndent
      rcases List.cons_eq_append_iff.mp split with ⟨rfl, same⟩ | ⟨more, rfl, splitMore⟩
      · cases same
        exact absurd isIndent here
      · obtain ⟨lineBreak, isLast, found⟩ := ih others more indent later splitMore isIndent
        refine ⟨lineBreak, ?_, found⟩
        rw [List.getLast?_cons, Option.mem_def.mp isLast]
        rfl

theorem LevelsEnd.behindBreak {source : List Char} {places : List Place} {lineBreak indent : Place}
    (levels : LevelsEnd source places) (isBreak : lineBreak.token.kind = .newline)
    (ends : EndsLevel source (lineWidth source lineBreak) 0 places) :
    LevelsEnd source (lineBreak :: indent :: places) := by
  intro earlier place later split isIndent
  rcases List.cons_eq_append_iff.mp split with ⟨rfl, same⟩ | ⟨more, rfl, splitMore⟩
  · cases same
    rw [isBreak] at isIndent
    cases isIndent
  rcases List.cons_eq_append_iff.mp splitMore with ⟨rfl, same⟩ | ⟨others, rfl, splitOthers⟩
  · cases same
    exact ⟨lineBreak, rfl, isBreak, ends⟩
  · obtain ⟨opening, isLast, found⟩ := levels others place later splitOthers isIndent
    refine ⟨opening, ?_, found⟩
    rw [List.getLast?_cons, List.getLast?_cons, Option.mem_def.mp isLast]
    rfl

end Token

namespace Scanner
open Token

/-! ## What a step does to the levels -/

/-- A step reads a line break with the layout that it raises, or it reads texts and stays in its
line. -/
inductive Moves : Scanner → List Token → Scanner → Prop
  | lineBreak (rest : List Char) (line : Nat) (widths : List Nat) :
      Moves ⟨'\n' :: rest, line, widths⟩ (breakLine line widths rest).1
        (breakLine line widths rest).2
  | inLine {s next : Scanner} {taken : List Char} {read : List Token}
      (split : s.rest = taken ++ next.rest) (line : next.line = s.line)
      (widths : next.widths = s.widths) (texts : ∀ token ∈ read, token.isLayout = false)
      (sameLine : ∀ token ∈ read, token.line = s.line ∧ token.kind ≠ .newline) : Moves s read next

theorem Step.moves {s next : Scanner} {read : List Token} (one : Step s read next) :
    Moves s read next := by
  obtain ⟨taken, -, split⟩ := one.rest_suffix
  cases one with
  | lineBreak rest line widths => exact .lineBreak rest line widths
  | sign sign rest line widths =>
      rcases ofSign?_eq_some sign with ⟨-, rfl⟩ | ⟨-, rfl⟩ | ⟨-, rfl⟩ <;>
        exact .inLine split rfl rfl (by simp [isLayout]) (by simp)
  | quoted rest line widths => exact .inLine split rfl rfl (by simp [isLayout]) (by simp)
  | word start rest line widths => exact .inLine split rfl rfl (by simp [isLayout]) (by simp)
  | filler filler rest line widths => exact .inLine split rfl rfl (by simp) (by simp)

theorem line_of_mem_layout {width line : Nat} {widths : List Nat} {token : Token}
    (member : token ∈ (layout width line widths).1) :
    token.line = line ∧ token.kind ≠ .newline := by
  rcases mem_layout member with rfl | rfl <;> simp [bare]

theorem layout_of_wider {width : Nat} {widths : List Nat} (wider : widths.headD 0 < width)
    (line : Nat) : layout width line widths = ([.bare .indent line], width :: widths) :=
  if_pos wider

theorem layout_of_not_wider {width : Nat} {widths : List Nat} (noWider : ¬widths.headD 0 < width)
    (line : Nat) : layout width line widths =
      ((widths.takeWhile (width < ·)).map fun _ => .bare .dedent line,
        widths.dropWhile (width < ·)) :=
  if_neg noWider

theorem span_widths {width level : Nat} (stays : level ≤ width) (inner outer : List Nat) :
    (inner ++ level :: outer).takeWhile (width < ·) = inner.takeWhile (width < ·) ∧
      (inner ++ level :: outer).dropWhile (width < ·) =
        inner.dropWhile (width < ·) ++ level :: outer :=
  span_before (by simpa using stays) inner outer

/-! ## The level at the bottom -/

/-- The scanner with the level of width 0 below the open ones. -/
def withBottom (s : Scanner) : Scanner := { s with widths := s.widths ++ [0] }

theorem layout_bottom (width line : Nat) (widths : List Nat) : layout width line (widths ++ [0]) =
    ((layout width line widths).1, (layout width line widths).2 ++ [0]) := by
  have innermost : (widths ++ [0]).headD 0 = widths.headD 0 := by cases widths <;> rfl
  by_cases wider : widths.headD 0 < width
  · rw [layout_of_wider wider, layout_of_wider (innermost ▸ wider)]
    rfl
  · obtain ⟨closed, left⟩ := span_widths (Nat.zero_le width) widths []
    rw [layout_of_not_wider wider, layout_of_not_wider (innermost ▸ wider), closed, left]

theorem Step.withBottom {s next : Scanner} {read : List Token} (one : Step s read next) :
    Step s.withBottom read next.withBottom := by
  cases one with
  | lineBreak rest line widths =>
      have broken := Step.lineBreak rest line (widths ++ [0])
      simp only [breakLine, layout_bottom] at broken
      exact broken
  | sign sign rest line widths => exact .sign sign rest line _
  | quoted rest line widths => exact .quoted rest line _
  | word start rest line widths => exact .word start rest line _
  | filler filler rest line widths => exact .filler filler rest line _

theorem Run.withBottom {s last : Scanner} {read : List Token} (run : Run s read last) :
    Run s.withBottom read last.withBottom := by
  induction run with
  | done s => exact .done _
  | step one _ ih => exact .step one.withBottom ih

/-! ## The open levels -/

/-- The widths of the open levels, outermost first, with the level of width 0 at the bottom. -/
def stack (widths : List Nat) : List Nat := 0 :: widths.reverse

def Ascending (widths : List Nat) : Prop := (stack widths).Pairwise (· < ·)

theorem ascending_iff {widths : List Nat} : Ascending widths ↔
    (∀ width ∈ widths, 0 < width) ∧ widths.Pairwise (fun inner outer => outer < inner) := by
  simp [Ascending, stack, List.pairwise_reverse]

theorem Ascending.of_suffix {outer widths : List Nat} (ascending : Ascending widths)
    (suffix : outer <:+ widths) : Ascending outer := by
  obtain ⟨positive, narrowing⟩ := ascending_iff.mp ascending
  exact ascending_iff.mpr
    ⟨fun width member => positive width (suffix.subset member), narrowing.sublist suffix.sublist⟩

theorem Ascending.head_le {widths : List Nat} (ascending : Ascending widths) :
    ∀ width ∈ widths, width ≤ widths.headD 0 := by
  obtain ⟨-, narrowing⟩ := ascending_iff.mp ascending
  cases widths with
  | nil => simp
  | cons inner outer =>
      have narrower := (List.pairwise_cons.mp narrowing).1
      exact List.forall_mem_cons.mpr ⟨le_refl inner, fun width member => (narrower width member).le⟩

theorem Ascending.headD_le {left widths : List Nat} (ascending : Ascending widths)
    (suffix : left <:+ widths) : left.headD 0 ≤ widths.headD 0 := by
  cases left with
  | nil => exact Nat.zero_le _
  | cons inner outer => exact ascending.head_le inner (suffix.subset (List.mem_cons_self ..))

theorem ascending_layout {widths : List Nat} (ascending : Ascending widths) (width line : Nat) :
    Ascending (layout width line widths).2 ∧ (layout width line widths).2.headD 0 ≤ width := by
  by_cases wider : widths.headD 0 < width
  · rw [layout_of_wider wider]
    obtain ⟨positive, narrowing⟩ := ascending_iff.mp ascending
    have narrower : ∀ level ∈ widths, level < width := fun level member =>
      (ascending.head_le level member).trans_lt wider
    refine ⟨ascending_iff.mpr ⟨?_, List.pairwise_cons.mpr ⟨narrower, narrowing⟩⟩, le_refl width⟩
    exact List.forall_mem_cons.mpr ⟨Nat.zero_lt_of_lt wider, positive⟩
  · rw [layout_of_not_wider wider]
    refine ⟨ascending.of_suffix (List.dropWhile_suffix _), ?_⟩
    have ends := ends_dropWhile (fun level => decide (width < level)) widths
    cases left : widths.dropWhile fun level => decide (width < level) with
    | nil => exact Nat.zero_le width
    | cons level outer => simpa [left] using ends

/-! ## Places of a step -/

theorem places_inLine {s next : Scanner} {read : List Token} (one : Step s read next)
    {taken : List Char} (split : s.rest = taken ++ next.rest)
    (texts : ∀ token ∈ read, token.isLayout = false) (before : List Char) :
    s.places before = read.map (Place.mk before) ++ next.places (before ++ taken) := by
  rw [places_of_step one split]
  congr 1
  refine List.map_congr_left fun token member => ?_
  rw [if_neg (by simpa [isLayout] using texts token member)]

theorem forall_mem_places {before : List Char} {read : List Token} {P : Token → Prop}
    (here : ∀ token ∈ read, P token) : ∀ place ∈ read.map (Place.mk before), P place.token := by
  intro place member
  obtain ⟨token, tokenMember, rfl⟩ := List.mem_map.mp member
  exact here token tokenMember

theorem map_token_mk (before : List Char) (read : List Token) :
    (read.map (Place.mk before)).map Place.token = read := by
  simp [Function.comp_def]

/-! ## What is left to read closes the open levels -/

def closings (before : List Char) (line : Nat) (widths : List Nat) : List Place :=
  (widths.map fun _ => bare .dedent line).map (Place.mk before)

theorem kind_of_mem_closings {before : List Char} {line : Nat} {widths : List Nat} :
    ∀ place ∈ closings before line widths, place.token.kind = .dedent := by
  simp [closings, bare]

theorem closes_dedents (line : Nat) (widths : List Nat) :
    Closes widths.length (widths.map fun _ => bare .dedent line) := by
  have areDedents : ∀ token ∈ widths.map fun _ => bare .dedent line, token.kind = .dedent := by
    simp [bare]
  simpa using closes_of_dedents areDedents

theorem closes_closings (before : List Char) (line : Nat) (widths : List Nat) :
    Closes widths.length ((closings before line widths).map Place.token) := by
  rw [closings, map_token_mk]
  exact closes_dedents line widths

theorem closes_lineBreak (line : Nat) : Closes 0 [bare .newline line] :=
  closes_of_texts (by simp [isLayout, bare])

theorem length_span (p : Nat → Bool) (widths : List Nat) :
    (widths.takeWhile p).length + (widths.dropWhile p).length = widths.length := by
  rw [← List.length_append, List.takeWhile_append_dropWhile]

theorem closes_layout {width line : Nat} {widths : List Nat} {tokens : List Token}
    (behind : Closes (layout width line widths).2.length tokens) :
    Closes widths.length ((layout width line widths).1 ++ tokens) := by
  by_cases wider : widths.headD 0 < width
  · rw [layout_of_wider wider] at behind ⊢
    exact behind.cons (by simp [dedents, indents, bare]; omega)
  · rw [layout_of_not_wider wider] at behind ⊢
    rw [← length_span (width < ·) widths]
    exact (closes_dedents line _).append behind

theorem closes_tokens (s : Scanner) : Closes s.widths.length s.tokens := by
  refine run_induction (motive := fun s => Closes s.widths.length s.tokens) ?_ ?_ s
  · intro line widths
    rw [tokens_nil]
    exact (closes_dedents line widths).append (closes_of_texts (by simp [isLayout, bare]))
  · intro s read next one ih
    rw [tokens_of_step one]
    cases one.moves with
    | lineBreak rest line widths =>
        have both := (closes_lineBreak line).append (closes_layout ih)
        simpa [breakLine] using both
    | inLine split line widths texts sameLine =>
        have both := (closes_of_texts texts).append ih
        rwa [Nat.zero_add, widths] at both

/-! ## Where each level is closed -/

section Levels

variable {source before : List Char} {level : Nat} {inner outer : List Nat}

theorem noNarrower_of_closings {line : Nat} {widths : List Nat} :
    NoNarrower source level (closings before line widths) :=
  noNarrower_of_kind fun place member => by simp [kind_of_mem_closings place member]

theorem endsLevel_nil (source before : List Char) (line level : Nat) (inner outer : List Nat) :
    EndsLevel source level inner.length
      ((Scanner.mk [] line (inner ++ level :: outer)).places before) := by
  have places : (Scanner.mk [] line (inner ++ level :: outer)).places before =
      closings before line inner ++ ⟨before, bare .dedent line⟩ ::
        (closings before line outer ++ [⟨before, bare .endOfInput line⟩]) := by
    simp [places_nil, close, closings]
  rw [places]
  exact .atEnd noNarrower_of_closings (closes_closings before line inner) rfl kind_of_mem_closings
    rfl

theorem endsLevel_layout {places : List Place} {width line : Nat} (stays : level ≤ width)
    (before : List Char) (behind : ∀ inner',
      (layout width line (inner ++ level :: outer)).2 = inner' ++ level :: outer →
        EndsLevel source level inner'.length places) :
    EndsLevel source level inner.length
      ((layout width line (inner ++ level :: outer)).1.map (Place.mk before) ++ places) := by
  by_cases wider : (inner ++ level :: outer).headD 0 < width
  · rw [layout_of_wider wider] at behind ⊢
    have isIndent : (Place.mk before (bare .indent line)).token.kind = .indent := rfl
    exact (behind (width :: inner) rfl).indent isIndent
  · obtain ⟨closed, left⟩ := span_widths stays inner outer
    rw [layout_of_not_wider wider, closed, left] at behind
    rw [layout_of_not_wider wider, closed, ← length_span (width < ·) inner]
    exact (behind _ rfl).append noNarrower_of_closings (closes_closings before line _)

theorem layout_of_narrower {width : Nat} (ascending : Ascending (inner ++ level :: outer))
    (narrower : width < level) (before : List Char) (line : Nat) : ∃ others,
      (layout width line (inner ++ level :: outer)).1.map (Place.mk before) =
        closings before line inner ++ ⟨before, bare .dedent line⟩ :: others := by
  obtain ⟨-, narrowing⟩ := ascending_iff.mp ascending
  have wide : ∀ inside ∈ inner, decide (width < inside) = true := by
    intro inside member
    have wider := (List.pairwise_append.mp narrowing).2.2 inside member level (by simp)
    simpa using narrower.trans wider
  have noWider : ¬(inner ++ level :: outer).headD 0 < width := by
    have := ascending.head_le level (by simp)
    omega
  refine ⟨closings before line (outer.takeWhile (width < ·)), ?_⟩
  rw [layout_of_not_wider noWider, List.takeWhile_append_of_pos wide,
    List.takeWhile_cons_of_pos (by simpa using narrower)]
  simp [closings]

theorem endsLevel_lineBreak {rest : List Char} (whole : source = before ++ '\n' :: rest)
    (ascending : Ascending (inner ++ level :: outer)) {line : Nat}
    (behind : ∀ inner', (breakLine line (inner ++ level :: outer) rest).2.widths =
      inner' ++ level :: outer → EndsLevel source level inner'.length
        ((breakLine line (inner ++ level :: outer) rest).2.places
          (before ++ '\n' :: rest.takeWhile isBlank))) :
    EndsLevel source level inner.length
      ((Scanner.mk ('\n' :: rest) line (inner ++ level :: outer)).places before) := by
  have width := lineWidth_eq whole (bare .newline line)
  rw [places_lineBreak]
  by_cases narrower : lineWidth source ⟨before, bare .newline line⟩ < level
  · obtain ⟨others, raised⟩ := layout_of_narrower ascending (width ▸ narrower)
      (before ++ '\n' :: rest.takeWhile isBlank) (line + 1)
    have inside := (closes_lineBreak line).append
      (closes_closings (before ++ '\n' :: rest.takeWhile isBlank) (line + 1) inner)
    rw [Nat.zero_add] at inside
    rw [raised, List.append_assoc]
    exact .atLine (List.forall_mem_nil _) rfl narrower kind_of_mem_closings inside rfl rfl
  · have stays : level ≤ lineWidth source ⟨before, bare .newline line⟩ := Nat.le_of_not_lt narrower
    have here : NoNarrower source level [⟨before, bare .newline line⟩] :=
      List.forall_mem_singleton.mpr fun _ => stays
    rw [width] at stays
    have raised := endsLevel_layout stays (before ++ '\n' :: rest.takeWhile isBlank) behind
    simpa using raised.append here (closes_lineBreak line)

theorem endsLevel_places (s : Scanner) (ascending : Ascending s.widths) {before : List Char}
    (whole : source = before ++ s.rest) {inner : List Nat}
    (isOpen : s.widths = inner ++ level :: outer) :
    EndsLevel source level inner.length (s.places before) := by
  -- for any number of levels inside, since the run opens and closes them
  refine run_induction (motive := fun s => ∀ before inner, Ascending s.widths →
    source = before ++ s.rest → s.widths = inner ++ level :: outer →
      EndsLevel source level inner.length (s.places before))
    ?_ ?_ s before inner ascending whole isOpen
  · rintro line widths before inner - - rfl
    exact endsLevel_nil source before line level inner outer
  · intro s read next one ih before inner ascending whole isOpen
    cases one.moves with
    | lineBreak rest line widths =>
        obtain rfl := isOpen
        refine endsLevel_lineBreak whole ascending fun inner' stillOpen => ?_
        refine ih _ inner' (ascending_layout ascending _ _).1 ?_ stillOpen
        simpa [breakLine] using whole
    | @inLine s next taken read split line widths texts sameLine =>
        have behind := ih (before ++ taken) inner (widths ▸ ascending)
          (by rw [whole, split, List.append_assoc]) (widths.trans isOpen)
        rw [places_inLine one split texts]
        have here : NoNarrower source level (read.map (Place.mk before)) :=
          noNarrower_of_kind <| forall_mem_places (P := (·.kind ≠ .newline)) fun token inRead =>
            (sameLine token inRead).2
        have inside : Closes 0 ((read.map (Place.mk before)).map Place.token) := by
          rw [map_token_mk]
          exact closes_of_texts texts
        simpa using behind.append here inside

theorem levelsEnd_lineBreak {rest : List Char} (whole : source = before ++ '\n' :: rest)
    {line : Nat} {widths : List Nat} (ascending : Ascending widths)
    (levels : LevelsEnd source ((breakLine line widths rest).2.places
      (before ++ '\n' :: rest.takeWhile isBlank))) :
    LevelsEnd source ((Scanner.mk ('\n' :: rest) line widths).places before) := by
  have width := lineWidth_eq whole (bare .newline line)
  have behind : source = before ++ '\n' :: rest.takeWhile isBlank ++ rest.dropWhile isBlank := by
    simpa using whole
  have stillAscending := (ascending_layout ascending ((rest.takeWhile isBlank).count ' ')
    (line + 1)).1
  rw [places_lineBreak]
  -- only a wider line opens a level, as the innermost one
  by_cases wider : widths.headD 0 < (rest.takeWhile isBlank).count ' '
  · have innermost : (breakLine line widths rest).2.widths =
        [] ++ (rest.takeWhile isBlank).count ' ' :: widths := by
      simp only [breakLine, layout_of_wider wider, List.nil_append]
    have ends := endsLevel_places (breakLine line widths rest).2 stillAscending behind innermost
    rw [← width] at ends
    simp only [breakLine, layout_of_wider wider] at levels ends ⊢
    exact levels.behindBreak rfl ends
  · simp only [breakLine, layout_of_not_wider wider] at levels ⊢
    have noIndent : ∀ place ∈ Place.mk before (bare .newline line) ::
        closings (before ++ '\n' :: rest.takeWhile isBlank) (line + 1)
          (widths.takeWhile ((rest.takeWhile isBlank).count ' ' < ·)),
        place.token.kind ≠ .indent := by
      refine List.forall_mem_cons.mpr ⟨by simp [bare], fun place member isIndent => ?_⟩
      rw [kind_of_mem_closings place member] at isIndent
      cases isIndent
    exact levels.append noIndent

theorem levelsEnd_places (s : Scanner) (ascending : Ascending s.widths) {before : List Char}
    (whole : source = before ++ s.rest) : LevelsEnd source (s.places before) := by
  refine run_induction (motive := fun s => ∀ before, Ascending s.widths →
    source = before ++ s.rest → LevelsEnd source (s.places before)) ?_ ?_ s before ascending whole
  · intro line widths before _ _
    have none : LevelsEnd source [] := fun earlier indent later split => by simp at split
    have noIndent : ∀ place ∈ (Scanner.mk [] line widths).places before,
        place.token.kind ≠ .indent := by
      rw [places_nil]
      refine forall_mem_places (P := (·.kind ≠ .indent)) fun token member => ?_
      rcases mem_close member with rfl | rfl <;> simp [bare]
    simpa using none.append noIndent
  · intro s read next one ih before ascending whole
    cases one.moves with
    | lineBreak rest line widths =>
        refine levelsEnd_lineBreak whole ascending (ih _ (ascending_layout ascending _ _).1 ?_)
        simpa [breakLine] using whole
    | @inLine s next taken read split line widths texts sameLine =>
        rw [places_inLine one split texts]
        refine (ih _ (widths ▸ ascending) (by rw [whole, split, List.append_assoc])).append ?_
        refine forall_mem_places (P := (·.kind ≠ .indent)) fun token member isIndent => ?_
        have text := texts token member
        simp [isLayout, isIndent] at text

end Levels

/-! ## The levels and lines of a run -/

theorem numbered_tokens (s : Scanner) : Numbered s.line s.tokens := by
  refine run_induction (motive := fun s => Numbered s.line s.tokens) ?_ ?_ s
  · intro line widths
    rw [tokens_nil, ← List.append_nil (close _)]
    refine numbered_append (fun token member => ?_) trivial
    rcases mem_close member with rfl | rfl <;> simp [bare]
  · intro s read next one ih
    rw [tokens_of_step one]
    cases one.moves with
    | lineBreak rest line widths =>
        exact ⟨rfl, numbered_append (fun token member => line_of_mem_layout member) ih⟩
    | inLine split line widths texts sameLine => exact numbered_append sameLine (line ▸ ih)

theorem Step.ascending {source : List Char} {s next : Scanner} {read : List Token}
    (one : Step s read next) {before taken : List Char} (whole : source = before ++ s.rest)
    (split : s.rest = taken ++ next.rest) (ascending : Ascending s.widths) {begun : List Place}
    (inLine : s.widths.headD 0 ≤ lastWidth source begun) :
    Ascending next.widths ∧ next.widths.headD 0 ≤
      lastWidth source (begun ++ placesRead before (before ++ taken) read) := by
  cases one.moves with
  | lineBreak rest line widths =>
      obtain ⟨stillAscending, narrow⟩ :=
        ascending_layout ascending ((rest.takeWhile isBlank).count ' ') (line + 1)
      have width := lineWidth_eq whole (bare .newline line)
      have sameLine : ∀ place ∈ placesRead before (before ++ taken)
          (layout ((rest.takeWhile isBlank).count ' ') (line + 1) widths).1,
          place.token.kind ≠ .newline := by
        intro place member
        obtain ⟨token, raised, rfl⟩ := List.mem_map.mp member
        exact (line_of_mem_layout raised).2
      refine ⟨stillAscending, ?_⟩
      have begins : placesRead before (before ++ taken) (breakLine line widths rest).1 =
        ⟨before, bare .newline line⟩ :: placesRead before (before ++ taken) _ := rfl
      have isBreak : (bare .newline line).isNewline = true := rfl
      rw [begins, List.append_cons, lastWidth_append sameLine, lastWidth_concat, if_pos isBreak,
        width]
      exact narrow
  | inLine _ _ widths texts sameLine =>
      rw [lastWidth_append, widths]
      · exact ⟨ascending, inLine⟩
      · intro place member
        obtain ⟨token, inRead, rfl⟩ := List.mem_map.mp member
        exact (sameLine token inRead).2

/-- The open levels of a run ascend, up to at most the width of the last line that is begun. -/
theorem Run.ascending {source : List Char} {s last : Scanner} {read : List Token}
    (run : Run s read last) {before : List Char} (whole : source = before ++ s.rest)
    (ascending : Ascending s.widths) {begun : List Place}
    (inLine : s.widths.headD 0 ≤ lastWidth source begun) :
    Ascending last.widths ∧ last.widths.headD 0 ≤
      lastWidth source (begun ++ (s.places before).take read.length) := by
  induction run generalizing before begun with
  | done s =>
      simpa only [List.length_nil, List.take_zero, List.append_nil] using ⟨ascending, inLine⟩
  | @step s next last read more one _ ih =>
      obtain ⟨taken, -, split⟩ := one.rest_suffix
      obtain ⟨stillAscending, narrow⟩ := one.ascending whole split ascending inLine
      have length : (placesRead before (before ++ taken) read).length = read.length :=
        List.length_map _
      rw [places_of_step one split, List.length_append, ← length, List.take_length_add_append,
        ← List.append_assoc]
      exact ih (by rw [whole, split, List.append_assoc]) stillAscending narrow

end Scanner

namespace Token

/-! ## Scans -/

/-- What the indents and dedents of a scan tell of the lines of its source. -/
structure Bracketed (source : String) : Prop where
  laid : (places source).map Place.token = Token.scan source ∧
    Laid [] source.toList (places source)
  /-- A line has the number of its line break in the source, not counting the breaks in texts. -/
  numbered : Numbered 1 (Token.scan source)
  /-- Levels are closed one by one, so that all that is left of them meanwhile is meant, too. -/
  levels : ∀ read s, Scanner.Run (.ofSource source) read s → ∀ left, left <:+ s.widths →
    Scanner.Ascending left ∧
      left.headD 0 ≤ lastWidth source.toList ((places source).take read.length)
  /-- The level of width 0 is at the bottom of the open levels for all of the run. -/
  bottom : ∀ read s, Scanner.Run (.ofSource source) read s →
    Scanner.Run (Scanner.ofSource source).withBottom read s.withBottom
  balanced : Balanced (Token.scan source)
  closed : LevelsEnd source.toList (places source)
  ended : ∃ tokens last, Token.scan source = tokens ++ [last] ∧ last.kind = .endOfInput ∧
    ∀ token ∈ tokens, token.kind ≠ .endOfInput

theorem ascending_ofSource (source : String) :
    Scanner.Ascending (Scanner.ofSource source).widths := by
  simp [Scanner.ofSource, Scanner.Ascending, Scanner.stack]

theorem scan_bracketed (source : String) : Bracketed source where
  laid := ⟨places_map source, Scanner.laid_places (.ofSource source) []⟩
  numbered := Scanner.numbered_tokens (.ofSource source)
  levels read s run left suffix := by
    have none : (Scanner.ofSource source).widths.headD 0 ≤ lastWidth source.toList [] := le_refl 0
    obtain ⟨ascending, narrow⟩ :=
      run.ascending (List.nil_append _).symm (ascending_ofSource source) none
    exact ⟨ascending.of_suffix suffix, (ascending.headD_le suffix).trans narrow⟩
  bottom _ _ run := run.withBottom
  balanced := Scanner.closes_tokens (.ofSource source)
  closed := Scanner.levelsEnd_places _ (ascending_ofSource source) (List.nil_append _).symm
  ended := Scanner.tokens_eq_concat (.ofSource source)

example : (Token.scan "a\n    b\n        c\n  d").filter isLayout =
    [.bare .indent 2, .bare .indent 3, .bare .dedent 4, .bare .dedent 4] := by decide +kernel

end Token
end CallScript
