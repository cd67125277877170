import CallScript.Proofs.Round
import CallScript.Proofs.Scanning

/-!
# Scanning by byte offset

A source text is a sequence of bytes, and the scanner can hold the number of bytes behind it in
place of the rest of the text. It then looks at an offset that might lie inside a character, it may
go on from the end, where it stays, and it cuts a text out between two offsets, which fails where
that would cut a character.

* `ByteCursor.Placed.moves`: each step leaves the offset between two characters.
* `ByteCursor.round_of_step`: a round of the main loop is a step of the scanner.
* `ByteCursor.round_advances`: a round passes the character it begins at.
* `ByteCursor.cursor_sound`: no state is misplaced, each round moves on, and the tokens are those of
  the source.
-/

namespace CallScript
namespace ByteCursor

/-! ## The machine -/

section Machine

variable (source : String)

/-- The character whose bytes begin at an offset. At the end there is none, nor inside a
character. -/
def charAt? (index : Nat) : Option Char := source.toByteArray.utf8DecodeChar? index

/-- The offset lies between two characters, or at one of the ends. -/
def IsBoundary (index : Nat) : Prop := (String.Pos.Raw.mk index).IsValid source

instance (index : Nat) : Decidable (IsBoundary source index) :=
  inferInstanceAs (Decidable ((String.Pos.Raw.mk index).IsValid source))

/-- The text between two offsets. There is none if they are out of order or cut a character. -/
def slice? (first last : Nat) : Option String :=
  if h : first ≤ last ∧ IsBoundary source first ∧ IsBoundary source last then
    some (source.extract ⟨⟨first⟩, h.2.1⟩ ⟨⟨last⟩, h.2.2⟩)
  else none

/-- The offset behind the character at an offset. Where there is none it is the same. -/
def next (index : Nat) : Nat :=
  match charAt? source index with
  | some c => index + c.utf8Size
  | none => index

/-- What is being read. A token that is read has an offset at which it began. -/
inductive Activity where
  /-- At the head of the main loop. -/
  | between
  | indenting (width : Nat)
  | naming (start : Nat)
  | quoting (start : Nat)
  /-- Behind a backslash. -/
  | escaping (start : Nat)
  /-- Where the closing quote must stand. -/
  | unquoting (start : Nat)
  | done
  /-- A text was to be cut out that there is not. -/
  | failed
deriving DecidableEq

structure State where
  index : Nat
  line : Nat
  widths : List Nat
  tokens : List Token
  activity : Activity

def start : State := ⟨0, 1, [], [], .between⟩

def State.consume (s : State) : State := { s with index := next source s.index }

def State.push (s : State) (kind : Token.Kind) (start : Nat) : State :=
  match slice? source start s.index with
  | some text => { s with tokens := s.tokens ++ [⟨kind, text, s.line⟩], activity := .between }
  | none => { s with activity := .failed }

/-- A turn of the main loop. -/
def State.begin (s : State) : State :=
  match charAt? source s.index with
  | none =>
      { s with tokens := s.tokens ++ (Scanner.mk [] s.line s.widths).close, activity := .done }
  | some c =>
      if c = '\n' then
        { s.consume source with
          line := s.line + 1
          tokens := s.tokens ++ [.bare .newline s.line]
          activity := .indenting 0 }
      else
        match Token.Kind.ofSign? c with
        | some kind => (s.consume source).push source kind s.index
        | none =>
            if c = '"' then { s.consume source with activity := .quoting s.index }
            else if isWordStart c then { s with activity := .naming s.index }
            else s.consume source

/-- A turn of the loop over the blanks at the front of a line. -/
def State.indent (s : State) (width : Nat) : State :=
  match charAt? source s.index with
  | some ' ' => { s.consume source with activity := .indenting (width + 1) }
  | some '\t' => s.consume source
  | _ =>
      let raised := Scanner.layout width s.line s.widths
      { s with widths := raised.2, tokens := s.tokens ++ raised.1, activity := .between }

/-- A turn of the loop over the characters of a word. -/
def State.name (s : State) (start : Nat) : State :=
  if (charAt? source s.index).any isWordPart then s.consume source else s.push source .word start

/-- A turn of the loop over the characters of a quoted text. -/
def State.quote (s : State) (start : Nat) : State :=
  match charAt? source s.index with
  | none | some '"' => { s with activity := .unquoting start }
  | some '\\' => { s.consume source with activity := .escaping start }
  | some _ => s.consume source

def step? (s : State) : Option State :=
  match s.activity with
  | .between => some (s.begin source)
  | .indenting width => some (s.indent source width)
  | .naming start => some (s.name source start)
  | .quoting start => some (s.quote source start)
  | .escaping start => some { s.consume source with activity := .quoting start }
  | .unquoting start => some ((s.consume source).push source .quoted start)
  | .done | .failed => none

def loop : Loop State := ⟨step? source, fun s => s.activity = .between⟩

end Machine

def Activity.start? : Activity → Option Nat
  | .naming start | .quoting start | .escaping start | .unquoting start => some start
  | _ => none

variable {source : String}

/-! ## Offsets -/

theorem isSome_charAt?_iff {index : Nat} : (charAt? source index).isSome = true ↔
    IsBoundary source index ∧ index ≠ source.utf8ByteSize := by
  have boundary : IsBoundary source index ↔
      String.Pos.Raw.mk index = source.rawEndPos ∨ (charAt? source index).isSome = true :=
    String.Pos.Raw.isValid_iff_isSome_utf8DecodeChar?
  constructor
  · intro found
    have inside : index < source.utf8ByteSize :=
      ByteArray.lt_size_of_isSome_utf8DecodeChar? found
    exact ⟨boundary.mpr (.inr found), Nat.ne_of_lt inside⟩
  · rintro ⟨place, more⟩
    refine (boundary.mp place).resolve_left fun ends => more ?_
    exact congrArg String.Pos.Raw.byteIdx ends

example : charAt? "é" 0 = some 'é' ∧ charAt? "é" 1 = none ∧ slice? "é" 0 1 = none := by
  decide

theorem charAt?_eq_none_iff {index : Nat} (boundary : IsBoundary source index) :
    charAt? source index = none ↔ index = source.utf8ByteSize := by
  rw [← Option.not_isSome_iff_eq_none, isSome_charAt?_iff]
  simp [boundary]

def octets (text : List Char) : Nat := (String.ofList text).utf8ByteSize

theorem size_utf8Encode (text : List Char) : text.utf8Encode.size = octets text := rfl

theorem octets_append (text more : List Char) :
    octets (text ++ more) = octets text + octets more := by
  rw [octets, String.ofList_append, String.utf8ByteSize_append, octets, octets]

theorem octets_cons (c : Char) (text : List Char) :
    octets (c :: text) = c.utf8Size + octets text := by
  rw [← List.singleton_append, octets_append, octets, ← String.singleton_eq_ofList,
    String.utf8ByteSize_singleton]

theorem size_toByteArray {before : List Char} (whole : source.toList = before) :
    source.toByteArray.size = octets before := by
  rw [← String.utf8Encode_toList, whole, size_utf8Encode]

theorem isBoundary_iff {index : Nat} : IsBoundary source index ↔
    ∃ before rest, source.toList = before ++ rest ∧ index = octets before := by
  rw [IsBoundary, String.Pos.Raw.isValid_iff_exists_append]
  constructor
  · rintro ⟨front, back, rfl, place⟩
    refine ⟨front.toList, back.toList, String.toList_append, ?_⟩
    rw [← size_toByteArray rfl]
    exact congrArg String.Pos.Raw.byteIdx place
  · rintro ⟨before, rest, split, rfl⟩
    refine ⟨String.ofList before, String.ofList rest, ?_, ?_⟩
    · rw [← String.ofList_append, ← split, String.ofList_toList]
    · rw [← size_toByteArray String.toList_ofList]
      rfl

theorem isBoundary_octets {before rest : List Char} (split : source.toList = before ++ rest) :
    IsBoundary source (octets before) := isBoundary_iff.mpr ⟨before, rest, split, rfl⟩

theorem charAt?_octets {before rest : List Char} (split : source.toList = before ++ rest) :
    charAt? source (octets before) = rest.head? := by
  have bytes : source.toByteArray = before.utf8Encode ++ rest.utf8Encode := by
    rw [← String.utf8Encode_toList, split, List.utf8Encode_append]
  rw [charAt?, ByteArray.utf8DecodeChar?_eq_utf8DecodeChar?_extract, bytes,
    ByteArray.extract_append_eq_right (size_utf8Encode before).symm ByteArray.size_append]
  cases rest with
  | nil => decide
  | cons c rest => exact List.utf8DecodeChar?_utf8Encode_cons

theorem charAt?_end {before : List Char} (whole : source.toList = before) :
    charAt? source (octets before) = none :=
  charAt?_octets (whole.trans (List.append_nil before).symm)

theorem next_octets {before rest : List Char} {c : Char}
    (split : source.toList = before ++ c :: rest) :
    next source (octets before) = octets (before ++ [c]) := by
  rw [next, charAt?_octets split, octets_append, octets_cons]
  rfl

theorem next_end {before : List Char} (whole : source.toList = before) :
    next source (octets before) = octets before := by
  rw [next, charAt?_end whole]

theorem isBoundary_next {index : Nat} (boundary : IsBoundary source index) :
    IsBoundary source (next source index) := by
  obtain ⟨before, rest, split, rfl⟩ := isBoundary_iff.mp boundary
  cases rest with
  | nil => rwa [next_end (by simpa using split)]
  | cons c rest =>
      rw [next_octets split]
      exact isBoundary_octets (split.trans (List.append_cons before c rest))

theorem le_next (source : String) (index : Nat) : index ≤ next source index := by
  unfold next
  split
  · exact Nat.le_add_right _ _
  · exact Nat.le_refl _

theorem extract_octets (before part rest : List Char) :
    (before ++ part ++ rest).utf8Encode.extract (octets before) (octets (before ++ part)) =
      part.utf8Encode := by
  have behind := ByteArray.extract_append_size_add (a := before.utf8Encode)
    (b := part.utf8Encode ++ rest.utf8Encode) (i := 0) (j := part.utf8Encode.size)
  rw [Nat.add_zero, ByteArray.extract_append_eq_left rfl] at behind
  rw [octets_append, ← size_utf8Encode before, ← size_utf8Encode part, List.utf8Encode_append,
    List.utf8Encode_append, ByteArray.append_assoc, behind]

theorem slice?_octets {before part rest : List Char}
    (split : source.toList = before ++ part ++ rest) :
    slice? source (octets before) (octets (before ++ part)) = some (String.ofList part) := by
  have first := isBoundary_octets (split.trans (List.append_assoc before part rest))
  have last := isBoundary_octets split
  have order : octets before ≤ octets (before ++ part) := by
    rw [octets_append]
    exact Nat.le_add_right _ _
  rw [slice?, dif_pos ⟨order, first, last⟩, Option.some.injEq, ← String.toByteArray_inj,
    String.toByteArray_extract, String.toByteArray_ofList, ← String.utf8Encode_toList, split]
  exact extract_octets before part rest

theorem isSome_slice? {first last : Nat} (order : first ≤ last)
    (begins : IsBoundary source first) (ends : IsBoundary source last) :
    (slice? source first last).isSome = true := by
  rw [slice?, dif_pos ⟨order, begins, ends⟩]
  rfl

/-! ## What every state keeps -/

/-- The offset is between two characters, and so is the beginning of what is being read. -/
structure Placed (source : String) (s : State) : Prop where
  index : IsBoundary source s.index
  start : ∀ start ∈ s.activity.start?, IsBoundary source start ∧ start ≤ s.index
  running : s.activity ≠ .failed

variable {s t : State}

theorem Placed.consume (h : Placed source s) : Placed source (s.consume source) where
  index := isBoundary_next h.index
  start start member := by
    obtain ⟨begins, order⟩ := h.start start member
    exact ⟨begins, Nat.le_trans order (le_next source s.index)⟩
  running := h.running

theorem Placed.push (h : Placed source s) {start : Nat} (begins : IsBoundary source start)
    (order : start ≤ s.index) (kind : Token.Kind) : Placed source (s.push source kind start) := by
  obtain ⟨text, cut⟩ := Option.isSome_iff_exists.mp (isSome_slice? order begins h.index)
  simp only [State.push, cut]
  exact ⟨h.index, by simp [Activity.start?], by simp⟩

theorem Placed.turn (h : Placed source s) (line : Nat) (widths : List Nat) (tokens : List Token)
    {activity : Activity} (noStart : activity.start? = none) (running : activity ≠ .failed) :
    Placed source ⟨s.index, line, widths, tokens, activity⟩ where
  index := h.index
  start := by simp [noStart]
  running := running

theorem Placed.goOn (h : Placed source s) {start : Nat} (begins : IsBoundary source start)
    (order : start ≤ s.index) {activity : Activity} (same : activity.start? = some start)
    (running : activity ≠ .failed) : Placed source { s with activity } where
  index := h.index
  start := by
    intro other member
    obtain rfl : start = other := by simpa [same] using member
    exact ⟨begins, order⟩
  running := running

theorem moves_iff : (loop source).Moves s t ↔ step? source s = some t := Iff.rfl

theorem Placed.begin (h : Placed source s) : Placed source (s.begin source) := by
  have passed := h.consume
  have further := le_next source s.index
  unfold State.begin
  split
  · exact h.turn _ _ _ rfl (by simp)
  · split
    · exact passed.turn _ _ _ rfl (by simp)
    · split
      · exact passed.push h.index further _
      · split
        · exact passed.goOn h.index further rfl (by simp)
        · split
          · exact h.goOn h.index (Nat.le_refl _) rfl (by simp)
          · exact passed

theorem Placed.indent (h : Placed source s) (width : Nat) :
    Placed source (s.indent source width) := by
  unfold State.indent
  split
  · exact h.consume.turn _ _ _ rfl (by simp)
  · exact h.consume
  · exact h.turn _ _ _ rfl (by simp)

theorem Placed.name (h : Placed source s) {start : Nat} (began : s.activity.start? = some start) :
    Placed source (s.name source start) := by
  obtain ⟨begins, order⟩ := h.start start began
  unfold State.name
  split
  · exact h.consume
  · exact h.push begins order _

theorem Placed.quote (h : Placed source s) {start : Nat}
    (began : s.activity.start? = some start) : Placed source (s.quote source start) := by
  obtain ⟨begins, order⟩ := h.start start began
  obtain ⟨-, passedOrder⟩ := h.consume.start start began
  unfold State.quote
  split
  · exact h.goOn begins order rfl (by simp)
  · exact h.goOn begins order rfl (by simp)
  · exact h.consume.goOn begins passedOrder rfl (by simp)
  · exact h.consume

theorem Placed.moves (h : Placed source s) (move : (loop source).Moves s t) :
    Placed source t := by
  obtain ⟨index, line, widths, tokens, activity⟩ := s
  rw [moves_iff] at move
  cases activity with
  | between =>
      cases move
      exact h.begin
  | indenting width =>
      cases move
      exact h.indent width
  | naming start =>
      cases move
      exact h.name rfl
  | quoting start =>
      cases move
      exact h.quote rfl
  | escaping start =>
      cases move
      obtain ⟨begins, order⟩ := h.consume.start start rfl
      exact h.consume.goOn begins order rfl (by simp)
  | unquoting start =>
      cases move
      obtain ⟨begins, order⟩ := h.consume.start start rfl
      exact h.consume.push begins order _
  | done => cases move
  | failed => cases move

theorem placed_start (source : String) : Placed source start where
  index := isBoundary_octets (List.nil_append source.toList).symm
  start := by simp [ByteCursor.start, Activity.start?]
  running := by simp [ByteCursor.start]

theorem placed (reached : (loop source).Reaches start s) : Placed source s :=
  reached.keeps (fun _ _ h move => h.moves move) (placed_start source)

/-! ## Rounds -/

variable {before part rest : List Char} {line : Nat} {widths : List Nat} {tokens : List Token}
  {activity : Activity}

theorem returns_of_step? {last : State} (inside : s.activity ≠ .between)
    (move : step? source s = some t) (behind : (loop source).Returns t last) :
    (loop source).Returns s last := .move (by simpa [loop] using inside) move behind

theorem consume_octets {c : Char} (split : source.toList = before ++ c :: rest) :
    State.consume source ⟨octets before, line, widths, tokens, activity⟩ =
      ⟨octets (before ++ [c]), line, widths, tokens, activity⟩ := by
  simp only [State.consume, next_octets split]

theorem consume_end (whole : source.toList = before) :
    State.consume source ⟨octets before, line, widths, tokens, activity⟩ =
      ⟨octets before, line, widths, tokens, activity⟩ := by
  simp only [State.consume, next_end whole]

theorem consume_blind (split : source.toList = before ++ part ++ rest)
    (blind : (∃ c, part = [c]) ∨ part = [] ∧ rest = []) :
    State.consume source ⟨octets before, line, widths, tokens, activity⟩ =
      ⟨octets (before ++ part), line, widths, tokens, activity⟩ := by
  rcases blind with ⟨c, rfl⟩ | ⟨rfl, rfl⟩
  · exact consume_octets (split.trans (List.append_assoc before [c] rest))
  · rw [consume_end (by simpa using split), List.append_nil]

theorem push_octets (split : source.toList = before ++ part ++ rest) (kind : Token.Kind) :
    State.push source ⟨octets (before ++ part), line, widths, tokens, activity⟩ kind
        (octets before) =
      ⟨octets (before ++ part), line, widths, tokens ++ [⟨kind, String.ofList part, line⟩],
        .between⟩ := by
  simp only [State.push, slice?_octets split]

theorem returns_indenting (split : source.toList = before ++ rest) (width : Nat) :
    let raised := Scanner.layout (width + (rest.takeWhile isBlank).count ' ') line widths
    (loop source).Returns ⟨octets before, line, widths, tokens, .indenting width⟩
      ⟨octets (before ++ rest.takeWhile isBlank), line, raised.2, tokens ++ raised.1,
        .between⟩ := by
  have here := charAt?_octets split
  -- on what is left, for any width counted before; a tab is passed but does not count
  induction rest generalizing before width with
  | nil =>
      refine returns_of_step? (by simp) ?_ (.arrived rfl)
      simp [step?, State.indent, here]
  | cons c rest ih =>
      have split' := split.trans (List.append_cons before c rest)
      have behind (width : Nat) := ih split' width (charAt?_octets split')
      simp only [List.append_assoc, List.singleton_append] at behind
      cases blank : isBlank c with
      | true =>
          rw [List.takeWhile_cons_of_pos blank]
          rw [isBlank, Bool.or_eq_true, beq_iff_eq, beq_iff_eq] at blank
          rcases blank with rfl | rfl
          · rw [List.count_cons_self, Nat.add_comm _ 1, ← Nat.add_assoc]
            refine returns_of_step? (by simp) ?_ (behind (width + 1))
            simp [step?, State.indent, here, consume_octets split]
          · rw [List.count_cons_of_ne (by decide)]
            refine returns_of_step? (by simp) ?_ (behind width)
            simp [step?, State.indent, here, consume_octets split]
      | false =>
          have other : c ≠ ' ' ∧ c ≠ '\t' := by simpa [isBlank] using blank
          rw [List.takeWhile_cons_of_neg (by simp [blank])]
          refine returns_of_step? (by simp) ?_ (.arrived rfl)
          simp [step?, State.indent, here, other]

theorem returns_naming (split : source.toList = before ++ part ++ rest) :
    (loop source).Returns
      ⟨octets (before ++ part), line, widths, tokens, .naming (octets before)⟩
      ⟨octets (before ++ (part ++ rest.takeWhile isWordPart)), line, widths,
        tokens ++ [⟨.word, String.ofList (part ++ rest.takeWhile isWordPart), line⟩],
        .between⟩ := by
  have here := charAt?_octets split
  induction rest generalizing part with
  | nil =>
      refine returns_of_step? (by simp) ?_ (.arrived rfl)
      simp [step?, State.name, here, push_octets split]
  | cons c rest ih =>
      cases inWord : isWordPart c with
      | true =>
          have split' : source.toList = before ++ (part ++ [c]) ++ rest := by simpa using split
          have behind := ih split' (charAt?_octets split')
          rw [List.takeWhile_cons_of_pos inWord, List.append_cons]
          refine returns_of_step? (by simp) ?_ behind
          simp [step?, State.name, here, inWord, consume_octets split]
      | false =>
          rw [List.takeWhile_cons_of_neg (by simp [inWord]), List.append_nil]
          refine returns_of_step? (by simp) ?_ (.arrived rfl)
          simp [step?, State.name, here, inWord, push_octets split]

theorem returns_unquoting {closing : List Char}
    (split : source.toList = before ++ (part ++ closing) ++ rest)
    (blind : (∃ c, closing = [c]) ∨ closing = [] ∧ rest = []) :
    (loop source).Returns
      ⟨octets (before ++ part), line, widths, tokens, .unquoting (octets before)⟩
      ⟨octets (before ++ (part ++ closing)), line, widths,
        tokens ++ [⟨.quoted, String.ofList (part ++ closing), line⟩], .between⟩ := by
  have passed : State.consume source
        ⟨octets (before ++ part), line, widths, tokens, .unquoting (octets before)⟩ =
      ⟨octets (before ++ (part ++ closing)), line, widths, tokens,
        .unquoting (octets before)⟩ := by
    rw [← List.append_assoc] at split ⊢
    exact consume_blind split blind
  refine returns_of_step? (by simp) ?_ (.arrived rfl)
  simp only [step?, passed, push_octets split]

theorem returns_escaping {hidden : List Char} {last : State}
    (split : source.toList = before ++ (part ++ '\\' :: hidden) ++ rest)
    (blind : (∃ c, hidden = [c]) ∨ hidden = [] ∧ rest = [])
    (behind : (loop source).Returns ⟨octets (before ++ (part ++ '\\' :: hidden)), line, widths,
      tokens, .quoting (octets before)⟩ last) :
    (loop source).Returns
      ⟨octets (before ++ part), line, widths, tokens, .quoting (octets before)⟩ last := by
  have here : source.toList = before ++ part ++ '\\' :: (hidden ++ rest) := by simpa using split
  have escaped : source.toList = before ++ part ++ ['\\'] ++ hidden ++ rest := by
    simpa using split
  have passed : State.consume source
        ⟨octets (before ++ part ++ ['\\']), line, widths, tokens, .escaping (octets before)⟩ =
      ⟨octets (before ++ (part ++ '\\' :: hidden)), line, widths, tokens,
        .escaping (octets before)⟩ := by
    rw [consume_blind escaped blind]
    simp
  refine returns_of_step? (by simp) (t := ⟨octets (before ++ part ++ ['\\']), line, widths,
    tokens, .escaping (octets before)⟩) ?_ (returns_of_step? (by simp) ?_ behind)
  · simp [step?, State.quote, charAt?_octets here, consume_octets here]
  · simp only [step?, passed]

theorem returns_quoting_end (whole : source.toList = before ++ part) :
    (loop source).Returns
      ⟨octets (before ++ part), line, widths, tokens, .quoting (octets before)⟩
      ⟨octets (before ++ part), line, widths,
        tokens ++ [⟨.quoted, String.ofList part, line⟩], .between⟩ := by
  have ended : source.toList = before ++ (part ++ []) ++ [] := by simpa using whole
  have closed : (loop source).Returns
      ⟨octets (before ++ part), line, widths, tokens, .unquoting (octets before)⟩
      ⟨octets (before ++ part), line, widths,
        tokens ++ [⟨.quoted, String.ofList part, line⟩], .between⟩ := by
    simpa only [List.append_nil] using returns_unquoting ended (.inr ⟨rfl, rfl⟩)
  refine returns_of_step? (by simp) ?_ closed
  simp [step?, State.quote, charAt?_end whole]

theorem quote_octets {c : Char} (split : source.toList = before ++ c :: rest) (quote : c ≠ '"')
    (backslash : c ≠ '\\') (start : Nat) :
    State.quote source ⟨octets before, line, widths, tokens, activity⟩ start =
      ⟨octets (before ++ [c]), line, widths, tokens, activity⟩ := by
  -- the hypotheses on the character rule the other rows of the match out
  simp only [State.quote, charAt?_octets split, List.head?_cons, consume_octets split]

theorem returns_quoting (split : source.toList = before ++ part ++ rest) :
    (loop source).Returns
      ⟨octets (before ++ part), line, widths, tokens, .quoting (octets before)⟩
      ⟨octets (before ++ (part ++ (splitQuoted rest).1)), line, widths,
        tokens ++ [⟨.quoted, String.ofList (part ++ (splitQuoted rest).1), line⟩],
        .between⟩ := by
  have here := charAt?_octets split
  -- on the splitting of the text, where a part of it has been passed already
  fun_induction splitQuoted rest generalizing part with
  | case1 =>
      rw [List.append_nil] at split ⊢
      exact returns_quoting_end split
  | case2 =>
      have behind : source.toList = before ++ (part ++ ['\\']) := by simpa using split
      exact returns_escaping (by simpa using split) (.inr ⟨rfl, rfl⟩) (returns_quoting_end behind)
  | case3 c rest ih =>
      have hidden : source.toList = before ++ (part ++ ['\\', c]) ++ rest := by simpa using split
      have behind := ih hidden (charAt?_octets hidden)
      rw [List.append_assoc part] at behind
      exact returns_escaping hidden (.inl ⟨c, rfl⟩) behind
  | case4 rest =>
      have closed : source.toList = before ++ (part ++ ['"']) ++ rest := by simpa using split
      refine returns_of_step? (by simp) ?_ (returns_unquoting closed (.inl ⟨'"', rfl⟩))
      simp [step?, State.quote, here]
  | case5 c rest alone more quote ih =>
      have passed : source.toList = before ++ (part ++ [c]) ++ rest := by simpa using split
      have behind := ih passed (charAt?_octets passed)
      rw [List.append_assoc part] at behind
      have backslash : c ≠ '\\' := by
        rintro rfl
        cases rest with
        | nil => exact alone rfl rfl
        | cons d rest => exact more d rest rfl rfl
      refine returns_of_step? (by simp) ?_ behind
      simp only [step?, quote_octets split quote backslash, List.append_assoc]

theorem ne_of_isWordStart {c : Char} (start : isWordStart c = true) : c ≠ '\n' ∧ c ≠ '"' := by
  constructor <;> rintro rfl <;> revert start <;> decide

theorem ofSign?_of_isWordStart {c : Char} (start : isWordStart c = true) :
    Token.Kind.ofSign? c = none := by
  cases sign : Token.Kind.ofSign? c with
  | none => rfl
  | some kind =>
      rcases ofSign?_eq_some sign with ⟨rfl, -⟩ | ⟨rfl, -⟩ | ⟨rfl, -⟩
      all_goals exact absurd start (by decide)

/-- A round of the main loop takes a step of the scanner. -/
theorem round_of_step {s next : Scanner} {read : List Token} (step : Scanner.Step s read next)
    (split : source.toList = before ++ s.rest) (tokens : List Token) :
    ∃ taken, s.rest = taken ++ next.rest ∧
      (loop source).Round ⟨octets before, s.line, s.widths, tokens, .between⟩
        ⟨octets (before ++ taken), next.line, next.widths, tokens ++ read, .between⟩ := by
  -- the first character decides on the step of the scanner, and just so on the loop that is entered
  cases step with
  | lineBreak rest line widths =>
      have opened : step? source ⟨octets before, line, widths, tokens, .between⟩ =
          some ⟨octets (before ++ ['\n']), line + 1, widths, tokens ++ [.bare .newline line],
            .indenting 0⟩ := by
        simp [step?, State.begin, charAt?_octets split, consume_octets split]
      refine ⟨'\n' :: rest.takeWhile isBlank, by simp [Scanner.breakLine], rfl, _, opened, ?_⟩
      have indented := @returns_indenting source (before ++ ['\n']) rest (line + 1) widths
        (tokens ++ [.bare .newline line]) (split.trans (List.append_cons before '\n' rest)) 0
      simpa [Scanner.breakLine] using indented
  | @sign c kind sign rest line widths =>
      have newline : c ≠ '\n' := by
        rintro rfl
        cases sign
      have closed : source.toList = before ++ [c] ++ rest := by simpa using split
      have opened : step? source ⟨octets before, line, widths, tokens, .between⟩ =
          some ⟨octets (before ++ [c]), line, widths,
            tokens ++ [⟨kind, String.ofList [c], line⟩], .between⟩ := by
        simp [step?, State.begin, charAt?_octets split, newline, sign, consume_octets split,
          push_octets closed]
      exact ⟨[c], rfl, rfl, _, opened, .arrived rfl⟩
  | quoted rest line widths =>
      have opened : step? source ⟨octets before, line, widths, tokens, .between⟩ =
          some ⟨octets (before ++ ['"']), line, widths, tokens, .quoting (octets before)⟩ := by
        simp [step?, State.begin, charAt?_octets split, Token.Kind.ofSign?, consume_octets split]
      refine ⟨'"' :: (splitQuoted rest).1, by simp [splitQuoted_append], rfl, _, opened, ?_⟩
      exact returns_quoting (split.trans (List.append_cons before '"' rest))
  | @word c start rest line widths =>
      have opened : step? source ⟨octets before, line, widths, tokens, .between⟩ =
          some ⟨octets before, line, widths, tokens, .naming (octets before)⟩ := by
        simp [step?, State.begin, charAt?_octets split, start, ne_of_isWordStart start,
          ofSign?_of_isWordStart start]
      have named := @returns_naming source before [] (c :: rest) line widths tokens
        (by simpa using split)
      rw [List.takeWhile_cons_of_pos (isWordPart_of_isWordStart start), List.nil_append,
        List.append_nil] at named
      exact ⟨c :: rest.takeWhile isWordPart, by simp, rfl, _, opened, named⟩
  | @filler c filler rest line widths =>
      obtain ⟨noWord, noSign, quote, newline⟩ := isFiller_iff.mp filler
      have opened : step? source ⟨octets before, line, widths, tokens, .between⟩ =
          some ⟨octets (before ++ [c]), line, widths, tokens ++ [], .between⟩ := by
        simp [step?, State.begin, charAt?_octets split, newline, noSign, quote, noWord,
          consume_octets split]
      exact ⟨[c], rfl, rfl, _, opened, .arrived rfl⟩

theorem exists_step {c : Char} {rest : List Char} (line : Nat) (widths : List Nat) :
    ∃ read next, Scanner.Step ⟨c :: rest, line, widths⟩ read next := by
  cases found : (Scanner.mk (c :: rest) line widths).step? with
  | none => cases Scanner.rest_of_step?_eq_none found
  | some result => exact ⟨result.1, result.2, Scanner.step_of_step? found⟩

theorem round_advances (boundary : IsBoundary source s.index) (head : s.activity = .between)
    {c : Char} (here : charAt? source s.index = some c) :
    (∃ next, (loop source).Round s next) ∧
      ∀ next, (loop source).Round s next → s.index + c.utf8Size ≤ next.index := by
  obtain ⟨index, line, widths, tokens, activity⟩ := s
  obtain rfl : activity = .between := head
  obtain ⟨before, rest, split, rfl⟩ := isBoundary_iff.mp boundary
  rw [charAt?_octets split] at here
  obtain ⟨rest, rfl⟩ := List.head?_eq_some_iff.mp here
  obtain ⟨read, after, step⟩ := exists_step line widths
  obtain ⟨taken, front, round⟩ := round_of_step step split tokens
  refine ⟨⟨_, round⟩, fun next other => ?_⟩
  obtain rfl := round.unique other
  -- the part that is taken is not empty, so it begins with the character
  have shorter := Scanner.step?_shorter (Scanner.step?_of_step step)
  cases taken with
  | nil =>
      have same := congrArg List.length front
      simp only [List.nil_append, List.length_cons] at same shorter
      omega
  | cons d taken =>
      obtain rfl : c = d := by simpa using congrArg List.head? front
      rw [octets_append, octets_cons]
      show octets before + c.utf8Size ≤ octets before + (c.utf8Size + octets taken)
      omega

theorem reaches_end (s : Scanner) (before : List Char) (split : source.toList = before ++ s.rest)
    (tokens : List Token) :
    ∃ last, (loop source).Reaches ⟨octets before, s.line, s.widths, tokens, .between⟩ last ∧
      last.activity = .done ∧ last.tokens = tokens ++ s.tokens := by
  induction s using Scanner.run_induction generalizing before tokens with
  | ending line widths =>
      have whole : source.toList = before := by simpa using split
      refine ⟨_, .single (moves_iff.mpr rfl), ?_⟩
      simp [State.begin, charAt?_end whole, Scanner.tokens_nil]
  | step s read next step ih =>
      obtain ⟨taken, front, round⟩ := round_of_step step split tokens
      obtain ⟨last, reached, ended, all⟩ := ih (before ++ taken) (by simp [split, front])
        (tokens ++ read)
      refine ⟨last, round.reaches.trans reached, ended, ?_⟩
      rw [all, Scanner.tokens_of_step step, List.append_assoc]

/-! ## The cursor -/

/-- The scanner by offsets over a source text. -/
structure Sound (source : String) : Prop where
  /-- No state passes the end of the source or stands inside a character. -/
  boundary {s : State} (reached : (loop source).Reaches start s) :
    s.index ≤ source.utf8ByteSize ∧ IsBoundary source s.index
  /-- A look finds no character at the end of the source only. -/
  looks {s : State} (reached : (loop source).Reaches start s) :
    charAt? source s.index = none ↔ s.index = source.utf8ByteSize
  /-- Every text that is cut out is there. -/
  running {s : State} (reached : (loop source).Reaches start s) : s.activity ≠ .failed
  /-- Where a character is left the main loop comes to its head again, behind that character. -/
  advances {s : State} (reached : (loop source).Reaches start s) (head : s.activity = .between)
    {c : Char} (here : charAt? source s.index = some c) :
    (∃ next, (loop source).Round s next) ∧
      ∀ next, (loop source).Round s next → s.index + c.utf8Size ≤ next.index
  /-- The loop ends, with the tokens of the source. -/
  ends : ∃ last, (loop source).Reaches start last ∧ last.activity = .done ∧
    last.tokens = Token.scan source

theorem cursor_sound (source : String) : Sound source where
  boundary reached :=
    have index := (placed reached).index
    ⟨index.le_utf8ByteSize, index⟩
  looks reached := charAt?_eq_none_iff (placed reached).index
  running reached := (placed reached).running
  advances reached head _ here := round_advances (placed reached).index head here
  ends := reaches_end (.ofSource source) [] rfl []

end ByteCursor
end CallScript
