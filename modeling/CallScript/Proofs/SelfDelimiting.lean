import CallScript.Proofs.ReadBack

/-!
# Self-delimiting text

A written form is self-delimiting if it can be told from whatever follows it. Such forms can stand
one behind the other without separators. Literals of the host languages are self-delimiting, and so
are displayed tokens, whose texts may hold all the signs that tokens are displayed with.

* `Delimits.flatMap_injective`: forms without separators determine what was written.
* `Literal.operand_isLiteral`: an operand is one whole literal of its language.
* `Token.display_injective`: displayed tokens determine the tokens.
-/

namespace CallScript

/-- The reader takes what is written off the front of any text and leaves exactly what follows. -/
def Delimits {α : Type} (read : List Char → Option (α × List Char)) (write : α → List Char) :
    Prop :=
  ∀ value rest, read (write value ++ rest) = some (value, rest)

namespace Delimits

variable {α : Type} {read : List Char → Option (α × List Char)} {write : α → List Char}

theorem append_inj (delimits : Delimits read write) {a b : α} {r s : List Char}
    (same : write a ++ r = write b ++ s) : a = b ∧ r = s := by
  have readsA := delimits a r
  have readsB := delimits b s
  rw [same, readsB, Option.some.injEq, Prod.mk.injEq] at readsA
  exact ⟨readsA.1.symm, readsA.2.symm⟩

theorem injective (delimits : Delimits read write) : Function.Injective write := by
  intro a b same
  exact (delimits.append_inj (r := []) (s := []) (by rw [same])).1

theorem flatMap_injective (delimits : Delimits read write) (visible : ∀ value, write value ≠ []) :
    Function.Injective fun values : List α => values.flatMap write := by
  intro as bs same
  induction as generalizing bs with
  | nil =>
      cases bs with
      | nil => rfl
      | cons b bs => simp [visible] at same
  | cons a as ih =>
      cases bs with
      | nil => simp [visible] at same
      | cons b bs =>
          simp only [List.flatMap_cons] at same
          obtain ⟨rfl, behind⟩ := delimits.append_inj same
          rw [ih behind]

end Delimits

/-! ## Literals -/

namespace Literal

namespace Rules

variable {rules : Rules} {source text rest : List Char}

/-- An escape that has been read is read in the same way when more follows. -/
def Extends (rules : Rules) : Prop :=
  ∀ {source rest : List Char} {c : Char}, rules.escape source = some (c, rest) →
    ∀ more, rules.escape (source ++ more) = some (c, rest ++ more)

theorem rust_extends : Rules.rust.Extends := by
  intro source rest c h more
  change escapeByCodePoint source = some (c, rest) at h
  change escapeByCodePoint (source ++ more) = some (c, rest ++ more)
  unfold escapeByCodePoint at h
  split at h
  -- of all escapes only the one in braces has no fixed length
  case h_7 inner =>
    split at h
    · next behind found =>
        obtain ⟨meant, digits, same⟩ := Option.map_eq_some_iff.mp h
        cases same
        have brace : isHexDigit '\x7d' = false := by decide
        have inside : ∀ d ∈ inner.takeWhile isHexDigit, isHexDigit d = true :=
          fun d member => List.mem_takeWhile_imp member
        have ends : ∀ next ∈ ('\x7d' :: (rest ++ more)).head?, isHexDigit next = false := by
          simp [brace]
        have spanned := longest_span inside ends
        have whole : inner ++ more =
            inner.takeWhile isHexDigit ++ '\x7d' :: (rest ++ more) := by
          conv_lhs => rw [← List.takeWhile_append_dropWhile (p := isHexDigit) (l := inner), found]
          simp
        rw [← whole] at spanned
        simp [escapeByCodePoint, spanned, digits]
    · cases h
  all_goals cases h
  all_goals rfl

theorem go_extends : Rules.go.Extends := by
  intro source rest c h more
  change escapeByByte source = some (c, rest) at h
  change escapeByByte (source ++ more) = some (c, rest ++ more)
  unfold escapeByByte at h
  split at h
  case h_6 high low inner =>
    split at h
    · next a b highDigit lowDigit =>
        split at h
        · next small =>
            cases h
            simp [escapeByByte, highDigit, lowDigit, small]
        · cases h
    · cases h
  all_goals cases h
  all_goals rfl

theorem scanBody_append (extend : rules.Extends) (h : rules.scanBody source = some (text, rest))
    (more : List Char) : rules.scanBody (source ++ more) = some (text, rest ++ more) := by
  fun_induction scanBody rules source generalizing text with
  | case1 => cases h
  | case2 source =>
      cases h
      exact scanBody_quote (rest ++ more)
  | case3 source meant behind found quote ih =>
      obtain ⟨⟨inner, left⟩, scanned, same⟩ := Option.map_eq_some_iff.mp h
      cases same
      rw [List.cons_append, scanBody_escape (extend found more), ih scanned]
      rfl
  | case4 => cases h
  | case5 c source quote backslash raw ih =>
      obtain ⟨⟨inner, left⟩, scanned, same⟩ := Option.map_eq_some_iff.mp h
      cases same
      rw [List.cons_append, scanBody_raw quote backslash raw, ih scanned]
      rfl
  | case6 => cases h

theorem scan_append (extend : rules.Extends) (h : rules.scan source = some (text, rest))
    (more : List Char) : rules.scan (source ++ more) = some (text, rest ++ more) := by
  unfold scan at h
  split at h
  · exact scanBody_append extend h more
  · cases h

end Rules

/-- The text is one whole literal: it is scanned up to its end whatever follows, and nothing shorter
at its front is a literal. -/
structure IsLiteral (rules : Rules) (literal value : String) : Prop where
  scans : ∀ rest, rules.scan (literal.toList ++ rest) = some (value.toList, rest)
  shortest : ∀ front, front <+: literal.toList → front ≠ literal.toList → rules.scan front = none

theorem isLiteral_quoteWith {rules : Rules} {escape : Char → List Char} (extend : rules.Extends)
    (reads : rules.Reads escape) (value : String) :
    IsLiteral rules (String.ofList (Text.quoteWith escape value.toList)) value := by
  refine ⟨fun rest => ?_, fun front isFront other => ?_⟩
  · rw [String.toList_ofList]
    exact Rules.scan_quoteWith reads value.toList rest
  · rw [String.toList_ofList] at isFront other
    obtain ⟨more, whole⟩ := isFront
    cases scanned : rules.scan front with
    | none => rfl
    | some found =>
        -- what is scanned of the front would be scanned of the whole, with something left behind
        have longer := Rules.scan_append extend scanned more
        have scansAll := Rules.scan_quoteWith reads value.toList []
        rw [List.append_nil] at scansAll
        rw [whole, scansAll, Option.some.injEq, Prod.mk.injEq] at longer
        have noMore : more = [] := (List.append_eq_nil_iff.mp longer.2.symm).2
        rw [noMore, List.append_nil] at whole
        exact absurd whole other

/-- A text among the arguments is written as one whole literal of the host language, which ends at
its own closing quote whatever follows and means the text. For Rust this holds whatever characters
are thought fit to stand as themselves. -/
theorem operand_isLiteral (value : String) :
    (∃ literal, Dialect.go.operand? (.text value) = some literal ∧ IsLiteral .go literal value) ∧
    Dialect.rust.operand? (.text value) = some (Text.quoteBy Text.standsAlone value) ∧
    ∀ plain, IsLiteral .rust (Text.quoteBy plain value) value :=
  ⟨⟨Text.quoteBytes value, rfl, isLiteral_quoteWith Rules.go_extends go_reads value⟩,
    rfl,
    fun plain => isLiteral_quoteWith Rules.rust_extends (rust_reads plain) value⟩

end Literal

/-! ## Displayed tokens -/

namespace Token

open HostReader Literal

def Kind.all : List Kind :=
  [.endOfInput, .word, .quoted, .number, .openParen, .closeParen, .colon, .indent, .dedent,
    .newline]

def Kind.named? (name : List Char) : Option Kind := all.find? fun kind => kind.name.toList = name

theorem Kind.named?_name (kind : Kind) : named? kind.name.toList = some kind := by
  cases kind <;> simp [named?, all, name]

theorem Kind.ne_comma_of_mem_name (kind : Kind) : ∀ c ∈ kind.name.toList, c ≠ ',' := by
  cases kind <;> simp [name]

/-- Reads a displayed token: its kind up to a comma, its text as a literal, and its line in decimal
digits. -/
def readDisplayed (source : List Char) : Option (Token × List Char) := do
  let source ← expect "Token\x7b" source
  let kind ← Kind.named? (source.takeWhile (· ≠ ','))
  let source ← expect ", " (source.dropWhile (· ≠ ','))
  let (text, source) ← Rules.rust.scan source
  let source ← expect ", Line: " source
  let line := Nat.ofDigitChars 10 (source.takeWhile Char.isDigit) 0
  let rest ← expect "\x7d" (source.dropWhile Char.isDigit)
  return (⟨kind, String.ofList text, line⟩, rest)

theorem delimits_displayBy (plain : Char → Bool) :
    Delimits readDisplayed fun token => (token.displayBy plain).toList := by
  intro token rest
  let behindText := ", Line: ".toList ++ (Nat.toDigits 10 token.line ++ ("\x7d".toList ++ rest))
  let behindKind := ", ".toList ++ ((Text.quoteBy plain token.text).toList ++ behindText)
  -- a comma ends the kind, the closing quote the text, and a brace the digits
  have kindEnds : ∀ next ∈ behindKind.head?, decide (next ≠ ',') = false := by simp [behindKind]
  have kindInside : ∀ c ∈ token.kind.name.toList, decide (c ≠ ',') = true := by
    simpa using token.kind.ne_comma_of_mem_name
  have kind := longest_span kindInside kindEnds
  have lineEnds : ∀ next ∈ ("\x7d".toList ++ rest).head?, next.isDigit = false := by simp
  have lineInside : ∀ c ∈ Nat.toDigits 10 token.line, c.isDigit = true := fun c member =>
    Nat.isDigit_of_mem_toDigits (by decide) (by decide) member
  have line := longest_span lineInside lineEnds
  have displayed : (token.displayBy plain).toList ++ rest =
      "Token\x7b".toList ++ (token.kind.name.toList ++ behindKind) := by
    simp only [displayBy, String.toList_append, Nat.toString_eq_ofList_toDigits,
      String.toList_ofList, List.append_assoc, behindKind, behindText]
  rw [displayed, readDisplayed, expect_append]
  simp only [Option.bind_eq_bind, Option.bind_some, kind, Kind.named?_name]
  simp only [behindKind, behindText, Option.bind_some, expect_append]
  rw [Text.quoteBy, String.toList_ofList, Rules.scan_quoteWith (rust_reads plain)]
  simp only [Option.bind_some, expect_append, line, Nat.ofDigitChars_ten_toDigits,
    String.ofList_toList, Option.pure_def]

theorem displayBy_ne_nil (plain : Char → Bool) (token : Token) :
    (token.displayBy plain).toList ≠ [] := by
  simp [displayBy]

/-- Tokens with the same displayed form are the same, and even a list of tokens is determined by
their displayed forms without separators, whatever characters stand as themselves in the texts. -/
theorem display_injective (plain : Char → Bool) :
    Function.Injective (displayBy plain) ∧
      Function.Injective fun tokens : List Token => String.join (tokens.map (displayBy plain)) := by
  refine ⟨fun a b same => ?_, fun as bs same => ?_⟩
  · exact (delimits_displayBy plain).injective (congrArg String.toList same)
  · have flat := congrArg String.toList same
    simp only [String.toList_join, List.flatMap_map] at flat
    exact (delimits_displayBy plain).flatMap_injective (displayBy_ne_nil plain) flat

end Token
end CallScript
