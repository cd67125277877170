import CallScript.Text.Alphabetic
import CallScript.Text.Numeric
import CallScript.Token

/-!
# Scanning source text

Scanning never fails: a character that begins no token is passed over. A scanner holds the rest of
the source, the number of the current line and the indentation widths that are open. One step reads
one token, one line break with the layout tokens that the next line raises, or one character of no
token.

* `Scanner.step?_shorter`: every step shortens the rest of the source, which is why scanning ends.
-/

namespace CallScript

def isWordStart (c : Char) : Bool := Text.isAlphabetic c

def isWordPart (c : Char) : Bool := Text.isAlphabetic c || Text.isNumeric c || c == '_'

def isBlank (c : Char) : Bool := c == ' ' || c == '\t'

/-- Splits behind the closing quote. A backslash hides the character after it, and without a closing
quote everything belongs to the first part. -/
def splitQuoted : List Char → List Char × List Char
  | [] => ([], [])
  | ['\\'] => (['\\'], [])
  | '\\' :: c :: rest => ('\\' :: c :: (splitQuoted rest).1, (splitQuoted rest).2)
  | c :: rest =>
      if c = '"' then (['"'], rest)
      else (c :: (splitQuoted rest).1, (splitQuoted rest).2)

theorem splitQuoted_append (source : List Char) :
    (splitQuoted source).1 ++ (splitQuoted source).2 = source := by
  fun_induction splitQuoted source <;> simp_all

theorem splitQuoted_length_le (source : List Char) :
    (splitQuoted source).2.length ≤ source.length := by
  have h := congrArg List.length (splitQuoted_append source)
  simp only [List.length_append] at h
  omega

structure Scanner where
  rest : List Char
  line : Nat
  /-- The widths of the open indentation levels, innermost first. The outermost width 0 is always
  open and is not listed. -/
  widths : List Nat
deriving DecidableEq

namespace Scanner

def ofSource (source : String) : Scanner := ⟨source.toList, 1, []⟩

/-- The layout tokens that a line of the given width raises, and the widths that are open in it. A
wider line opens one level; a narrower one closes all levels that are wider than itself. -/
def layout (width line : Nat) (widths : List Nat) : List Token × List Nat :=
  if widths.headD 0 < width then ([.bare .indent line], width :: widths)
  else
    ((widths.takeWhile (width < ·)).map fun _ => .bare .dedent line,
      widths.dropWhile (width < ·))

/-- Reads a line break together with the indentation of the line that it begins. -/
def breakLine (line : Nat) (widths : List Nat) (rest : List Char) : List Token × Scanner :=
  let width := (rest.takeWhile isBlank).count ' '
  let raised := layout width (line + 1) widths
  (.bare .newline line :: raised.1, ⟨rest.dropWhile isBlank, line + 1, raised.2⟩)

/-- Takes one step: the tokens it reads and the scanner after them, or `none` at the end. -/
def step? (s : Scanner) : Option (List Token × Scanner) :=
  match s.rest with
  | [] => none
  | c :: rest =>
      if c = '\n' then some (breakLine s.line s.widths rest)
      else if c = '(' then some ([⟨.openParen, "(", s.line⟩], { s with rest := rest })
      else if c = ')' then some ([⟨.closeParen, ")", s.line⟩], { s with rest := rest })
      else if c = ':' then some ([⟨.colon, ":", s.line⟩], { s with rest := rest })
      else if c = '"' then
        some ([⟨.quoted, String.ofList ('"' :: (splitQuoted rest).1), s.line⟩],
          { s with rest := (splitQuoted rest).2 })
      else if isWordStart c then
        some ([⟨.word, String.ofList (c :: rest.takeWhile isWordPart), s.line⟩],
          { s with rest := rest.dropWhile isWordPart })
      else some ([], { s with rest := rest })

theorem step?_shorter {s next : Scanner} {tokens : List Token}
    (h : s.step? = some (tokens, next)) : next.rest.length < s.rest.length := by
  obtain ⟨source, line, widths⟩ := s
  cases source with
  | nil => simp [step?] at h
  | cons c rest =>
      have blanks := (List.dropWhile_sublist (l := rest) isBlank).length_le
      have parts := (List.dropWhile_sublist (l := rest) isWordPart).length_le
      have quoted := splitQuoted_length_le rest
      simp only [step?] at h
      repeat' split at h
      all_goals
        simp only [breakLine, Option.some.injEq, Prod.mk.injEq] at h
        obtain ⟨-, rfl⟩ := h
        simp only [List.length_cons]
        omega

/-- The tokens at the end of the source: every open level is closed. -/
def close (s : Scanner) : List Token :=
  (s.widths.map fun _ => .bare .dedent s.line) ++ [.bare .endOfInput s.line]

def tokens (s : Scanner) : List Token :=
  match _h : s.step? with
  | none => s.close
  | some (read, next) => read ++ next.tokens
termination_by s.rest.length
decreasing_by exact step?_shorter (by assumption)

theorem tokens_of_step?_eq_none {s : Scanner} (h : s.step? = none) : s.tokens = s.close := by
  rw [tokens]
  split <;> simp_all

theorem tokens_of_step?_eq_some {s next : Scanner} {read : List Token}
    (h : s.step? = some (read, next)) : s.tokens = read ++ next.tokens := by
  rw [tokens]
  split <;> simp_all

end Scanner

def Token.scan (source : String) : List Token := (Scanner.ofSource source).tokens

end CallScript
