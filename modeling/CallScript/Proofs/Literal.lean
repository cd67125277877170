import CallScript.Proofs.LongestPrefix
import CallScript.Text.Quoted

/-!
# Text literals of the host languages

How a host language reads a text between double quotes: the escapes it knows behind a backslash and
the characters that may stand as themselves. Scanning a literal gives its text and what is left
behind the closing quote. Nothing here refers to how texts are written.

* `Literal.Rules.scan_quoteWith`: if every written character reads back, so does every text, up to
  its closing quote and no further, whatever follows.
* `Literal.rust_reads`, `Literal.go_reads`: the written characters of both languages read back.
-/

namespace CallScript.Literal

/-! ## Hexadecimal digits -/

def hexDigit? (c : Char) : Option Nat :=
  if c.isDigit then some (c.toNat - '0'.toNat)
  else if 'a' ≤ c ∧ c ≤ 'f' then some (c.toNat - 'a'.toNat + 10)
  else if 'A' ≤ c ∧ c ≤ 'F' then some (c.toNat - 'A'.toNat + 10)
  else none

def isHexDigit (c : Char) : Bool := (hexDigit? c).isSome

def hexValue (digits : List Char) : Nat :=
  digits.foldl (fun value c => 16 * value + (hexDigit? c).getD 0) 0

theorem hexDigit?_digitChar {n : Nat} (small : n < 16) : hexDigit? (Nat.digitChar n) = some n := by
  revert n
  decide

theorem isHexDigit_digitChar {n : Nat} (small : n < 16) : isHexDigit (Nat.digitChar n) = true := by
  rw [isHexDigit, hexDigit?_digitChar small]
  rfl

theorem isHexDigit_of_mem_hexDigits (n : Nat) : ∀ c ∈ Text.hexDigits n, isHexDigit c = true := by
  intro c member
  rw [Text.hexDigits, Nat.toDigits_eq_if (by decide)] at member
  split at member
  · next small =>
      obtain rfl := List.mem_singleton.mp member
      exact isHexDigit_digitChar small
  · rcases List.mem_append.mp member with member | member
    · exact isHexDigit_of_mem_hexDigits (n / 16) c member
    · obtain rfl := List.mem_singleton.mp member
      exact isHexDigit_digitChar (Nat.mod_lt n (by decide))
termination_by n
decreasing_by omega

theorem hexValue_hexDigits (n : Nat) : hexValue (Text.hexDigits n) = n := by
  rw [Text.hexDigits, Nat.toDigits_eq_if (by decide)]
  split
  · next small => simp [hexValue, hexDigit?_digitChar small]
  · have ih := hexValue_hexDigits (n / 16)
    have last := hexDigit?_digitChar (Nat.mod_lt n (show 0 < 16 by decide))
    rw [Text.hexDigits] at ih
    simp only [hexValue, List.foldl_append, List.foldl_cons, List.foldl_nil, last,
      Option.getD_some] at ih ⊢
    rw [ih]
    omega
termination_by n
decreasing_by omega

/-! ## Rules -/

/-- How a host language reads text between double quotes. -/
structure Rules where
  /-- Reads what stands behind a backslash: the character that is meant, and what is left. -/
  escape : List Char → Option (Char × List Char)
  escape_length : ∀ {source rest : List Char} {c : Char}, escape source = some (c, rest) →
    rest.length ≤ source.length
  /-- The characters that may stand as themselves. -/
  raw : Char → Bool

/-- The character of one to six hexadecimal digits, if there is one. -/
def codePoint? (digits : List Char) : Option Char :=
  if 0 < digits.length ∧ digits.length ≤ 6 ∧ (hexValue digits).isValidChar then
    some (Char.ofNat (hexValue digits))
  else none

def escapeByCodePoint : List Char → Option (Char × List Char)
  | '"' :: rest => some ('"', rest)
  | '\\' :: rest => some ('\\', rest)
  | 'n' :: rest => some ('\n', rest)
  | 'r' :: rest => some ('\r', rest)
  | 't' :: rest => some ('\t', rest)
  | '0' :: rest => some ('\x00', rest)
  | 'u' :: '\x7b' :: rest =>
      match rest.dropWhile isHexDigit with
      | '\x7d' :: behind => (codePoint? (rest.takeWhile isHexDigit)).map (·, behind)
      | _ => none
  | _ => none

theorem escapeByCodePoint_length {source rest : List Char} {c : Char}
    (h : escapeByCodePoint source = some (c, rest)) : rest.length ≤ source.length := by
  unfold escapeByCodePoint at h
  split at h
  case h_7 inner =>
    have dropped := (List.dropWhile_sublist (l := inner) isHexDigit).length_le
    split at h
    · next behind found =>
        rw [found, List.length_cons] at dropped
        obtain ⟨meant, -, same⟩ := Option.map_eq_some_iff.mp h
        cases same
        simp only [List.length_cons]
        omega
    · cases h
  all_goals cases h
  all_goals simp

/-- Two digits give one byte. A byte outside of ASCII is only a part of a character. -/
def escapeByByte : List Char → Option (Char × List Char)
  | '"' :: rest => some ('"', rest)
  | '\\' :: rest => some ('\\', rest)
  | 'n' :: rest => some ('\n', rest)
  | 'r' :: rest => some ('\r', rest)
  | 't' :: rest => some ('\t', rest)
  | 'x' :: high :: low :: rest =>
      match hexDigit? high, hexDigit? low with
      | some a, some b => if 16 * a + b < 0x80 then some (Char.ofNat (16 * a + b), rest) else none
      | _, _ => none
  | _ => none

theorem escapeByByte_length {source rest : List Char} {c : Char}
    (h : escapeByByte source = some (c, rest)) : rest.length ≤ source.length := by
  unfold escapeByByte at h
  split at h
  case h_6 high low inner =>
    split at h
    · split at h
      · cases h
        simp only [List.length_cons]
        omega
      · cases h
    · cases h
  all_goals cases h
  all_goals simp

namespace Rules

/-- Escapes by code point; a carriage return has to be escaped. -/
def rust : Rules where
  escape := escapeByCodePoint
  escape_length := escapeByCodePoint_length
  raw c := c ≠ '\r'

/-- Escapes by byte; a line break has to be escaped. -/
def go : Rules where
  escape := escapeByByte
  escape_length := escapeByByte_length
  raw c := c ≠ '\n'

variable (rules : Rules)

/-- Scans a literal from behind its opening quote: its text, and what is left behind the closing
quote. -/
def scanBody : List Char → Option (List Char × List Char)
  | [] => none
  | c :: source =>
      if c = '"' then some ([], source)
      else if c = '\\' then
        match _h : rules.escape source with
        | some (meant, rest) => (scanBody rest).map (Prod.map (meant :: ·) id)
        | none => none
      else if rules.raw c then (scanBody source).map (Prod.map (c :: ·) id)
      else none
termination_by source => source.length
decreasing_by
  · exact Nat.lt_succ_of_le (rules.escape_length _h)
  · exact Nat.lt_succ_self _

def scan : List Char → Option (List Char × List Char)
  | '"' :: source => rules.scanBody source
  | _ => none

variable {rules}

/-! ## Scanning what is written -/

theorem scanBody_quote (rest : List Char) : rules.scanBody ('"' :: rest) = some ([], rest) := by
  rw [scanBody, if_pos rfl]

theorem scanBody_escape {source rest : List Char} {c : Char}
    (escape : rules.escape source = some (c, rest)) :
    rules.scanBody ('\\' :: source) = (rules.scanBody rest).map (Prod.map (c :: ·) id) := by
  rw [scanBody, if_neg (by decide), if_pos rfl]
  split
  · next meant rest' found =>
      rw [escape, Option.some.injEq, Prod.mk.injEq] at found
      obtain ⟨rfl, rfl⟩ := found
      rfl
  · next found => simp [escape] at found

theorem scanBody_raw {c : Char} (quote : c ≠ '"') (backslash : c ≠ '\\')
    (raw : rules.raw c = true) (rest : List Char) :
    rules.scanBody (c :: rest) = (rules.scanBody rest).map (Prod.map (c :: ·) id) := by
  rw [scanBody, if_neg quote, if_neg backslash, if_pos raw]

theorem scanBody_length {source text rest : List Char}
    (h : rules.scanBody source = some (text, rest)) : rest.length ≤ source.length := by
  fun_induction scanBody rules source generalizing text with
  | case1 => cases h
  | case2 source => cases h; simp
  | case3 source meant behind found _ ih =>
      obtain ⟨⟨inner, left⟩, scanned, same⟩ := Option.map_eq_some_iff.mp h
      cases same
      have inner_le : left.length ≤ behind.length := ih scanned
      have behind_le := rules.escape_length found
      simp only [id_eq, List.length_cons]
      omega
  | case4 => cases h
  | case5 c source quote backslash raw ih =>
      obtain ⟨⟨inner, left⟩, scanned, same⟩ := Option.map_eq_some_iff.mp h
      cases same
      exact Nat.le_succ_of_le (ih scanned)
  | case6 => cases h

/-- Every character, written by an escape rule, is read back as itself, whatever follows. -/
def Reads (rules : Rules) (escape : Char → List Char) : Prop :=
  ∀ c rest, rules.scanBody (escape c ++ rest) = (rules.scanBody rest).map (Prod.map (c :: ·) id)

variable {escape : Char → List Char}

theorem scanBody_flatMap (reads : rules.Reads escape) (text rest : List Char) :
    rules.scanBody (text.flatMap escape ++ '"' :: rest) = some (text, rest) := by
  induction text with
  | nil => exact scanBody_quote rest
  | cons c text ih =>
      rw [List.flatMap_cons, List.append_assoc, reads, ih]
      rfl

/-- A literal ends at its own closing quote and yields its text, whatever follows. -/
theorem scan_quoteWith (reads : rules.Reads escape) (text rest : List Char) :
    rules.scan (Text.quoteWith escape text ++ rest) = some (text, rest) := by
  simp only [Text.quoteWith, List.cons_append, List.append_assoc, List.nil_append, scan]
  exact scanBody_flatMap reads text rest

theorem scan_raw {text : List Char}
    (plain : ∀ c ∈ text, c ≠ '"' ∧ c ≠ '\\' ∧ rules.raw c = true) (rest : List Char) :
    rules.scan ('"' :: (text ++ '"' :: rest)) = some (text, rest) := by
  simp only [scan]
  induction text with
  | nil => exact scanBody_quote rest
  | cons c text ih =>
      obtain ⟨quote, backslash, raw⟩ := plain c (by simp)
      rw [List.cons_append, scanBody_raw quote backslash raw,
        ih fun d member => plain d (List.mem_cons_of_mem c member)]
      rfl

end Rules

/-! ## The two languages -/

theorem codePoint?_hexDigits (c : Char) : codePoint? (Text.hexDigits c.toNat) = some c := by
  have valid : c.toNat.isValidChar := c.valid
  have digits : 0 < (Text.hexDigits c.toNat).length := Nat.length_toDigits_pos
  have short : (Text.hexDigits c.toNat).length ≤ 6 := by
    have small : c.toNat < 16 ^ 6 := by
      simp only [Nat.isValidChar] at valid
      omega
    exact (Nat.length_toDigits_le_iff (by decide) (by decide)).mpr small
  rw [codePoint?, hexValue_hexDigits, if_pos ⟨digits, short, valid⟩, Char.ofNat_toNat]

theorem escapeByCodePoint_hexDigits (c : Char) (rest : List Char) :
    escapeByCodePoint ('u' :: '\x7b' :: (Text.hexDigits c.toNat ++ '\x7d' :: rest)) =
      some (c, rest) := by
  have digits := isHexDigit_of_mem_hexDigits c.toNat
  have brace : isHexDigit '\x7d' = false := by decide
  have ends : ∀ next ∈ ('\x7d' :: rest).head?, isHexDigit next = false := by simp [brace]
  have braced := longest_span digits ends
  simp [escapeByCodePoint, braced, codePoint?_hexDigits]

theorem escapeByByte_twoHexDigits {c : Char} (ascii : c.toNat < 0x80) (rest : List Char) :
    escapeByByte ('x' :: (Text.twoHexDigits c.toNat ++ rest)) = some (c, rest) := by
  have high := hexDigit?_digitChar (show c.toNat / 16 < 16 by omega)
  have low := hexDigit?_digitChar (show c.toNat % 16 < 16 by omega)
  have joined : 16 * (c.toNat / 16) + c.toNat % 16 = c.toNat := Nat.div_add_mod c.toNat 16
  simp [escapeByByte, Text.twoHexDigits, high, low, joined, ascii]

theorem rust_reads (plain : Char → Bool) : Rules.rust.Reads (Text.codePointEscape plain) := by
  intro c rest
  unfold Text.codePointEscape
  split_ifs with quote backslash tab carriage newline nul glyph
  · subst quote
    exact Rules.scanBody_escape rfl
  · subst backslash
    exact Rules.scanBody_escape rfl
  · subst tab
    exact Rules.scanBody_escape rfl
  · subst carriage
    exact Rules.scanBody_escape rfl
  · subst newline
    exact Rules.scanBody_escape rfl
  · subst nul
    exact Rules.scanBody_escape rfl
  · exact Rules.scanBody_raw quote backslash (by simpa [Rules.rust] using carriage) rest
  · rw [List.cons_append, List.cons_append, List.cons_append, List.append_assoc]
    exact Rules.scanBody_escape (escapeByCodePoint_hexDigits c rest)

theorem go_reads : Rules.go.Reads Text.byteEscape := by
  intro c rest
  unfold Text.byteEscape
  split_ifs with quote backslash newline carriage tab control
  · subst quote
    exact Rules.scanBody_escape rfl
  · subst backslash
    exact Rules.scanBody_escape rfl
  · subst newline
    exact Rules.scanBody_escape rfl
  · subst carriage
    exact Rules.scanBody_escape rfl
  · subst tab
    exact Rules.scanBody_escape rfl
  · have ascii : c.toNat < 0x80 := by
      simp only [Text.isAsciiControl, Bool.or_eq_true, decide_eq_true_eq] at control
      omega
    rw [List.cons_append, List.cons_append]
    exact Rules.scanBody_escape (escapeByByte_twoHexDigits ascii rest)
  · exact Rules.scanBody_raw quote backslash (by simpa [Rules.go] using newline) rest

/-! ## No line break is written -/

theorem ne_newline_of_isHexDigit {c : Char} (digit : isHexDigit c = true) : c ≠ '\n' := by
  rintro rfl
  exact absurd digit (by decide)

theorem newline_not_mem_hexDigits (n : Nat) : '\n' ∉ Text.hexDigits n := fun member =>
  ne_newline_of_isHexDigit (isHexDigit_of_mem_hexDigits n _ member) rfl

theorem newline_not_mem_twoHexDigits {n : Nat} (small : n < 256) : '\n' ∉ Text.twoHexDigits n := by
  have high := ne_newline_of_isHexDigit (isHexDigit_digitChar (show n / 16 < 16 by omega))
  have low := ne_newline_of_isHexDigit (isHexDigit_digitChar (show n % 16 < 16 by omega))
  simp [Text.twoHexDigits, high.symm, low.symm]

theorem newline_not_mem_codePointEscape (plain : Char → Bool) (c : Char) :
    '\n' ∉ Text.codePointEscape plain c := by
  have digits := newline_not_mem_hexDigits c.toNat
  unfold Text.codePointEscape
  split_ifs <;> simp_all [eq_comm (a := '\n')]

theorem newline_not_mem_byteEscape (c : Char) : '\n' ∉ Text.byteEscape c := by
  have digits (control : Text.isAsciiControl c = true) : '\n' ∉ Text.twoHexDigits c.toNat := by
    simp only [Text.isAsciiControl, Bool.or_eq_true, decide_eq_true_eq] at control
    exact newline_not_mem_twoHexDigits (by omega)
  unfold Text.byteEscape
  split_ifs <;> simp_all [eq_comm (a := '\n')]

theorem newline_not_mem_quoteWith {escape : Char → List Char} (oneLine : ∀ c, '\n' ∉ escape c)
    (text : List Char) : '\n' ∉ Text.quoteWith escape text := by
  simp [Text.quoteWith, oneLine]

end CallScript.Literal
