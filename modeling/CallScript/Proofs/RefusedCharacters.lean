import CallScript.Proofs.ReadBack

/-!
# Characters that a host compiler refuses

Neither host compiler takes a control character other than a line break in a source text, nor a
byte order mark behind its beginning. What is written out holds none of them, with one exception:
quoting for Go leaves a byte order mark as it is.

* `HostSource.mem_render_iff`: what a program brings into its host source.
* `HostSource.mem_emit_iff`: what a source text brings into it.
-/

namespace CallScript
namespace HostSource
open HostReader Literal

def byteOrderMark : Char := '\ufeff'

/-- A character that a host compiler refuses in a source text. -/
def isRefused (c : Char) : Bool :=
  (Text.isAsciiControl c && c != '\n') || c == byteOrderMark

/-! ## What is no such character -/

theorem forall_refused {p : Char → Prop}
    (ascii : ∀ n < 128, isRefused (Char.ofNat n) = true → p (Char.ofNat n))
    (mark : p byteOrderMark) {c : Char} (refused : isRefused c = true) : p c := by
  by_cases isMark : c = byteOrderMark
  · exact isMark ▸ mark
  · have small : c.toNat < 128 := by
      simp only [isRefused, Text.isAsciiControl, beq_false_of_ne isMark, Bool.or_false,
        Bool.and_eq_true, Bool.or_eq_true, decide_eq_true_eq] at refused
      omega
    have holds := ascii c.toNat small
    rw [Char.ofNat_toNat] at holds
    exact holds refused

section

variable {c : Char} (refused : isRefused c = true)
include refused

theorem isWordPart_of_refused : isWordPart c = false :=
  forall_refused (p := fun c => isWordPart c = false) (by decide +kernel) (by decide +kernel)
    refused

theorem standsAlone_of_refused : Text.standsAlone c = false :=
  forall_refused (p := fun c => Text.standsAlone c = false) (by decide +kernel) (by decide +kernel)
    refused

theorem isHexDigit_of_refused : isHexDigit c = false :=
  forall_refused (p := fun c => isHexDigit c = false) (by decide +kernel) (by decide +kernel)
    refused

theorem not_mem_of_accepted {letters : List Char} (accepted : letters.all (!isRefused ·) = true) :
    c ∉ letters := by
  intro member
  have taken := List.all_eq_true.mp accepted c member
  simp [refused] at taken

theorem ne_of_accepted {d : Char} (accepted : isRefused d = false) : c ≠ d := by
  rintro rfl
  rw [refused] at accepted
  cases accepted

theorem not_mem_of_isWord {name : String} (word : isWord name = true) : c ∉ name.toList := by
  have noPart := isWordPart_of_refused refused
  obtain ⟨first, rest, letters, start, parts⟩ := isWord_iff.mp word
  rw [letters]
  rintro (- | ⟨-, member⟩)
  · rw [isWordPart_of_isWordStart start] at noPart
    cases noPart
  · rw [parts c member] at noPart
    cases noPart

theorem not_mem_of_digits {digits : List Char}
    (areDigits : ∀ d ∈ digits, isHexDigit d = true) : c ∉ digits := by
  intro member
  have digit := areDigits c member
  rw [isHexDigit_of_refused refused] at digit
  cases digit

/-! ## Quoted texts -/

theorem not_mem_codePointEscape (d : Char) : c ∉ Text.codePointEscape Text.standsAlone d := by
  have digits := not_mem_of_digits refused (isHexDigit_of_mem_hexDigits d.toNat)
  have signs : c ∉ ['\\', 'u', '\x7b', '\x7d'] := not_mem_of_accepted refused (by decide)
  unfold Text.codePointEscape
  split_ifs with quote backslash tab carriage newline nul glyph
  · exact not_mem_of_accepted refused (by decide)
  · exact not_mem_of_accepted refused (by decide)
  · exact not_mem_of_accepted refused (by decide)
  · exact not_mem_of_accepted refused (by decide)
  · exact not_mem_of_accepted refused (by decide)
  · exact not_mem_of_accepted refused (by decide)
  · rw [List.mem_singleton]
    rintro rfl
    rw [standsAlone_of_refused refused] at glyph
    cases glyph
  · simp_all

theorem mem_byteEscape_iff (d : Char) : c ∈ Text.byteEscape d ↔ c = byteOrderMark ∧ c = d := by
  -- the mark is no control character and is written as it stands
  by_cases mark : d = byteOrderMark
  · have kept : Text.byteEscape byteOrderMark = [byteOrderMark] := by decide
    rw [mark, kept, List.mem_singleton, and_self]
  refine iff_of_false ?_ fun ⟨isMark, same⟩ => mark (same.symm.trans isMark)
  have digits (control : Text.isAsciiControl d = true) : c ∉ Text.twoHexDigits d.toNat := by
    refine not_mem_of_digits refused fun digit member => ?_
    have small : d.toNat < 128 := by
      simp only [Text.isAsciiControl, Bool.or_eq_true, decide_eq_true_eq] at control
      omega
    rw [Text.twoHexDigits, List.mem_pair] at member
    rcases member with rfl | rfl
    · exact isHexDigit_digitChar (by omega)
    · exact isHexDigit_digitChar (by omega)
  have signs : c ∉ ['\\', 'x'] := not_mem_of_accepted refused (by decide)
  unfold Text.byteEscape
  split_ifs with quote backslash newline carriage tab control
  · exact not_mem_of_accepted refused (by decide)
  · exact not_mem_of_accepted refused (by decide)
  · exact not_mem_of_accepted refused (by decide)
  · exact not_mem_of_accepted refused (by decide)
  · exact not_mem_of_accepted refused (by decide)
  · have noDigit := digits control
    simp_all
  · rw [List.mem_singleton]
    rintro rfl
    simp [isRefused, control, mark] at refused

theorem mem_quoteWith_iff {escape : Char → List Char} {kept : Prop}
    (each : ∀ d, c ∈ escape d ↔ kept ∧ c = d) (text : List Char) :
    c ∈ Text.quoteWith escape text ↔ kept ∧ c ∈ text := by
  have quote : c ≠ '"' := ne_of_accepted refused (by decide)
  simp [Text.quoteWith, quote, each, and_comm]

/-! ## The two languages -/

theorem mem_intercalate_iff {separator : String}
    (accepted : separator.toList.all (!isRefused ·) = true) (texts : List String) :
    c ∈ (separator.intercalate texts).toList ↔ ∃ text ∈ texts, c ∈ text.toList := by
  have noSeparator := not_mem_of_accepted refused accepted
  rw [String.toList_intercalate]
  induction texts with
  | nil => simp
  | cons text texts ih =>
      cases texts with
      | nil => simp
      | cons next texts =>
          simp only [List.map_cons, List.intercalate_cons_cons, List.mem_append, noSeparator,
            or_false, List.exists_mem_cons_iff] at ih ⊢
          exact or_congr_right ih

end

/-- What a dialect leaves of a character: nothing in the text around the operands, and of the
character in a quoted text all of it or nothing. -/
structure Leaves (dialect : Dialect) (c : Char) (kept : Prop) : Prop where
  opening (prints : Bool) : c ∉ (dialect.opening prints).toList
  quote (value : String) : c ∈ (dialect.quote value).toList ↔ kept ∧ c ∈ value.toList
  print (operands : List String) :
    c ∈ (dialect.print operands).toList ↔ ∃ operand ∈ operands, c ∈ operand.toList

theorem rust_leaves {c : Char} (refused : isRefused c = true) : Leaves .rust c False where
  opening prints := not_mem_of_accepted refused (by cases prints <;> decide)
  quote value := by
    simp only [Dialect.rust, Text.quote, Text.quoteBy, String.toList_ofList]
    refine mem_quoteWith_iff refused (fun d => ?_) value.toList
    simp [not_mem_codePointEscape refused d]
  print operands := by
    cases operands with
    | nil =>
        have noOperand : c ∉ (Dialect.rust.print []).toList :=
          not_mem_of_accepted refused (by decide)
        simp [noOperand]
    | cons operand operands =>
        have start : c ∉ "println!(\"".toList := not_mem_of_accepted refused (by decide)
        have format :
            c ∉ (" ".intercalate ((operand :: operands).map fun _ => "\x7b\x7d")).toList := by
          rw [toList_placeholders]
          exact fun member =>
            not_mem_of_accepted refused (by decide) (mem_format c member)
        have middle : c ∉ "\", ".toList := not_mem_of_accepted refused (by decide)
        have ending : c ∉ ");".toList := not_mem_of_accepted refused (by decide)
        rw [rust_print_operands]
        simp only [String.toList_append, List.mem_append, start, format, middle, ending, false_or,
          or_false]
        exact mem_intercalate_iff refused (by decide) _

theorem go_leaves {c : Char} (refused : isRefused c = true) :
    Leaves .go c (c = byteOrderMark) where
  opening prints := not_mem_of_accepted refused (by cases prints <;> decide)
  quote value := by
    simp only [Dialect.go, Text.quoteBytes, String.toList_ofList]
    exact mem_quoteWith_iff refused (mem_byteEscape_iff refused) value.toList
  print operands := by
    have start : c ∉ "fmt.Println(".toList := not_mem_of_accepted refused (by decide)
    have ending : c ∉ ")".toList := not_mem_of_accepted refused (by decide)
    rw [go_print_operands]
    simp only [String.toList_append, List.mem_append, start, ending, false_or, or_false]
    exact mem_intercalate_iff refused (by decide) operands

/-! ## Programs -/

section

variable {c : Char} {kept : Prop} {dialect : Dialect} (refused : isRefused c = true)
  (leaves : Leaves dialect c kept)
include refused leaves

theorem mem_call_iff {name : String} {args : List Node} (word : isWord name = true)
    (words : ∀ word, .word word ∈ args → isWord word = true) :
    c ∈ (dialect.call name args).toList ↔
      name = "print" ∧ kept ∧ ∃ value, .text value ∈ args ∧ c ∈ value.toList := by
  by_cases print : name = "print"
  · subst print
    have found : Builtin.find? "print" = some .print := rfl
    simp only [Dialect.call, found, leaves.print, List.mem_filterMap, true_and]
    constructor
    · rintro ⟨operand, ⟨arg, member, written⟩, inside⟩
      cases arg with
      | text value =>
          cases written
          obtain ⟨isKept, held⟩ := (leaves.quote value).mp inside
          exact ⟨isKept, value, member, held⟩
      | word name =>
          cases written
          exact absurd inside (not_mem_of_isWord refused (words _ member))
      | program statements => cases written
      | call name args => cases written
    · rintro ⟨isKept, value, member, held⟩
      exact ⟨_, ⟨.text value, member, rfl⟩, (leaves.quote value).mpr ⟨isKept, held⟩⟩
  · have comment : c ∉ "// unknown function: ".toList := not_mem_of_accepted refused (by decide)
    rw [call_unknown print, toList_unknownCall, List.mem_append, or_iff_right comment]
    simp [print, not_mem_of_isWord refused word]

theorem mem_render_iff {program : Node} (named : NamedByWords program) :
    c ∈ (dialect.render program).toList ↔ kept ∧ ∃ args value,
      .call "print" args ∈ program.statements ∧ .text value ∈ args ∧ c ∈ value.toList := by
  have indentation : c ∉ "    ".toList := not_mem_of_accepted refused (by decide)
  have lineEnd : c ∉ ['\n'] := not_mem_of_accepted refused (by decide)
  have ending : c ∉ "\x7d\n".toList := not_mem_of_accepted refused (by decide)
  rw [Dialect.render]
  simp only [String.toList_append, List.mem_append, leaves.opening, ending, false_or, or_false,
    toList_join_lines, List.mem_flatMap, lineEnd, bodyLines, List.mem_filterMap]
  -- what is left are the calls: the text around them holds no such character
  constructor
  · rintro ⟨line, ⟨statement, member, written⟩, inside⟩
    cases statement with
    | call name args =>
        cases written
        obtain ⟨word, words⟩ := named name args member
        rw [List.mem_append, or_iff_right indentation,
          mem_call_iff refused leaves word words] at inside
        obtain ⟨rfl, isKept, value, isArg, held⟩ := inside
        exact ⟨isKept, args, value, member, isArg, held⟩
    | program statements => cases written
    | text value => cases written
    | word name => cases written
  · rintro ⟨isKept, args, value, member, isArg, held⟩
    obtain ⟨word, words⟩ := named "print" args member
    refine ⟨_, ⟨.call "print" args, member, rfl⟩, List.mem_append_right _ ?_⟩
    exact (mem_call_iff refused leaves word words).mpr ⟨rfl, isKept, value, isArg, held⟩

end

/-! ## Emitted source -/

/-- The one refused character that an emitted source can hold is a byte order mark. It stands there
exactly if the source is one for Go and prints a text that holds it. -/
theorem mem_emit_iff {source code : String} {target : Target}
    (emits : emit source target = .ok code) {c : Char} (refused : isRefused c = true) :
    c ∈ code.toList ↔ (c = byteOrderMark ∧ target = .go) ∧ ∃ program args value,
      Node.parse (Token.scan source) = .ok program ∧ .call "print" args ∈ program.statements ∧
        .text value ∈ args ∧ c ∈ value.toList := by
  rw [emit] at emits
  cases parsed : Node.parse (Token.scan source) with
  | error e =>
      rw [parsed] at emits
      cases emits
  | ok program =>
      rw [parsed] at emits
      cases emits
      have named := namedByWords_of_parse parsed
      cases target with
      | rust =>
          have leaves := rust_leaves refused
          simp [Node.render, Target.dialect, mem_render_iff refused leaves named]
      | go =>
          have leaves := go_leaves refused
          simp [Node.render, Target.dialect, mem_render_iff refused leaves named]

namespace Sample

def source : String := "print(\"\ufeff\")"

def code : String :=
  "// Generated by mob. Do not edit.\n\npackage main\n\nimport (\n    \"fmt\"\n)\n\n" ++
    "func main() \x7b\n    fmt.Println(\"\ufeff\")\n\x7d\n"

theorem emit_source : emit source .go = .ok code := by decide +kernel

end Sample

theorem mem_emit_iff_mark :
    emit Sample.source .go = .ok Sample.code ∧ isRefused byteOrderMark = true ∧
      ∃ program args value, Node.parse (Token.scan Sample.source) = .ok program ∧
        .call "print" args ∈ program.statements ∧ .text value ∈ args ∧
          byteOrderMark ∈ value.toList := by
  have refused : isRefused byteOrderMark = true := by decide
  have stands : byteOrderMark ∈ Sample.code.toList := by decide +kernel
  exact ⟨Sample.emit_source, refused, ((mem_emit_iff Sample.emit_source refused).mp stands).2⟩

theorem not_all_emitted_accepted :
    ¬∀ source target code, emit source target = .ok code →
      ∀ c ∈ code.toList, isRefused c = false := by
  intro accepted
  have mark := accepted _ _ _ Sample.emit_source byteOrderMark (by decide +kernel)
  exact absurd mark (by decide)

end HostSource
end CallScript
