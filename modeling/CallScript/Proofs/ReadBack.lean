import CallScript.Proofs.HostReader
import CallScript.Proofs.Tokenization

/-!
# Host source reads back

What a program is written out as reads back as what the program does, in both host languages. A
written line holds no line break, so the lines of the text are the lines of the calls; within a
line every operand ends where the reader of operands stops.
-/

namespace CallScript
namespace HostReader
open Literal

/-! ## Words -/

theorem isWord_iff {name : String} : isWord name = true ↔ ∃ c rest, name.toList = c :: rest ∧
    isWordStart c = true ∧ ∀ d ∈ rest, isWordPart d = true := by
  unfold isWord
  split
  · next empty => simp [empty]
  · next c rest letters => simp [letters]

theorem ne_newline_of_isWordPart {c : Char} (part : isWordPart c = true) : c ≠ '\n' := by
  rintro rfl
  simp [isWordPart_newline] at part

theorem newline_not_mem_of_isWord {name : String} (word : isWord name = true) :
    '\n' ∉ name.toList := by
  obtain ⟨c, rest, letters, start, parts⟩ := isWord_iff.mp word
  rw [letters]
  rintro (- | ⟨-, member⟩)
  · exact ne_newline_of_isWordPart (isWordPart_of_isWordStart start) rfl
  · exact ne_newline_of_isWordPart (parts _ member) rfl

theorem readWord_append {name : String} (word : isWord name = true) (rest : List Char)
    (ends : ∀ d ∈ rest.head?, isWordPart d = false) :
    readWord (name.toList ++ rest) = some (name, rest) := by
  obtain ⟨c, part, letters, start, parts⟩ := isWord_iff.mp word
  have whole : String.ofList (c :: part) = name := by rw [← letters, String.ofList_toList]
  obtain ⟨taken, left⟩ := longest_span parts ends
  rw [letters, List.cons_append, readWord, if_pos start, taken, left, whole]

theorem expect_append (text : String) (rest : List Char) :
    expect text (text.toList ++ rest) = some rest := by
  rw [expect, List.isPrefixOf?_eq_some_iff_append_eq]

/-! ## Operands -/

/-- The texts of a dialect are literals by the rules of its language, and stand on one line. -/
structure Quotes (dialect : Dialect) (rules : Rules) : Prop where
  scan_quote (value : String) (rest : List Char) :
    rules.scan ((dialect.quote value).toList ++ rest) = some (value.toList, rest)
  newline_not_mem (value : String) : '\n' ∉ (dialect.quote value).toList

theorem rust_quotes : Quotes .rust .rust where
  scan_quote value rest := by
    simp only [Dialect.rust, Text.quote, Text.quoteBy, String.toList_ofList]
    exact Rules.scan_quoteWith (rust_reads Text.standsAlone) value.toList rest
  newline_not_mem value := by
    simp only [Dialect.rust, Text.quote, Text.quoteBy, String.toList_ofList]
    exact newline_not_mem_quoteWith (newline_not_mem_codePointEscape Text.standsAlone) value.toList

theorem go_quotes : Quotes .go .go where
  scan_quote value rest := by
    simp only [Dialect.go, Text.quoteBytes, String.toList_ofList]
    exact Rules.scan_quoteWith go_reads value.toList rest
  newline_not_mem value := by
    simp only [Dialect.go, Text.quoteBytes, String.toList_ofList]
    exact newline_not_mem_quoteWith newline_not_mem_byteEscape value.toList

variable {dialect : Dialect} {rules : Rules}

def written (dialect : Dialect) : Operand → String
  | .text value => dialect.quote value
  | .word name => name

theorem filterMap_operand? (args : List Node) :
    args.filterMap dialect.operand? = (args.filterMap operand?).map (written dialect) := by
  have each : dialect.operand? = fun arg => (operand? arg).map (written dialect) := by
    funext arg
    cases arg <;> rfl
  rw [each, List.map_filterMap]

theorem readOperand_written (quotes : Quotes dialect rules) {operand : Operand}
    (named : operand.Named) {rest : List Char} (ends : ∀ d ∈ rest.head?, isWordPart d = false) :
    readOperand rules ((written dialect operand).toList ++ rest) = some (operand, rest) := by
  cases operand with
  | text value => simp [readOperand, written, quotes.scan_quote]
  | word name =>
      -- no word begins with a quote
      have noLiteral : rules.scan (name.toList ++ rest) = none := by
        obtain ⟨c, part, letters, start, -⟩ := isWord_iff.mp named
        rw [letters, List.cons_append]
        unfold Rules.scan
        split
        · next same =>
            cases same
            simp [isWordStart_quote] at start
        · rfl
      simp only [readOperand, written, noLiteral, readWord_append named rest ends, Option.map_some]

theorem newline_not_mem_written (quotes : Quotes dialect rules) {operand : Operand}
    (named : operand.Named) : '\n' ∉ (written dialect operand).toList := by
  cases operand with
  | text value => exact quotes.newline_not_mem value
  | word name => exact newline_not_mem_of_isWord named

def others (dialect : Dialect) (operands : List Operand) : List Char :=
  operands.flatMap fun operand => [',', ' '] ++ (written dialect operand).toList

theorem intercalate_written (operand : Operand) (operands : List Operand) :
    (", ".intercalate ((operand :: operands).map (written dialect))).toList =
      (written dialect operand).toList ++ others dialect operands := by
  have separator : ", ".toList = [',', ' '] := rfl
  rw [String.toList_intercalate, separator]
  induction operands generalizing operand with
  | nil => simp [others]
  | cons next operands ih =>
      have behind := ih next
      simp only [List.map_cons] at behind
      simp only [List.map_cons, List.intercalate_cons_cons, behind, others, List.flatMap_cons,
        List.append_assoc]

theorem ends_others (operands : List Operand) (rest : List Char) :
    ∀ d ∈ (others dialect operands ++ ')' :: rest).head?, isWordPart d = false := by
  intro d head
  have sign : d = ',' ∨ d = ')' := by
    cases operands with
    | nil => exact .inr (by simpa [others] using head.symm)
    | cons operand operands => exact .inl (by simpa [others] using head.symm)
  rcases sign with rfl | rfl <;> decide

theorem readMore_others (quotes : Quotes dialect rules) {operands : List Operand}
    (named : ∀ operand ∈ operands, operand.Named) (rest : List Char) :
    readMore rules (others dialect operands ++ ')' :: rest) = some (operands, rest) := by
  induction operands with
  | nil => simp [others, readMore]
  | cons operand operands ih =>
      have first : readOperand rules ((written dialect operand).toList ++
          (others dialect operands ++ ')' :: rest)) = some (operand, _) :=
        readOperand_written quotes (named operand (by simp)) (ends_others operands rest)
      have behind := ih fun operand member => named operand (List.mem_cons_of_mem _ member)
      have split : others dialect (operand :: operands) ++ ')' :: rest = ',' :: ' ' ::
          ((written dialect operand).toList ++ (others dialect operands ++ ')' :: rest)) := by
        simp [others]
      rw [split, readMore]
      split
      · next operand' rest' found =>
          rw [first] at found
          cases found
          rw [behind]
          rfl
      · next found => simp [first] at found

/-! ## Calls -/

theorem toList_unknownCall (name : String) :
    (unknownCall name).toList = "// unknown function: ".toList ++ name.toList :=
  String.toList_append

theorem readUnknown_append {name : String} (word : isWord name = true) :
    readUnknown (unknownCall name).toList = some (.unknown name) := by
  have read := readWord_append word [] (by simp)
  rw [List.append_nil] at read
  unfold readUnknown
  rw [toList_unknownCall, expect_append, Option.bind_eq_bind, Option.bind_some, read]
  rfl

theorem call_unknown {name : String} (print : name ≠ "print") (args : List Node) :
    dialect.call name args = unknownCall name := by
  have unknown : Builtin.find? name = none := by
    simpa [Builtin.find?, Builtin.all, Builtin.name] using print.symm
  simp only [Dialect.call, unknown]

theorem call_print (args : List Node) : dialect.call "print" args =
    dialect.print ((args.filterMap operand?).map (written dialect)) := by
  have found : Builtin.find? "print" = some .print := rfl
  simp only [Dialect.call, found, filterMap_operand?]

theorem named_operands {args : List Node}
    (words : ∀ word, .word word ∈ args → isWord word = true) :
    ∀ operand ∈ args.filterMap operand?, operand.Named := by
  intro operand member
  obtain ⟨arg, argMember, same⟩ := List.mem_filterMap.mp member
  cases arg with
  | text value =>
      cases same
      trivial
  | word name =>
      cases same
      exact words name argMember
  | program statements => cases same
  | call name args => cases same

/-! ## Prints -/

def format (n : Nat) : List Char := [' '].intercalate (List.replicate n ['\x7b', '\x7d'])

theorem mem_format {n : Nat} : ∀ c ∈ format n, c ∈ [' ', '\x7b', '\x7d'] := by
  induction n with
  | zero => simp [format]
  | succ n ih =>
      intro c member
      cases n with
      | zero => simp_all [format]
      | succ n =>
          rw [format, List.replicate_succ, List.replicate_succ, List.intercalate_cons_cons,
            ← List.replicate_succ, ← format] at member
          rcases List.mem_append.mp member with member | member
          · simp only [List.mem_append, List.mem_cons, List.not_mem_nil, or_false] at member ⊢
            tauto
          · exact ih c member

theorem scan_format (n : Nat) (rest : List Char) :
    Rules.rust.scan ('"' :: (format n ++ '"' :: rest)) = some (format n, rest) := by
  have raw : ∀ c ∈ [' ', '\x7b', '\x7d'], c ≠ '"' ∧ c ≠ '\\' ∧ Rules.rust.raw c = true := by
    intro c member
    simp only [List.mem_cons, List.not_mem_nil, or_false] at member
    rcases member with rfl | rfl | rfl <;> decide
  exact Rules.scan_raw (fun c member => raw c (mem_format c member)) rest

theorem newline_not_mem_format (n : Nat) : '\n' ∉ format n := fun member =>
  absurd (mem_format _ member) (by decide)

theorem splitOn_format (n : Nat) :
    (format (n + 1)).splitOn ' ' = List.replicate (n + 1) ['\x7b', '\x7d'] := by
  refine List.splitOn_intercalate ' ' (fun part member => ?_) (by simp)
  obtain rfl := List.eq_of_mem_replicate member
  decide

theorem toList_placeholders (operands : List String) :
    (" ".intercalate (operands.map fun _ => "\x7b\x7d")).toList = format operands.length := by
  have blank : " ".toList = [' '] := rfl
  have braces : "\x7b\x7d".toList = ['\x7b', '\x7d'] := rfl
  rw [String.toList_intercalate, blank, List.map_const', List.map_replicate, braces, format]

theorem rust_print_operands (operand : String) (operands : List String) :
    Dialect.rust.print (operand :: operands) =
      "println!(\"" ++ " ".intercalate ((operand :: operands).map fun _ => "\x7b\x7d") ++
        "\", " ++ ", ".intercalate (operand :: operands) ++ ");" := rfl

theorem rust_print_cons (operand : Operand) (operands : List Operand) :
    (Dialect.rust.print ((operand :: operands).map (written .rust))).toList =
      "println!(".toList ++ '"' :: (format (operands.length + 1) ++ '"' ::
        (others .rust (operand :: operands) ++ [')', ';'])) := by
  have print : Dialect.rust.print ((operand :: operands).map (written .rust)) =
      "println!(\"" ++ " ".intercalate (((operand :: operands).map (written .rust)).map
        fun _ => "\x7b\x7d") ++ "\", " ++
        ", ".intercalate ((operand :: operands).map (written .rust)) ++ ");" :=
    rust_print_operands _ _
  have opening : "println!(\"".toList = "println!(".toList ++ ['"'] := rfl
  have separator : "\", ".toList = ['"', ',', ' '] := rfl
  have closing : ");".toList = [')', ';'] := rfl
  rw [print, String.toList_append, String.toList_append, String.toList_append,
    String.toList_append, toList_placeholders, intercalate_written, opening, separator, closing,
    List.length_map, List.length_cons]
  simp only [others, List.flatMap_cons, List.append_assoc, List.cons_append, List.nil_append]

theorem rust_readPrint {operands : List Operand} (named : ∀ operand ∈ operands, operand.Named) :
    Rust.readPrint (Dialect.rust.print (operands.map (written .rust))).toList = some operands := by
  cases operands with
  | nil => decide
  | cons operand operands =>
      have read := readMore_others rust_quotes named [';']
      have literal (source : List Char) : '"' :: source ≠ [')', ';'] := by simp
      unfold Rust.readPrint
      rw [rust_print_cons, expect_append, Option.bind_eq_bind, Option.bind_some,
        if_neg (literal _), scan_format]
      simp only [Option.bind_eq_bind, Option.bind_some, read, splitOn_format, List.length_cons,
        and_self, ↓reduceIte]

theorem go_print_operands (operands : List String) :
    Dialect.go.print operands = "fmt.Println(" ++ ", ".intercalate operands ++ ")" := rfl

theorem go_print_cons (operand : Operand) (operands : List Operand) :
    (Dialect.go.print ((operand :: operands).map (written .go))).toList =
      "fmt.Println(".toList ++
        ((written .go operand).toList ++ (others .go operands ++ [')'])) := by
  have closing : ")".toList = [')'] := rfl
  rw [go_print_operands, String.toList_append, String.toList_append, intercalate_written, closing,
    List.append_assoc, List.append_assoc]

theorem go_readPrint {operands : List Operand} (named : ∀ operand ∈ operands, operand.Named) :
    Go.readPrint (Dialect.go.print (operands.map (written .go))).toList = some operands := by
  cases operands with
  | nil => decide
  | cons operand operands =>
      have ends : ∀ d ∈ (others .go operands ++ ')' :: []).head?, isWordPart d = false :=
        ends_others operands []
      have first := readOperand_written go_quotes (named operand (by simp)) ends
      have behind := readMore_others go_quotes
        (fun other member => named other (List.mem_cons_of_mem operand member)) []
      -- an operand is not taken for the end of a print without any
      have some_operand :
          (written .go operand).toList ++ (others .go operands ++ [')']) ≠ [')'] := by
        intro none
        have nothing : readOperand Rules.go [')'] = .none := by decide
        rw [none, nothing] at first
        cases first
      unfold Go.readPrint
      rw [go_print_cons, expect_append, Option.bind_eq_bind, Option.bind_some,
        if_neg some_operand, first]
      simp only [Option.bind_eq_bind, Option.bind_some, behind]

/-! ## Lines -/

theorem newline_not_mem_others (quotes : Quotes dialect rules) {operands : List Operand}
    (named : ∀ operand ∈ operands, operand.Named) : '\n' ∉ others dialect operands := by
  intro member
  obtain ⟨operand, operandMember, here⟩ := List.mem_flatMap.mp member
  have := newline_not_mem_written quotes (named operand operandMember)
  simp_all

/-- A dialect whose prints read back and hold no line break. -/
structure Prints (dialect : Dialect) (readPrint : List Char → Option (List Operand)) : Prop where
  readUnknown_print (operands : List Operand) :
    readUnknown (dialect.print (operands.map (written dialect))).toList = none
  readPrint_print {operands : List Operand} (named : ∀ operand ∈ operands, operand.Named) :
    readPrint (dialect.print (operands.map (written dialect))).toList = some operands
  newline_not_mem_print {operands : List Operand} (named : ∀ operand ∈ operands, operand.Named) :
    '\n' ∉ (dialect.print (operands.map (written dialect))).toList

/-- A dialect whose calls read back and hold no line break, if words name what is in them. -/
structure Readable (dialect : Dialect) (readCall : List Char → Option Action) : Prop where
  readCall_call {name : String} {args : List Node} (named : isWord name = true)
    (words : ∀ word, .word word ∈ args → isWord word = true) :
    readCall (dialect.call name args).toList = action? (.call name args)
  newline_not_mem_call {name : String} {args : List Node} (named : isWord name = true)
    (words : ∀ word, .word word ∈ args → isWord word = true) :
    '\n' ∉ (dialect.call name args).toList

theorem Prints.readable {readPrint : List Char → Option (List Operand)}
    (prints : Prints dialect readPrint) :
    Readable dialect fun line => (readUnknown line).or ((readPrint line).map .print) where
  readCall_call {name args} named words := by
    by_cases print : name = "print"
    · subst print
      rw [call_print, prints.readUnknown_print, prints.readPrint_print (named_operands words)]
      rfl
    · simp [call_unknown print, readUnknown_append named, action?, print]
  newline_not_mem_call {name args} named words := by
    by_cases print : name = "print"
    · subst print
      rw [call_print]
      exact prints.newline_not_mem_print (named_operands words)
    · rw [call_unknown print, toList_unknownCall, List.mem_append, not_or]
      exact ⟨by decide, newline_not_mem_of_isWord named⟩

theorem rust_prints : Prints .rust Rust.readPrint where
  readUnknown_print operands := by
    cases operands with
    | nil => decide
    | cons operand operands =>
        rw [rust_print_cons]
        rfl
  readPrint_print := rust_readPrint
  newline_not_mem_print {operands} named := by
    cases operands with
    | nil => decide
    | cons operand operands =>
        have more := newline_not_mem_others rust_quotes named
        have placeholders := newline_not_mem_format (operands.length + 1)
        rw [rust_print_cons, List.mem_append, not_or]
        exact ⟨by decide, by simp [placeholders, more]⟩

theorem go_prints : Prints .go Go.readPrint where
  readUnknown_print operands := by
    cases operands with
    | nil => decide
    | cons operand operands =>
        rw [go_print_cons]
        rfl
  readPrint_print := go_readPrint
  newline_not_mem_print {operands} named := by
    cases operands with
    | nil => decide
    | cons operand operands =>
        have first := newline_not_mem_written go_quotes (named operand (by simp))
        have more := newline_not_mem_others go_quotes
          (fun other member => named other (List.mem_cons_of_mem operand member))
        rw [go_print_cons, List.mem_append, not_or]
        exact ⟨by decide, by simp [first, more]⟩

theorem rust_readable : Readable .rust Rust.readCall := rust_prints.readable

theorem go_readable : Readable .go Go.readCall := go_prints.readable

/-! ## Bodies and files -/

/-- The line of a call, without its line break. -/
def lineText? (dialect : Dialect) : Node → Option (List Char)
  | .call name args => some ("    ".toList ++ (dialect.call name args).toList)
  | .program _ | .text _ | .word _ => none

def bodyLines (dialect : Dialect) (statements : List Node) : List (List Char) :=
  statements.filterMap (lineText? dialect)

theorem toList_join_lines (statements : List Node) :
    (String.join (statements.filterMap dialect.line?)).toList =
      (bodyLines dialect statements).flatMap (· ++ ['\n']) := by
  have newline : "\n".toList = ['\n'] := rfl
  rw [String.toList_join, bodyLines]
  induction statements with
  | nil => rfl
  | cons statement statements ih =>
      cases statement with
      | call name args =>
          simp only [List.filterMap_cons, Dialect.line?, lineText?, List.flatMap_cons, ih,
            String.toList_append, newline, Dialect.indentation]
      | program _ => exact ih
      | text _ => exact ih
      | word _ => exact ih

theorem splitOn_lines {lines : List (List Char)} (oneLine : ∀ line ∈ lines, '\n' ∉ line) :
    (lines.flatMap (· ++ ['\n'])).splitOn '\n' = lines ++ [[]] := by
  induction lines with
  | nil => rfl
  | cons line lines ih =>
      have behind := ih fun other member => oneLine other (List.mem_cons_of_mem line member)
      rw [List.flatMap_cons, List.append_assoc, List.singleton_append,
        List.splitOn_append_cons_self_of_not_mem (oneLine line (by simp)), behind,
        List.cons_append]

variable {readCall : List Char → Option Action} {program : Node}

theorem splitOn_render (readable : Readable dialect readCall) (named : NamedByWords program)
    {opening : List (List Char)} (oneLine : ∀ line ∈ opening, '\n' ∉ line)
    (opened : (dialect.opening (program.statements.any (·.isCall "print"))).toList =
      opening.flatMap (· ++ ['\n'])) :
    (dialect.render program).toList.splitOn '\n' =
      opening ++ (bodyLines dialect program.statements ++ [['\x7d'], []]) := by
  have closing : "\x7d\n".toList = [['\x7d']].flatMap (· ++ ['\n']) := rfl
  have text : (dialect.render program).toList =
      (opening ++ bodyLines dialect program.statements ++ [['\x7d']]).flatMap (· ++ ['\n']) := by
    rw [List.flatMap_append, List.flatMap_append, ← opened, ← toList_join_lines, ← closing,
      ← String.toList_append, ← String.toList_append]
    rfl
  -- no line holds a line break, so the text is cut where its lines were joined
  rw [text, splitOn_lines]
  · simp
  · intro line member
    simp only [List.mem_append, List.mem_singleton, or_assoc] at member
    rcases member with member | member | rfl
    · exact oneLine line member
    · obtain ⟨statement, statementMember, same⟩ := List.mem_filterMap.mp member
      cases statement with
      | call name args =>
          cases same
          obtain ⟨word, words⟩ := named name args statementMember
          rw [List.mem_append, not_or]
          exact ⟨by decide, readable.newline_not_mem_call word words⟩
      | program _ => cases same
      | text _ => cases same
      | word _ => cases same
    · decide

theorem readBody_bodyLines (readable : Readable dialect readCall) (named : NamedByWords program) :
    readBody readCall (bodyLines dialect program.statements ++ [['\x7d'], []]) =
      some (actions program) := by
  unfold NamedByWords at named
  rw [bodyLines, actions]
  generalize program.statements = statements at named ⊢
  induction statements with
  | nil => rfl
  | cons statement statements ih =>
      have behind := ih fun name args member => named name args (List.mem_cons_of_mem _ member)
      cases statement with
      | call name args =>
          obtain ⟨word, words⟩ := named name args (by simp)
          have read := readable.readCall_call word words
          have line : lineText? dialect (.call name args) =
              some ("    ".toList ++ (dialect.call name args).toList) := rfl
          -- an indented line is not taken for the brace that ends the body
          have indented : "    ".toList ++ (dialect.call name args).toList ≠ ['\x7d'] := by
            intro same
            exact absurd (List.cons.inj same).1 (by decide)
          rw [List.filterMap_cons_some line, List.cons_append, readBody, if_neg indented,
            expect_append, Option.bind_some, read, behind]
          rfl
      | program _ => exact behind
      | text _ => exact behind
      | word _ => exact behind

theorem expectLines_append {expected : List String} {lines : List (List Char)}
    (same : lines = expected.map String.toList) (rest : List (List Char)) :
    expectLines expected (lines ++ rest) = some rest := by
  rw [expectLines, List.isPrefixOf?_eq_some_iff_append_eq, same]

def rustOpening : List (List Char) :=
  ["// Generated by mob. Do not edit.", "", "fn main() \x7b"].map String.toList

theorem rust_opening (prints : Bool) :
    (Dialect.rust.opening prints).toList = rustOpening.flatMap (· ++ ['\n']) := by
  cases prints <;> decide

theorem rust_read_render (named : NamedByWords program) :
    Rust.read (Dialect.rust.render program) = some (actions program) := by
  have lines := splitOn_render rust_readable named (by decide) (rust_opening _)
  unfold Rust.read
  rw [lines, rustOpening, expectLines_append rfl]
  exact readBody_bodyLines rust_readable named

def goOpening (prints : Bool) : List (List Char) :=
  ["// Generated by mob. Do not edit.", "", "package main", ""].map String.toList ++
    ((if prints then ["import (", "    \"fmt\"", ")", ""] else []).map String.toList ++
      ["func main() \x7b"].map String.toList)

theorem go_opening (prints : Bool) :
    (Dialect.go.opening prints).toList = (goOpening prints).flatMap (· ++ ['\n']) := by
  cases prints <;> decide

theorem any_isCall_print (program : Node) :
    program.statements.any (·.isCall "print") = (actions program).any Action.isPrint := by
  rw [actions]
  induction program.statements with
  | nil => rfl
  | cons statement statements ih =>
      cases statement with
      | call name args =>
          have action : action? (.call name args) = some
              (if name = "print" then .print (args.filterMap operand?) else .unknown name) := rfl
          rw [List.filterMap_cons_some action, List.any_cons, List.any_cons, ih]
          by_cases print : name = "print" <;> simp [Node.isCall, Action.isPrint, print]
      | program _ => exact ih
      | text _ => exact ih
      | word _ => exact ih

theorem go_readImport (prints : Bool) (body : List (List Char)) :
    Go.readImport
      ((if prints then ["import (", "    \"fmt\"", ")", ""] else []).map String.toList ++
        (["func main() \x7b"].map String.toList ++ body)) =
        (prints, ["func main() \x7b"].map String.toList ++ body) := by
  cases prints with
  | true =>
      unfold Go.readImport
      rw [if_pos rfl, expectLines_append rfl]
  | false => rfl

theorem go_read_render (named : NamedByWords program) :
    Go.read (Dialect.go.render program) = some (actions program) := by
  have lines := splitOn_render go_readable named
    (by cases program.statements.any (·.isCall "print") <;> decide) (go_opening _)
  have body := readBody_bodyLines go_readable named
  unfold Go.read
  rw [lines, goOpening, List.append_assoc, List.append_assoc, expectLines_append rfl,
    Option.bind_eq_bind, Option.bind_some, go_readImport]
  simp only [expectLines_append rfl, Option.bind_eq_bind, Option.bind_some, body,
    any_isCall_print, ↓reduceIte]

/-! ## Programs read from source -/

theorem isWord_of_mem_tokens (s : Scanner) :
    ∀ token ∈ s.tokens, token.kind = .word → isWord token.text = true := by
  refine Scanner.forall_mem_tokens ?_ ?_ s
  · intro s read next step token member kind
    cases step.reads with
    | lineBreak rest line widths =>
        rcases Scanner.mem_breakLine member with rfl | rfl | rfl <;> cases kind
    | slice first noBreak spelled split line sameLine =>
        obtain rfl := List.mem_singleton.mp member
        have word := (Token.kind_of_lexeme? spelled).1.symm.trans kind
        have text := Token.text_of_lexeme? spelled noBreak
        cases first with
        | word start parts longest => exact isWord_iff.mpr ⟨_, _, text, start, parts⟩
        | sign sign =>
            rcases ofSign?_eq_some sign with ⟨-, rfl⟩ | ⟨-, rfl⟩ | ⟨-, rfl⟩ <;> cases word
        | newline => cases word
        | quoted => cases word
    | filler filler split sameLine => cases member
  · intro line widths token member kind
    rcases Scanner.mem_close member with rfl | rfl <;> cases kind

theorem namedByWords_of_derives {tokens : List Token} {statements : List Node}
    (derived : Grammar.Derives tokens statements)
    (words : ∀ token ∈ tokens, token.kind = .word → isWord token.text = true) :
    NamedByWords (.program statements) := by
  induction derived with
  | ending => simp [NamedByWords, Node.statements]
  | @piece tokens rest statement? statements first _ ih =>
      have behind := ih fun token member => words token (first.rest_suffix.subset member)
      intro name args member
      rcases List.mem_append.mp member with member | member
      · obtain ⟨called, calledMember, nodes, same, kind, spelled⟩ := first.call_of_mem member
        cases same
        refine ⟨words called calledMember kind, fun word wordMember => ?_⟩
        obtain ⟨token, tokenMember, spells⟩ := spelled _ wordMember
        cases spells with
        | word kind => exact words token tokenMember kind
      · exact behind name args member

theorem namedByWords_of_parse {source : String} {node : Node}
    (parsed : Node.parse (Token.scan source) = .ok node) : NamedByWords node := by
  obtain ⟨statements, rfl, derived⟩ := Grammar.derives_of_parse parsed
  refine namedByWords_of_derives derived fun token member => ?_
  exact isWord_of_mem_tokens _ token ((List.takeWhile_sublist _).subset member)

/-- The sources of a program in both host languages read back as what the program does: in order,
the prints with their texts and words, and the calls that are unknown. The names of a program read
from source are such as this asks for. -/
theorem read_render :
    (∀ program, NamedByWords program →
      Rust.read (program.render .rust) = some (actions program) ∧
        Go.read (program.render .go) = some (actions program)) ∧
    ∀ source node, Node.parse (Token.scan source) = .ok node → NamedByWords node :=
  ⟨fun _ named => ⟨rust_read_render named, go_read_render named⟩, fun _ _ => namedByWords_of_parse⟩

/-- The case of a print with escapes, a word and a nested call that is left out, between a stray
text and an unknown call; and of a program read from source. -/
theorem read_render_greeting :
    let program : Node := .program [.text "stray",
      .call "print" [.text "\"a\\\n", .call "f g" [], .word "größe"], .call "greet" []]
    NamedByWords program ∧
      Rust.read (program.render .rust) =
        some [.print [.text "\"a\\\n", .word "größe"], .unknown "greet"] ∧
      Go.read (program.render .go) =
        some [.print [.text "\"a\\\n", .word "größe"], .unknown "greet"] ∧
      Node.parse (Token.scan "print(x)") = .ok (.program [.call "print" [.word "x"]]) ∧
      NamedByWords (.program [.call "print" [.word "x"]]) := by
  intro program
  have named : NamedByWords program := by
    intro name args member
    simp only [program, Node.statements, List.mem_cons, reduceCtorEq, Node.call.injEq,
      List.not_mem_nil, or_false, false_or] at member
    rcases member with ⟨rfl, rfl⟩ | ⟨rfl, rfl⟩
    · refine ⟨by decide, fun word wordMember => ?_⟩
      obtain rfl : word = "größe" := by simpa using wordMember
      decide
    · exact ⟨by decide, by simp⟩
  have read : actions program = [.print [.text "\"a\\\n", .word "größe"], .unknown "greet"] := by
    decide
  have parsed :
      Node.parse (Token.scan "print(x)") = .ok (.program [.call "print" [.word "x"]]) := by
    decide +kernel
  obtain ⟨rust, go⟩ := read_render.1 program named
  rw [read] at rust go
  exact ⟨named, rust, go, parsed, read_render.2 _ _ parsed⟩

end HostReader
end CallScript
