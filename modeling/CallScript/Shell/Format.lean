import CallScript.Shell.Quantity
import CallScript.Text.Octets

/-!
# Formatted output

How `printf` and `echo` write their arguments, which are octet texts.
-/

namespace CallScript.Shell.Format

/-- Which escapes and conversions there are. -/
structure Dialect where
  /-- Whether bytes can be written in hexadecimal digits, double quotes behind a backslash, and an
  escape that ends the format. -/
  hasHex : Bool
  modifiers : List Char
  conversions : List (Char × (String → String))

def Dialect.plain : Dialect := ⟨false, [], []⟩

def isOctal (c : Char) : Bool := '0' ≤ c && c ≤ '7'

def letterEscape? (c : Char) : Option Char :=
  [('\\', '\\'), ('a', '\x07'), ('b', '\x08'), ('e', '\x1b'), ('f', '\x0c'), ('n', '\n'),
    ('r', '\x0d'), ('t', '\t'), ('v', '\x0b')].lookup c

def octalChar (digits : List Char) : Char := Char.ofNat (Number.ofDigits 8 digits % 256)

def takeEscape (dialect : Dialect) (text : List Char) : List Char × List Char :=
  match text with
  | [] => (['\\'], [])
  | c :: rest =>
      match letterEscape? c with
      | some meant => ([meant], rest)
      | none =>
          let hex := (rest.take 2).takeWhile fun c => (Number.digitOf? 16 c).isSome
          if isOctal c then
            let digits := (text.take 3).takeWhile isOctal
            ([octalChar digits], text.drop digits.length)
          else if dialect.hasHex && c = 'x' && !hex.isEmpty then
            ([Char.ofNat (Number.ofDigits 16 hex)], rest.drop hex.length)
          else if dialect.hasHex && c = '"' then ([c], rest)
          else (['\\'], text)

def unescape (dialect : Dialect) : Nat → List Char → List Char × Bool
  | 0, _ => ([], false)
  | _, [] => ([], false)
  | fuel + 1, '\\' :: rest =>
      match rest with
      | 'c' :: _ => ([], true)
      | '0' :: digits =>
          let octal := (digits.take 3).takeWhile isOctal
          let (more, cut) := unescape dialect fuel (digits.drop octal.length)
          (octalChar octal :: more, cut)
      | _ =>
          let (here, behind) := takeEscape dialect rest
          let (more, cut) := unescape dialect fuel behind
          (here ++ more, cut)
  | fuel + 1, c :: rest =>
      let (more, cut) := unescape dialect fuel rest
      (c :: more, cut)

/-! ## Numbers as arguments -/

/-- What can be wrong with an argument that should be a number. -/
inductive Problem where
  | noNumber
  | notWhole
  | outOfRange
deriving DecidableEq

/-- The integer that an argument spells, and what is wrong with the argument. A quote stands before
a character whose code is meant. -/
def integerOf (least greatest : Int) (argument : String) : Int × Option Problem :=
  match argument.toList with
  | '\'' :: rest | '"' :: rest => (((rest.head?.map Char.toNat).getD 0 : Nat), none)
  | text =>
      let (negative, digits) := Number.splitSign (text.dropWhile Number.isSpace)
      let (size, behind) := Number.splitAnyBase digits
      let value : Int := if negative then -size else size
      if text.isEmpty then (0, none)
      else if behind.length = digits.length then (0, some .noNumber)
      else
        let nearest := max least (min greatest value)
        let problem? :=
          if !behind.isEmpty then some Problem.notWhole
          else if nearest ≠ value then some .outOfRange
          else none
        (nearest, problem?)

def signedOf (argument : String) : Int × Option Problem :=
  integerOf Number.least Number.greatest argument

/-- The natural number of 64 bits that an argument spells; a negative one counts from the end. -/
def unsignedOf (argument : String) : Nat × Option Problem :=
  let limit : Int := Number.wordCount - 1
  let (value, problem?) := integerOf (-limit) limit argument
  ((value % Number.wordCount).toNat, problem?)

/-- The number with a point that an argument spells, and what is wrong with the argument. -/
def quantityOf (argument : String) : Quantity × Option Problem :=
  match argument.toList with
  | '\'' :: rest | '"' :: rest => (.ofNat ((rest.head?.map Char.toNat).getD 0), none)
  | [] => (.zero, none)
  | text =>
      match Quantity.split? text with
      | none => (.zero, some .noNumber)
      | some (quantity, behind) =>
          let value := quantity.rounded
          let isFinite (quantity : Quantity) : Bool := quantity.size ≠ .infinite
          let isLost := isFinite quantity && (!isFinite value ||
            (value.size = .finite 0 1 && quantity.size ≠ .finite 0 1))
          let problem? :=
            if !behind.isEmpty then some Problem.notWhole
            else if isLost then some .outOfRange
            else none
          (value, problem?)

/-! ## Conversions -/

/-- Flags, width and precision of a conversion. -/
structure Field where
  flags : List Char
  width : Nat
  precision? : Option Nat

namespace Field

def isLeft (field : Field) : Bool := field.flags.contains '-'

def sign (field : Field) (isNegative : Bool) : List Char :=
  if isNegative then ['-'] else ['+', ' '].filter field.flags.contains |>.take 1

def pad (field : Field) (content : List Char) : List Char :=
  let blanks := List.replicate (field.width - content.length) ' '
  if field.isLeft then content ++ blanks else blanks ++ content

def cut (field : Field) (content : List Char) : List Char :=
  match field.precision? with
  | some precision => content.take precision
  | none => content

def number (field : Field) (mark digits : List Char) : List Char :=
  let digits := if field.precision? = some 0 && digits = ['0'] then [] else digits
  let filled :=
    match field.precision? with
    | some precision => List.replicate (precision - digits.length) '0' ++ digits
    | none =>
        if field.flags.contains '0' && !field.isLeft then
          List.replicate (field.width - mark.length - digits.length) '0' ++ digits
        else digits
  field.pad (mark ++ filled)

def quantity (field : Field) (form : Char) (value : Quantity) : List Char :=
  let mark := field.sign value.isNegative
  let hasPoint := field.flags.contains '#'
  let digits := Quantity.digitsOf form (field.precision?.getD 6) hasPoint value.size
  let isFilled := field.flags.contains '0' && !field.isLeft && digits.head?.any Char.isDigit
  let zeros :=
    if isFilled then List.replicate (field.width - mark.length - digits.length) '0' else []
  field.pad (mark ++ zeros ++ digits)

end Field

/-- What a conversion gives. -/
structure Converted where
  content : List Char
  isLast : Bool
  problem? : Option Problem

/-- The text of an argument under a conversion, where there is such a conversion. -/
def convert? (dialect : Dialect) (field : Field) (conversion : Char) (argument : String) :
    Option Converted :=
  let unsigned (base : Nat) (mark : List Char) : Converted :=
    let (value, problem?) := unsignedOf argument
    let isMarked := field.flags.contains '#' && value ≠ 0
    ⟨field.number (if isMarked then mark else []) (Nat.toDigits base value), false, problem?⟩
  let pointed (form : Char) : Converted :=
    let (value, problem?) := quantityOf argument
    ⟨field.quantity form value, false, problem?⟩
  match conversion with
  | 's' => some ⟨field.pad (field.cut argument.toList), false, none⟩
  | 'b' =>
      let (content, isLast) := unescape dialect (argument.length + 1) argument.toList
      some ⟨field.pad (field.cut content), isLast, none⟩
  | 'c' => some ⟨field.pad [argument.toList.headD '\x00'], false, none⟩
  | 'd' | 'i' =>
      let (value, problem?) := signedOf argument
      some ⟨field.number (field.sign (value < 0)) (Nat.toDigits 10 value.natAbs), false, problem?⟩
  | 'u' => some (unsigned 10 [])
  | 'o' => some (unsigned 8 ['0'])
  | 'x' => some (unsigned 16 ['0', 'x'])
  | 'X' =>
      let converted := unsigned 16 ['0', 'x']
      some { converted with content := converted.content.map Char.toUpper }
  | 'e' | 'f' | 'g' => some (pointed conversion)
  | 'E' | 'F' | 'G' =>
      let converted := pointed conversion.toLower
      some { converted with content := converted.content.map Char.toUpper }
  | _ =>
      (dialect.conversions.lookup conversion).map fun converted =>
        ⟨field.pad (converted argument).toList, false, none⟩

/-- What is behind the number at the front of a text, which may be an argument, and the arguments
left. -/
def takeSize (text : List Char) (args : List String) : Int × List Char × List String :=
  match text with
  | '*' :: rest => ((signedOf (args.headD "")).1, rest, args.tail)
  | _ =>
      let (size, rest) := Number.splitDigits 10 text
      (size, rest, args)

def takeField (text : List Char) (args : List String) : Field × List Char × List String :=
  let flags := text.takeWhile fun c => ['#', '-', '+', ' ', '0'].contains c
  let (width, rest, args) := takeSize (text.drop flags.length) args
  let flags := if width < 0 then '-' :: flags else flags
  match rest with
  | '.' :: rest =>
      let (precision, rest, args) := takeSize rest args
      (⟨flags, width.natAbs, if precision < 0 then none else some precision.toNat⟩, rest, args)
  | _ => (⟨flags, width.natAbs, none⟩, rest, args)

/-! ## Formats -/

/-- A mistake in a format. -/
inductive Mistake where
  | unknown (directive : String)
  | unfinished (directive : String)
deriving DecidableEq

/-- What following a format gives: the text, the arguments left, the arguments with which something
was wrong, and whether it ended early; an `invalid?` format is the reason for that. -/
structure Pass where
  written : List Char
  args : List String
  problems : List (String × Problem)
  ended : Bool
  invalid? : Option Mistake

def Pass.none (args : List String) : Pass := ⟨[], args, [], false, Option.none⟩

def Pass.refuse (args : List String) (mistake : Mistake) : Pass :=
  ⟨[], args, [], true, some mistake⟩

def Pass.behind (later : Pass) (written : List Char) (problems : List (String × Problem)) :
    Pass :=
  { later with written := written ++ later.written, problems := problems ++ later.problems }

def pass (dialect : Dialect) : Nat → List Char → List String → Pass
  | 0, _, args => .none args
  | _, [], args => .none args
  | fuel + 1, c :: rest, args =>
      if c = '\\' && dialect.hasHex && rest.head? = some 'c' then
        ⟨[], args, [], true, Option.none⟩
      else if c = '\\' then
        let (here, behind) := takeEscape dialect rest
        (pass dialect fuel behind args).behind here []
      else if c ≠ '%' then (pass dialect fuel rest args).behind [c] []
      else if rest.head? = some '%' then (pass dialect fuel rest.tail args).behind ['%'] []
      else
        let (field, behind, args) := takeField rest args
        match behind.dropWhile dialect.modifiers.contains with
        | [] => .refuse args (.unfinished (String.ofList (c :: rest)))
        | conversion :: behind =>
            let argument := args.headD ""
            match convert? dialect field conversion argument with
            | Option.none =>
                let directive := (c :: rest).take (rest.length + 1 - behind.length)
                .refuse args (.unknown (String.ofList directive))
            | some ⟨content, isLast, problem?⟩ =>
                let problems := (problem?.map fun problem => (argument, problem)).toList
                if isLast then ⟨content, args.tail, problems, true, Option.none⟩
                else (pass dialect fuel behind args.tail).behind content problems

def passes (dialect : Dialect) : Nat → List Char → List String → Pass
  | 0, _, args => .none args
  | fuel + 1, format, args =>
      let first := pass dialect (format.length + 1) format args
      if first.ended || first.args.isEmpty || first.args.length = args.length then first
      else (passes dialect fuel format first.args).behind first.written first.problems

def printf (dialect : Dialect) (format : String) (args : List String) : Pass :=
  passes dialect (args.length + 1) format.toList args

/-- What `echo` writes; escapes are carried out only where `escapes` says so. -/
def echo (dialect : Dialect) (escapes : Bool) (args : List String) : String :=
  let (noBreak, args) : Bool × List String :=
    match args with
    | "-n" :: args => (true, args)
    | _ => (false, args)
  let text := (" ".intercalate args).toList
  let (written, cut) :=
    if escapes then unescape dialect (text.length + 1) text else (text, false)
  String.ofList (if noBreak || cut then written else written ++ ['\n'])

end CallScript.Shell.Format
