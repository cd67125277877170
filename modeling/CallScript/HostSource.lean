import CallScript.Builtin
import CallScript.Reading
import CallScript.Target
import CallScript.Token.Scan

/-!
# Host source

A program is written out as one `main` function of the host language with one line per call. The
two host languages differ in what precedes the lines, in how a text is quoted and in how a print is
spelled; a `Dialect` holds these three. Writing out never fails.
-/

namespace CallScript

structure Dialect where
  /-- The text up to the first line of the body, given whether anything is printed. -/
  opening : Bool → String
  quote : String → String
  print : List String → String

namespace Dialect

def indentation : String := "    "

def banner : String := "// Generated by mob. Do not edit.\n\n"

def rust : Dialect where
  opening _ := banner ++ "fn main() \x7b\n"
  quote := Text.quote
  print operands :=
    if operands.isEmpty then "println!();"
    else
      "println!(\"" ++ " ".intercalate (operands.map fun _ => "\x7b\x7d") ++ "\", " ++
        ", ".intercalate operands ++ ");"

def go : Dialect where
  opening prints :=
    banner ++ "package main\n\n" ++
      (if prints then "import (\n" ++ indentation ++ "\"fmt\"\n)\n\n" else "") ++
      "func main() \x7b\n"
  quote := Text.quoteBytes
  print operands := "fmt.Println(" ++ ", ".intercalate operands ++ ")"

variable (dialect : Dialect)

/-- The operand that an argument is written as; nested calls and programs are left out. -/
def operand? : Node → Option String
  | .text value => some (dialect.quote value)
  | .word name => some name
  | _ => none

def call (name : String) (args : List Node) : String :=
  match Builtin.find? name with
  | some .print => dialect.print (args.filterMap dialect.operand?)
  | none => unknownCall name

/-- The line of a statement; only calls have one. -/
def line? : Node → Option String
  | .call name args => some (indentation ++ dialect.call name args ++ "\n")
  | _ => none

def render (program : Node) : String :=
  dialect.opening (program.statements.any fun statement => statement.isCall Builtin.print.name) ++
    String.join (program.statements.filterMap dialect.line?) ++ "\x7d\n"

end Dialect

def Target.dialect : Target → Dialect
  | .rust => .rust
  | .go => .go

def Node.render (program : Node) (target : Target) : String := target.dialect.render program

def emit (source : String) (target : Target) : Except ParseError String :=
  (Node.parse (Token.scan source)).map fun program => program.render target

end CallScript
