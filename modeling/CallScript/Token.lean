import CallScript.Text.Quoted

/-!
# Tokens

A token has a kind, the text it was read from and the line it stands on. Layout tokens and the end
of input carry no text; a quoted token keeps both quotes.
-/

namespace CallScript

inductive Token.Kind where
  | endOfInput
  | word
  | quoted
  | number
  | openParen
  | closeParen
  | colon
  | indent
  | dedent
  | newline
deriving DecidableEq

structure Token where
  kind : Token.Kind
  text : String
  line : Nat
deriving DecidableEq

namespace Token

def Kind.name : Kind → String
  | .endOfInput => "EOF"
  | .word => "Identifier"
  | .quoted => "String"
  | .number => "Number"
  | .openParen => "LeftParen"
  | .closeParen => "RightParen"
  | .colon => "Colon"
  | .indent => "Indent"
  | .dedent => "Dedent"
  | .newline => "Newline"

def bare (kind : Kind) (line : Nat) : Token := ⟨kind, "", line⟩

/-- The written form of a token: kind, quoted text and line. `plain` says which characters of the
text stand as themselves. -/
def displayBy (plain : Char → Bool) (token : Token) : String :=
  "Token\x7b" ++ token.kind.name ++ ", " ++ Text.quoteBy plain token.text ++
    ", Line: " ++ toString token.line ++ "\x7d"

def display (token : Token) : String := token.displayBy Text.standsAlone

end Token
end CallScript
