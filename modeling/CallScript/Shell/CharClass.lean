/-!
# Classes of characters

The named classes of characters, by which patterns and sets speak of letters, digits and the like.
Only ASCII characters belong to any.
-/

namespace CallScript.Shell

def isPrintable (c : Char) : Bool := ' ' ≤ c && c ≤ '~'

def isPunctuation (c : Char) : Bool := '!' ≤ c && c ≤ '~' && !c.isAlphanum

def charClasses : List (String × (Char → Bool)) :=
  [("alnum", Char.isAlphanum), ("alpha", Char.isAlpha), ("blank", fun c => c = ' ' || c = '\t'),
    ("cntrl", fun c => c.toNat < 32 || c.toNat = 127), ("digit", Char.isDigit),
    ("graph", fun c => '!' ≤ c && c ≤ '~'), ("lower", Char.isLower), ("print", isPrintable),
    ("punct", isPunctuation), ("space", fun c => c = ' ' || ('\t' ≤ c && c ≤ '\x0d')),
    ("upper", Char.isUpper),
    ("xdigit", fun c => c.isDigit || ('a' ≤ c.toLower && c.toLower ≤ 'f'))]

def allOctets : List Char := (List.range 256).map Char.ofNat

end CallScript.Shell
