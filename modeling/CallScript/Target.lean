/-!
# Targets

The host languages that a program can be written out in.
-/

namespace CallScript

inductive Target where
  | rust
  | go
deriving DecidableEq

namespace Target

instance : Inhabited Target := ⟨.rust⟩

def all : List Target := [.rust, .go]

def name : Target → String
  | .rust => "rust"
  | .go => "go"

def ofName? (name : String) : Option Target := all.find? fun target => target.name == name

def sourceFileName : Target → String
  | .rust => "main.rs"
  | .go => "main.go"

end Target
end CallScript
