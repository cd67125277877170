/-!
# The tree of a program

A program is a list of statements. Reading a source gives calls only, whose arguments are texts and
words; the type also holds every other nesting, and all functions on it are total.
-/

namespace CallScript

inductive Node where
  | program (statements : List Node)
  | call (name : String) (args : List Node)
  /-- A text without its quotes, in which escapes stand as they were written. -/
  | text (value : String)
  | word (name : String)

namespace Node

mutual

def decEq : (a b : Node) → Decidable (a = b)
  | .program as, .program bs =>
      have := decEqList as bs
      decidable_of_iff (as = bs) (by simp)
  | .call f as, .call g bs =>
      have := decEqList as bs
      decidable_of_iff (f = g ∧ as = bs) (by simp)
  | .text a, .text b => decidable_of_iff (a = b) (by simp)
  | .word a, .word b => decidable_of_iff (a = b) (by simp)
  | .program _, .call _ _ | .program _, .text _ | .program _, .word _
  | .call _ _, .program _ | .call _ _, .text _ | .call _ _, .word _
  | .text _, .program _ | .text _, .call _ _ | .text _, .word _
  | .word _, .program _ | .word _, .call _ _ | .word _, .text _ => isFalse nofun

def decEqList : (as bs : List Node) → Decidable (as = bs)
  | [], [] => isTrue rfl
  | [], _ :: _ | _ :: _, [] => isFalse nofun
  | a :: as, b :: bs =>
      have := decEq a b
      have := decEqList as bs
      decidable_of_iff (a = b ∧ as = bs) (by simp)

end

instance : DecidableEq Node := decEq

def isCall (node : Node) (name : String) : Bool :=
  match node with
  | .call called _ => called == name
  | _ => false

/-- The statements of a program; no other node has any. -/
def statements : Node → List Node
  | .program statements => statements
  | _ => []

end Node
end CallScript
