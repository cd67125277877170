/-!
# Ranges of code points

A character property is given by a table: ranges of code points in ascending order, both ends
included. Looking a character up stops at the first range that lies above it.
-/

namespace CallScript.Text

/-- The code points from `first` to `last`, both included. -/
structure CodeRange where
  first : Nat
  last : Nat
deriving DecidableEq

/-- Whether some range of an ascending table holds the code point. -/
def covers : List CodeRange → Nat → Bool
  | [], _ => false
  | range :: table, code =>
      if code < range.first then false
      else if code ≤ range.last then true
      else covers table code

/-- The ranges follow each other with gaps and none is empty, so that a look-up may stop early. -/
def Ascending : List CodeRange → Bool
  | [] => true
  | [range] => range.first ≤ range.last
  | range :: next :: table =>
      range.first ≤ range.last && range.last + 1 < next.first && Ascending (next :: table)

theorem lt_first_of_lt_head {table : List CodeRange} {code : Nat}
    (ascending : Ascending table) (below : ∀ range ∈ table.head?, code < range.first) :
    ∀ range ∈ table, code < range.first := by
  induction table with
  | nil => simp
  | cons range table ih =>
      have here := below range (by simp)
      intro other member
      rcases List.mem_cons.mp member with rfl | member
      · exact here
      cases table with
      | nil => simp at member
      | cons next table =>
          simp only [Ascending, Bool.and_eq_true, decide_eq_true_eq] at ascending
          refine ih ascending.2 ?_ other member
          intro range' head
          simp only [List.head?_cons, Option.mem_def, Option.some.injEq] at head
          subst head
          omega

/-- Stopping early loses nothing: in an ascending table a code point is covered exactly when one of
the ranges holds it. -/
theorem covers_iff {table : List CodeRange} (ascending : Ascending table) (code : Nat) :
    covers table code ↔ ∃ range ∈ table, range.first ≤ code ∧ code ≤ range.last := by
  induction table with
  | nil => simp [covers]
  | cons range table ih =>
      have rest : Ascending table := by
        cases table with
        | nil => rfl
        | cons next table =>
            simp only [Ascending, Bool.and_eq_true] at ascending
            exact ascending.2
      unfold covers
      split
      · next low =>
          -- in an ascending table no later range begins any lower
          have above : ∀ other ∈ range :: table, code < other.first :=
            lt_first_of_lt_head ascending (by simpa using low)
          simp only [Bool.false_eq_true, false_iff, not_exists, not_and]
          intro other member first
          have := above other member
          omega
      · next high =>
          split
          · next within => simpa using Or.inl ⟨Nat.le_of_not_lt high, within⟩
          · next beyond => rw [ih rest]; simp [beyond]

end CallScript.Text
