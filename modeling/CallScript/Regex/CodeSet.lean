/-!
# Sets of codes

A set of codes is a list of ranges in ascending order, with gaps between them. `insert` keeps the
list in this form, so that two sets with the same members are the same list.
-/

namespace CallScript.Regex

/-- Ranges of codes, both ends included. -/
abbrev CodeSet := List (Nat × Nat)

namespace CodeSet

def insert (low high : Nat) : CodeSet → CodeSet
  | [] => [(low, high)]
  | (first, last) :: ranges =>
      if high + 1 < first then (low, high) :: (first, last) :: ranges
      else if last + 1 < low then (first, last) :: insert low high ranges
      else insert (min low first) (max high last) ranges

def ofRanges (ranges : List (Nat × Nat)) : CodeSet :=
  ranges.foldl (fun set (low, high) => set.insert low high) []

def contains (set : CodeSet) (code : Nat) : Bool :=
  set.any fun (low, high) => low ≤ code && code ≤ high

theorem contains_insert {low high code : Nat} {set : CodeSet} (ordered : low ≤ high)
    (orderedAll : ∀ range ∈ set, range.1 ≤ range.2) :
    (set.insert low high).contains code =
      ((low ≤ code && code ≤ high) || set.contains code) := by
  fun_induction insert low high set with
  | case1 => simp [contains]
  | case2 => simp [contains]
  | case3 low high first last ranges _ _ ih =>
      have rest := ih ordered fun range member => orderedAll range (by simp [member])
      simp only [contains, List.any_cons] at rest ⊢
      rw [rest, Bool.or_left_comm]
  | case4 low high first last ranges above below ih =>
      have here : first ≤ last := orderedAll (first, last) (by simp)
      have rest := ih (by omega) fun range member => orderedAll range (by simp [member])
      simp only [contains, List.any_cons] at rest ⊢
      rw [rest, ← Bool.or_assoc]
      congr 1
      rw [Bool.eq_iff_iff]
      simp only [Bool.and_eq_true, Bool.or_eq_true, decide_eq_true_eq]
      omega

def union (first second : CodeSet) : CodeSet :=
  second.foldl (fun set (low, high) => set.insert low high) first

def gapsFrom (last start : Nat) : CodeSet → CodeSet
  | [] => if start ≤ last then [(start, last)] else []
  | (low, high) :: ranges =>
      if start < low then (start, low - 1) :: gapsFrom last (high + 1) ranges
      else gapsFrom last (high + 1) ranges

def complement (last : Nat) (set : CodeSet) : CodeSet := set.gapsFrom last 0

def within (low high : Nat) (set : CodeSet) : CodeSet :=
  set.filterMap fun (first, last) =>
    if max low first ≤ min high last then some (max low first, min high last) else none

def intersection (first second : CodeSet) : CodeSet :=
  second.foldl (fun set (low, high) => set.union (first.within low high)) []

def difference (last : Nat) (first second : CodeSet) : CodeSet :=
  first.intersection (second.complement last)

def foldCase (set : CodeSet) : CodeSet :=
  let lower := (set.within 65 90).map fun (low, high) => (low + 32, high + 32)
  let upper := (set.within 97 122).map fun (low, high) => (low - 32, high - 32)
  (set.union lower).union upper

def only? : CodeSet → Option Nat
  | [(low, high)] => if low = high then some low else none
  | _ => none

def isBelow (limit : Nat) (set : CodeSet) : Bool := set.all fun (_, high) => high < limit

end CodeSet
end CallScript.Regex
