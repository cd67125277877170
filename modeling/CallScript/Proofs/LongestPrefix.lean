import Mathlib.Data.List.TakeWhile

/-!
# The longest prefix with a property

Words, arguments, lines and indentation are read as the longest prefix of what is left.
-/

namespace CallScript

variable {α : Type} {p : α → Bool}

theorem ends_dropWhile (p : α → Bool) (l : List α) :
    ∀ next ∈ (l.dropWhile p).head?, p next = false := by
  intro next head
  have := List.head?_dropWhile_not p l
  rw [Option.mem_def] at head
  simpa [head] using this

/-- A part in front of something else is what is taken of both. -/
theorem longest_span {part : List α} (inside : ∀ x ∈ part, p x = true) {rest : List α}
    (ends : ∀ next ∈ rest.head?, p next = false) :
    (part ++ rest).takeWhile p = part ∧ (part ++ rest).dropWhile p = rest := by
  rw [List.takeWhile_append_of_pos inside, List.dropWhile_append_of_pos inside]
  cases rest with
  | nil => simp
  | cons next rest => simp [ends next (by simp)]

end CallScript
