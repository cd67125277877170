/-!
# Pieces of a text

Dividing a text at a character. There is one more piece than there are dividing characters, and
joining the pieces gives the text again.
-/

namespace CallScript.Text

def pieces (separator : Char) : List Char → List (List Char)
  | [] => [[]]
  | c :: rest =>
      if c = separator then [] :: pieces separator rest
      else
        match pieces separator rest with
        | [] => [[c]]
        | piece :: others => (c :: piece) :: others

theorem pieces_ne_nil (separator : Char) (text : List Char) : pieces separator text ≠ [] := by
  cases text with
  | nil => simp [pieces]
  | cons c rest =>
      unfold pieces
      split
      · simp
      · split <;> simp

theorem intercalate_pieces (separator : Char) (text : List Char) :
    [separator].intercalate (pieces separator text) = text := by
  induction text with
  | nil => rfl
  | cons c rest ih =>
      have nonempty := pieces_ne_nil separator rest
      unfold pieces
      cases h : pieces separator rest with
      | nil => exact absurd h nonempty
      | cons piece others =>
          rw [h] at ih
          split
          · next same =>
              subst same
              simpa [List.intercalate, List.intersperse] using ih
          · cases others <;> simp_all [List.intercalate, List.intersperse]

end CallScript.Text
