import CallScript.Proofs.PathText
import CallScript.Toolchain
import Mathlib.Data.List.TakeWhile

/-!
# Names of executables

The name that an executable gets from its path is one that the compiler takes, whatever the path
is: it has only ASCII letters, digits and underscores, at least one of them, and begins with no
digit. A name of this form is the name of the path that it is itself.

* `CrateName.isCrateName_crateName`: every path has a name of this form.
* `CrateName.crateName_eq_self`: names of this form are kept.
-/

namespace CallScript
namespace CrateName

def isCrateChar (c : Char) : Bool := c.isAlphanum || c == '_'

structure IsCrateName (name : String) : Prop where
  nonempty : name ≠ ""
  chars : ∀ c ∈ name.toList, isCrateChar c = true
  begins : ∀ first ∈ name.toList.head?, first.isDigit = false

/-! ## Characters -/

/-- What stands in a name for a character of a file name. -/
def replaced (c : Char) : Char := if c.isAlphanum then c else '_'

theorem isCrateChar_replaced (c : Char) : isCrateChar (replaced c) = true := by
  unfold replaced
  split
  · next alphanumeric => simp [isCrateChar, alphanumeric]
  · decide

theorem replaced_eq_self {c : Char} (h : isCrateChar c = true) : replaced c = c := by
  rw [isCrateChar, Bool.or_eq_true, beq_iff_eq] at h
  rcases h with alphanumeric | rfl
  · exact if_pos alphanumeric
  · rfl

theorem not_isDigit_of_isAlpha {c : Char} (letter : c.isAlpha = true) : c.isDigit = false := by
  delta Char.isAlpha Char.isUpper Char.isLower at letter
  delta Char.isDigit
  simp only [Bool.or_eq_true, Bool.and_eq_true, decide_eq_true_eq, Bool.and_eq_false_iff,
    decide_eq_false_iff_not, ge_iff_le, UInt32.le_iff_toNat_le] at letter ⊢
  simp at letter ⊢
  omega

theorem begins_iff {c : Char} (h : isCrateChar c = true) :
    (c.isAlpha || c == '_') = true ↔ c.isDigit = false := by
  rw [isCrateChar, Char.isAlphanum] at h
  constructor
  · intro begins
    rw [Bool.or_eq_true, beq_iff_eq] at begins
    rcases begins with letter | rfl
    · exact not_isDigit_of_isAlpha letter
    · decide
  · intro noDigit
    rwa [noDigit, Bool.or_false] at h

/-! ## Names -/

/-- The letters of a name, with a beginning put before those that begin no name. -/
def begun (letters : List Char) : List Char :=
  match letters with
  | first :: _ => if first.isAlpha || first == '_' then letters else "mob_".toList ++ letters
  | [] => "mob_".toList

theorem crateName_eq (output : String) :
    crateName output =
      String.ofList (begun (((Path.stem? output).getD "").toList.map replaced)) := by
  delta crateName replaced
  generalize ((Path.stem? output).getD "").toList.map _ = letters
  cases letters with
  | nil => rfl
  | cons first rest =>
      simp only [begun]
      split
      · rfl
      · rw [String.ofList_append, String.ofList_toList]

theorem isCrateName_ofList {first : Char} {rest : List Char}
    (chars : ∀ c ∈ first :: rest, isCrateChar c = true) (begins : first.isDigit = false) :
    IsCrateName (String.ofList (first :: rest)) where
  nonempty := by simp [← String.toList_inj]
  chars := by simpa only [String.toList_ofList] using chars
  begins := by simpa using begins

theorem isCrateName_begun {letters : List Char} (chars : ∀ c ∈ letters, isCrateChar c = true) :
    IsCrateName (String.ofList (begun letters)) := by
  have front : ∀ c ∈ "mob_".toList, isCrateChar c = true := List.all_eq_true.mp (by decide)
  cases letters with
  | nil => exact isCrateName_ofList front (by decide)
  | cons first rest =>
      simp only [begun]
      split
      · next begins =>
          exact isCrateName_ofList chars ((begins_iff (chars first List.mem_cons_self)).mp begins)
      · refine isCrateName_ofList (fun c member => ?_) (by decide)
        exact (List.mem_append.mp member).elim (front c) (chars c)

theorem isCrateName_crateName (output : String) : IsCrateName (crateName output) := by
  rw [crateName_eq]
  apply isCrateName_begun
  intro c member
  obtain ⟨letter, -, rfl⟩ := List.mem_map.mp member
  exact isCrateChar_replaced letter

/-! ## Names of names -/

variable {name : String}

theorem IsCrateName.not_mem (h : IsCrateName name) {c : Char} (other : isCrateChar c = false) :
    c ∉ name.toList := by
  intro member
  have := h.chars c member
  simp_all

theorem IsCrateName.fileName? (h : IsCrateName name) : Path.fileName? name = some name := by
  have noDot := h.not_mem (c := '.') (by decide)
  have proper : name ≠ "." ∧ name ≠ ".." := by
    constructor <;> rintro rfl <;> exact noDot (by decide)
  have piece : Path.pieces name = [name] := by
    rw [Path.pieces, Text.pieces_of_not_mem (h.not_mem (by decide))]
    simp
  simp [Path.fileName?, Path.names, piece, h.nonempty, proper]

theorem divideAtDot_of_not_mem {letters : List Char} (noDot : '.' ∉ letters) :
    Path.divideAtDot letters = (letters, none) := by
  have whole : letters.reverse.dropWhile (· ≠ '.') = [] := by
    rw [List.dropWhile_eq_nil_iff]
    intro c member
    rw [decide_eq_true_eq]
    rintro rfl
    exact noDot (List.mem_reverse.mp member)
  simp only [Path.divideAtDot, whole]

theorem IsCrateName.stem? (h : IsCrateName name) : Path.stem? name = some name := by
  rw [Path.stem?, h.fileName?, Option.map_some,
    divideAtDot_of_not_mem (h.not_mem (by decide)), String.ofList_toList]

theorem crateName_eq_self (h : IsCrateName name) : crateName name = name := by
  have kept : name.toList.map replaced = name.toList :=
    (List.map_congr_left fun c member => replaced_eq_self (h.chars c member)).trans
      (List.map_id name.toList)
  obtain ⟨first, rest, split⟩ : ∃ first rest, name.toList = first :: rest := by
    apply List.exists_cons_of_ne_nil
    rw [ne_eq, String.toList_eq_nil_iff]
    exact h.nonempty
  have begins : (first.isAlpha || first == '_') = true :=
    (begins_iff (h.chars first (by simp [split]))).mpr (h.begins first (by simp [split]))
  rw [crateName_eq, h.stem?, Option.getD_some, kept, split, begun, if_pos begins, ← split,
    String.ofList_toList]

/-- The name from a path is one that the compiler takes, and it is the name from itself: the names
that are kept are those of this form. -/
theorem crateName_normal (output : String) :
    IsCrateName (crateName output) ∧ crateName (crateName output) = crateName output ∧
      ∀ name, crateName name = name ↔ IsCrateName name := by
  refine ⟨isCrateName_crateName output, crateName_eq_self (isCrateName_crateName output), ?_⟩
  intro name
  constructor
  · intro kept
    rw [← kept]
    exact isCrateName_crateName name
  · exact crateName_eq_self

example : ["dir/my.app", "2fast", "", "/", "..", ".a.b/", "é/."].map crateName =
    ["my", "mob_2fast", "mob_", "mob_", "mob_", "_a", "_"] := by decide

end CrateName
end CallScript
