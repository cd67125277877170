import CallScript.FileTree.Operation
import Mathlib.Data.List.Infix

/-!
# The texts of paths

How the pieces of a path are put together when a name is joined to it.

* `Octets.toText?_ofText`: a text can be read off its octets.
* `Path.EndsIn.pieces`, `Path.EndsIn.join`: the pieces of a path that ends in a name, and of a path
  joined to it.
-/

namespace CallScript

namespace Octets

theorem fromUTF8?_toUTF8 (text : String) : String.fromUTF8? text.toUTF8 = some text :=
  dif_pos text.isValidUTF8

theorem toText?_ofText (text : String) : toText? (ofText text) = some text := by
  rw [toText?, ofText, toBytes_ofBytes, fromUTF8?_toUTF8]

end Octets

/-! ## Pieces -/

namespace Text

theorem pieces_append (separator : Char) (front back : List Char) :
    pieces separator (front ++ separator :: back) =
      pieces separator front ++ pieces separator back := by
  induction front with
  | nil => simp [pieces]
  | cons c front ih =>
      rw [List.cons_append, pieces, pieces, ih]
      split
      · rfl
      · obtain ⟨piece, others, split⟩ := List.exists_cons_of_ne_nil (pieces_ne_nil separator front)
        simp [split]

theorem pieces_of_not_mem {separator : Char} {text : List Char} (whole : separator ∉ text) :
    pieces separator text = [text] := by
  induction text with
  | nil => rfl
  | cons c text ih =>
      rw [List.mem_cons, not_or] at whole
      rw [pieces, if_neg (Ne.symm whole.1), ih whole.2]

end Text

namespace Path

theorem pieces_slash (front back : String) :
    pieces (front ++ "/" ++ back) = pieces front ++ pieces back := by
  simp [pieces, Text.pieces_append]

/-- An ASCII name that is one piece and no dots. -/
structure IsSimpleName (name : String) : Prop where
  ascii : name.toList.all (·.toNat < 128) = true
  noSlash : '/' ∉ name.toList
  proper : name ∉ ["", ".", ".."]

theorem IsSimpleName.pieces {name : String} (simple : IsSimpleName name) :
    Path.pieces name = [name] := by
  simp [Path.pieces, Text.pieces_of_not_mem simple.noSlash]

theorem IsSimpleName.not_isAbsolute {name : String} (simple : IsSimpleName name) :
    isAbsolute name = false := by
  rw [isAbsolute, decide_eq_false_iff_not]
  intro slash
  exact simple.noSlash (List.mem_of_mem_head? slash)

theorem ascii_of_isAlphanum {c : Char} (alphanumeric : c.isAlphanum = true) : c.toNat < 128 := by
  delta Char.isAlphanum Char.isAlpha Char.isUpper Char.isLower Char.isDigit at alphanumeric
  simp only [Bool.or_eq_true, Bool.and_eq_true, decide_eq_true_eq, ge_iff_le,
    UInt32.le_iff_toNat_le] at alphanumeric
  have number : c.toNat = c.val.toNat := rfl
  simp at alphanumeric
  omega

theorem IsSimpleName.append {front back : String} (simple : IsSimpleName front)
    (noDot : front.toList.head? ≠ some '.')
    (alphanumeric : back.toList.all Char.isAlphanum = true) : IsSimpleName (front ++ back) where
  ascii := by
    rw [String.toList_append, List.all_append, simple.ascii, Bool.true_and, List.all_eq_true]
    intro c behind
    rw [decide_eq_true_eq]
    exact ascii_of_isAlphanum (List.all_eq_true.mp alphanumeric c behind)
  noSlash member := by
    rw [String.toList_append, List.mem_append] at member
    refine member.elim simple.noSlash fun behind => ?_
    exact absurd (List.all_eq_true.mp alphanumeric '/' behind) (by decide)
  proper member := by
    have nonempty : front.toList ≠ [] := by
      have := simple.proper
      simp_all
    have head : (front ++ back).toList.head? = front.toList.head? := by
      rw [String.toList_append, List.head?_append_of_ne_nil _ nonempty]
    simp only [List.mem_cons, List.not_mem_nil, or_false] at member
    rcases member with same | same | same
    · rw [same] at head
      exact nonempty (List.head?_eq_none_iff.mp head.symm)
    · rw [same] at head
      exact noDot head.symm
    · rw [same] at head
      exact noDot head.symm

/-- The path is a name, or a path with a slash and a name behind it. -/
def EndsIn (path name : String) : Prop := ∃ front, path = front ++ name ∧
  (front = "" ∨ ∃ above, front = above ++ "/")

theorem join_front (path : String) :
    ∃ front, (∀ name, IsSimpleName name → join path name = front ++ name) ∧
      (front = "" ∨ ∃ above, front = above ++ "/") := by
  by_cases empty : path.isEmpty = true
  · obtain rfl : path = "" := by simpa using empty
    exact ⟨"", fun name simple => by simp [join, simple.not_isAbsolute, push], .inl rfl⟩
  by_cases slash : endsInSlash path = true
  · obtain ⟨above, split⟩ := List.getLast?_eq_some_iff.mp (by simpa [endsInSlash] using slash)
    refine ⟨path, fun name simple => by simp [join, simple.not_isAbsolute, push, slash], .inr ?_⟩
    exact ⟨String.ofList above, by rw [← String.toList_inj]; simp [split]⟩
  · refine ⟨path ++ "/", fun name simple => ?_, .inr ⟨path, rfl⟩⟩
    simp [join, simple.not_isAbsolute, push, slash, empty]

theorem endsIn_join (directory : String) {name : String} (simple : IsSimpleName name) :
    EndsIn (join directory name) name := by
  obtain ⟨front, joins, ends⟩ := join_front directory
  exact ⟨front, joins name simple, ends⟩

variable {path name : String}

theorem EndsIn.pieces (ends : EndsIn path name) (simple : IsSimpleName name) :
    (Path.pieces path).getLast? = some name := by
  obtain ⟨front, rfl, rfl | ⟨above, rfl⟩⟩ := ends
  · simp [simple.pieces]
  · simp [pieces_slash, simple.pieces]

theorem EndsIn.not_endsInSlash (ends : EndsIn path name) (simple : IsSimpleName name) :
    endsInSlash path = false := by
  obtain ⟨front, rfl, -⟩ := ends
  rw [endsInSlash, decide_eq_false_iff_not]
  intro slash
  have nonempty : name.toList ≠ [] := by
    have := simple.proper
    simp_all
  rw [String.toList_append, List.getLast?_append_of_ne_nil _ nonempty] at slash
  exact simple.noSlash (List.mem_of_getLast? slash)

theorem EndsIn.not_isEmpty (ends : EndsIn path name) (simple : IsSimpleName name) :
    path.isEmpty = false := by
  obtain ⟨front, rfl, -⟩ := ends
  have := simple.proper
  simp_all

theorem EndsIn.join (ends : EndsIn path name) (simple : IsSimpleName name) {more : String}
    (moreSimple : IsSimpleName more) : Path.join path more = path ++ "/" ++ more := by
  rw [Path.join, moreSimple.not_isAbsolute, push, ends.not_isEmpty simple,
    ends.not_endsInSlash simple]
  rfl

theorem trimSlashes_eq_self (noSlash : endsInSlash path = false) : trimSlashes path = path := by
  rw [endsInSlash, decide_eq_false_iff_not] at noSlash
  have kept : path.toList.reverse.dropWhile (· = '/') = path.toList.reverse := by
    rcases List.eq_nil_or_concat' path.toList with empty | ⟨front, last, split⟩
    · simp [empty]
    · rw [split, List.getLast?_concat, Option.some.injEq] at noSlash
      simp [split, noSlash]
  rw [trimSlashes, kept, List.reverse_reverse, String.ofList_toList]

theorem mem_pieces_trimSlashes {path name : String} (member : name ∈ pieces (trimSlashes path)) :
    name ∈ pieces path := by
  -- the slashes that are cut off stand at the front of the reversed path
  have front (letters : List Char) (member : name ∈ (Text.pieces '/'
      (letters.dropWhile (· = '/')).reverse).map String.ofList) :
      name ∈ (Text.pieces '/' letters.reverse).map String.ofList := by
    induction letters with
    | nil => exact member
    | cons c letters ih =>
        rw [List.dropWhile_cons] at member
        split at member
        · next slash =>
            obtain rfl : c = '/' := by simpa using slash
            rw [List.reverse_cons, Text.pieces_append, List.map_append, List.mem_append]
            exact .inl (ih member)
        · exact member
  rw [pieces, trimSlashes, String.toList_ofList] at member
  have whole := front path.toList.reverse member
  rwa [List.reverse_reverse] at whole

theorem isAbsolute_append (nonempty : path.isEmpty = false) (more : String) :
    isAbsolute (path ++ more) = isAbsolute path := by
  have : path.toList ≠ [] := by simp_all
  simp [isAbsolute, List.head?_append_of_ne_nil _ this]

end Path
end CallScript
