import CallScript.Proofs.FollowedPath

/-!
# Trees that agree outside a region

Two trees agree outside a region if all other locations show the same nodes under the same numbers.
Each operation on a tree keeps what lies outside the locations that it is about, and so does a path
that leads past the region.

* `FileTree.AgreeOutside.put`, `.erase`, `.move`, `.update`: what each operation can change.
* `FileTree.LeadsPast.entryAt?`: a path that leads past a region names the same entry.
-/

namespace CallScript.FileTree

/-! ## Regions -/

def AgreeOutside (region : Location → Prop) (tree other : FileTree) : Prop :=
  ∀ place, ¬region place →
    other.get? place = tree.get? place ∧ other.number? place = tree.number? place

def Below (above place : Location) : Prop := above <+: place

variable {region wider : Location → Prop} {tree other last : FileTree}

theorem isPrefixOf_eq_false {above place : Location} (outside : ¬Below above place) :
    above.isPrefixOf place = false := by
  rwa [Bool.eq_false_iff, ne_eq, List.isPrefixOf_iff_prefix]

theorem not_below_dropLast {place : Location} (proper : place ≠ []) :
    ¬Below place place.dropLast := by
  intro below
  have shorter := below.length_le
  rw [List.length_dropLast] at shorter
  have := List.length_pos_iff.mpr proper
  omega

theorem ite_root (tree : FileTree) (place : Location) :
    (if place = [] then some root else tree.get? place) = tree.get? place := by
  rw [get?]
  split <;> rfl

namespace AgreeOutside

theorem refl (region : Location → Prop) (tree : FileTree) : AgreeOutside region tree tree :=
  fun _ _ => ⟨rfl, rfl⟩

theorem trans (first : AgreeOutside region tree other) (second : AgreeOutside region other last) :
    AgreeOutside region tree last := fun place outside =>
  ⟨(second place outside).1.trans (first place outside).1,
    (second place outside).2.trans (first place outside).2⟩

theorem mono (agree : AgreeOutside region tree other)
    (covers : ∀ place, region place → wider place) : AgreeOutside wider tree other :=
  fun place outside => agree place fun inside => outside (covers place inside)

theorem put (tree : FileTree) {place : Location} (node : Inode) (inside : region place) :
    AgreeOutside region tree (tree.put place node) := by
  intro other outside
  have differ : other ≠ place := fun same => outside (same ▸ inside)
  rw [get?_put, number?_put, if_neg differ, if_neg differ]
  exact ⟨ite_root tree other, rfl⟩

theorem erase (tree : FileTree) {place : Location}
    (inside : ∀ below, Below place below → region below) :
    AgreeOutside region tree (tree.erase place) := by
  intro other outside
  rw [get?_erase, number?_erase, isPrefixOf_eq_false fun below => outside (inside other below)]
  exact ⟨ite_root tree other, rfl⟩

theorem move (tree : FileTree) {source target : Location} (named : source ≠ [])
    (taken : ∀ below, Below source below → region below)
    (given : ∀ below, Below target below → region below) :
    AgreeOutside region tree (tree.move source target) := by
  intro other outside
  rw [get?_move tree target named, number?_move,
    isPrefixOf_eq_false fun below => outside (taken other below),
    isPrefixOf_eq_false fun below => outside (given other below)]
  exact ⟨ite_root tree other, rfl⟩

theorem update (tree : FileTree) {number : Nat} (change : Inode → Inode)
    (inside : ∀ place, tree.number? place = some number → region place) :
    AgreeOutside region tree (tree.update number change) := by
  intro other outside
  rw [get?_update, if_neg fun same => outside (inside other same.2)]
  exact ⟨rfl, rfl⟩

end AgreeOutside

theorem number?_eq_none {place : Location} (absent : tree.get? place = none) :
    tree.number? place = none := by
  cases found : tree.number? place with
  | none => rfl
  | some number =>
      rw [get?] at absent
      split at absent
      · cases absent
      · rw [found, Option.bind_some, List.getElem?_eq_none_iff] at absent
        exact absurd (number?_lt found) (Nat.not_lt.mpr absent)

theorem isSome_get?_of_mem {name : Location × Nat} (member : name ∈ tree.names) :
    (tree.get? name.1).isSome = true := by
  rw [Option.isSome_iff_ne_none]
  intro absent
  have noNumber := number?_eq_none absent
  rw [number?, List.lookup_eq_none_iff] at noNumber
  simpa using noNumber name member

theorem exists_mem_names {place : Location} {node : Inode} (found : tree.get? place = some node)
    (proper : place ≠ []) :
    ∃ number, (place, number) ∈ tree.names ∧ tree.nodes[number]? = some node := by
  rw [get?, if_neg proper] at found
  obtain ⟨number, numbered, isNode⟩ := Option.bind_eq_some_iff.mp found
  obtain ⟨front, back, split, -⟩ := List.lookup_eq_some_iff.mp numbered
  exact ⟨number, by simp [split], isNode⟩

theorem get?_put_self (tree : FileTree) {place : Location} (node : Inode) (proper : place ≠ []) :
    (tree.put place node).get? place = some node := by
  rw [get?_put, if_neg proper, if_pos rfl]

theorem get?_put_of_absent {place spot : Location} {node found : Inode}
    (absent : tree.get? spot = none) (present : tree.get? place = some found) :
    (tree.put spot node).get? place = some found := by
  have differ : place ≠ spot := by
    rintro rfl
    rw [absent] at present
    cases present
  have agree : AgreeOutside (· = spot) tree (tree.put spot node) := .put tree node rfl
  rw [(agree place differ).1, present]

theorem isTree_of_names
    (above : ∀ name ∈ tree.names, (tree.get? name.1.dropLast).any (·.isDirectory) = true) :
    tree.IsTree := by
  intro place name present
  obtain ⟨node, found⟩ := Option.isSome_iff_exists.mp present
  obtain ⟨number, member, -⟩ := exists_mem_names found (by simp)
  have holds := above (place ++ [name], number) member
  rw [List.dropLast_concat] at holds
  exact (Option.any_eq_true _ _).mp holds

/-! Nothing stands below what is no directory. -/

section

variable {place : Location} (isTree : tree.IsTree)
  (free : ∀ node, tree.get? place = some node → node.isDirectory = false)
include isTree free

theorem IsTree.absent_below_file {rest : Location} (more : rest ≠ []) :
    tree.get? (place ++ rest) = none := by
  by_contra present
  obtain ⟨node, found, isDirectory⟩ :=
    isTree.directory_above (Option.ne_none_iff_isSome.mp present) more
  rw [free node found] at isDirectory
  cases isDirectory

theorem IsTree.not_above_file {other : Location} (present : (tree.get? other).isSome = true)
    (differ : place ≠ other) : place.isPrefixOf other = false := by
  refine isPrefixOf_eq_false ?_
  rintro ⟨rest, rfl⟩
  rw [isTree.absent_below_file free fun whole => differ (by simp [whole])] at present
  cases present

theorem IsTree.hasChildren_eq_false : tree.hasChildren place = false := by
  by_contra children
  obtain ⟨name, member, below⟩ := List.any_eq_true.mp ((Bool.not_eq_false _).mp children)
  rw [Bool.and_eq_true, decide_eq_true_eq] at below
  rw [isTree.not_above_file free (isSome_get?_of_mem member) (Ne.symm below.2)] at below
  cases below.1

end

theorem IsTree.absent_below (isTree : tree.IsTree) {above below : Location}
    (absent : tree.get? above = none) (isBelow : Below above below) : tree.get? below = none := by
  obtain ⟨rest, rfl⟩ := isBelow
  by_cases whole : rest = []
  · rw [whole, List.append_nil, absent]
  · exact isTree.absent_below_file (fun node found => by simp [absent] at found) whole

/-! ## Where a path makes a name -/

variable {directory : Location} {path : String}

/-- The location at which a path makes a name, where there is one. -/
def named? (tree : FileTree) (directory : Location) (path : String) : Option Location :=
  (pathOf path).toOption.bind fun octets => (tree.resolveNew directory octets).toOption

/-- The node that a path names; a link is not followed. -/
def entryAt? (tree : FileTree) (directory : Location) (path : String) : Option Inode :=
  (tree.named? directory path).bind tree.get?

/-- The way of a path, and its end, lie outside a region. -/
structure LeadsPast (tree : FileTree) (directory : Location) (path : String)
    (region : Location → Prop) : Prop where
  way : ∀ other, AgreeOutside region tree other →
    other.named? directory path = tree.named? directory path
  ends : ∀ place, tree.named? directory path = some place → ¬region place

theorem LeadsPast.entryAt? (past : tree.LeadsPast directory path region)
    (agree : AgreeOutside region tree other) :
    other.entryAt? directory path = tree.entryAt? directory path := by
  rw [FileTree.entryAt?, FileTree.entryAt?, past.way other agree]
  cases found : tree.named? directory path with
  | none => rfl
  | some place => exact (agree place (past.ends place found)).1

end CallScript.FileTree
