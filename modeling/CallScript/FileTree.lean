import CallScript.FileTree.Inode
import CallScript.Text.Lossy

/-!
# File trees

A file tree maps locations, which are lists of names from the root, to the numbers of its nodes. Two
names with the same number are names of one file. The view of a tree is `get?`; a node without a
name is no longer seen, but whoever has it open can still read it and write to it.

The main statements say what each operation does to the view: `get?_put`, `get?_erase`, `get?_move`,
`get?_update`.
-/

namespace CallScript

/-- The names from the root of the tree to a node. Names are octet texts. -/
abbrev Location := List String

def Location.path (place : Location) : String := "/" ++ "/".intercalate place

/-- The path as it is shown. -/
def Location.text (place : Location) : String := Octets.shown place.path

structure FileTree where
  names : List (Location × Nat)
  nodes : List Inode
  /-- The time, in nanoseconds. -/
  now : Nat
  sound : ∀ name ∈ names, name.2 < nodes.length

namespace FileTree

def empty : FileTree := ⟨[], [], 0, nofun⟩

def root : Inode := ⟨.directory, 0o755, false, 0⟩

def number? (tree : FileTree) (place : Location) : Option Nat := tree.names.lookup place

def get? (tree : FileTree) (place : Location) : Option Inode :=
  if place = [] then some root else (tree.number? place).bind fun number => tree.nodes[number]?

def put (tree : FileTree) (place : Location) (node : Inode) : FileTree where
  names := (place, tree.nodes.length) :: tree.names.filter fun other => other.1 ≠ place
  nodes := tree.nodes ++ [node]
  now := tree.now
  sound := by
    intro name member
    rw [List.length_append, List.length_singleton]
    rcases List.mem_cons.mp member with rfl | kept
    · exact Nat.lt_succ_self _
    · exact Nat.lt_succ_of_lt (tree.sound name (List.mem_filter.mp kept).1)

def link (tree : FileTree) (place : Location) (number : Nat) : FileTree :=
  if bound : number < tree.nodes.length then
    { tree with
      names := (place, number) :: tree.names.filter fun other => other.1 ≠ place
      sound := by
        intro name member
        rcases List.mem_cons.mp member with rfl | kept
        · exact bound
        · exact tree.sound name (List.mem_filter.mp kept).1 }
  else tree

def erase (tree : FileTree) (place : Location) : FileTree where
  names := tree.names.filter fun other => !place.isPrefixOf other.1
  nodes := tree.nodes
  now := tree.now
  sound name member := tree.sound name (List.mem_filter.mp member).1

/-- The names at a location and below it as they are called when they are moved. -/
def movedNames (tree : FileTree) (source target : Location) : List (Location × Nat) :=
  (tree.names.filter fun other => source.isPrefixOf other.1).map
    fun other => (target ++ other.1.drop source.length, other.2)

/-- Moves the node at a location and all below it, in place of what was at the new location. -/
def move (tree : FileTree) (source target : Location) : FileTree where
  names := tree.movedNames source target ++ ((tree.erase target).erase source).names
  nodes := tree.nodes
  now := tree.now
  sound := by
    intro name member
    rcases List.mem_append.mp member with moved | kept
    · obtain ⟨other, from_source, rfl⟩ := List.mem_map.mp moved
      exact tree.sound other (List.mem_filter.mp from_source).1
    · exact ((tree.erase target).erase source).sound name kept

def update (tree : FileTree) (number : Nat) (change : Inode → Inode) : FileTree where
  names := tree.names
  nodes := tree.nodes.modify number change
  now := tree.now
  sound := by simpa only [List.length_modify] using tree.sound

theorem number?_lt {tree : FileTree} {place : Location} {number : Nat}
    (found : tree.number? place = some number) : number < tree.nodes.length := by
  obtain ⟨front, back, split, _⟩ := List.lookup_eq_some_iff.mp found
  exact tree.sound (place, number) (split ▸ by simp)

theorem lookup_filter {α : Type} (entries : List (Location × α)) (keep : Location → Bool)
    (place : Location) :
    (entries.filter fun other => keep other.1).lookup place =
      if keep place then entries.lookup place else none := by
  induction entries with
  | nil => simp
  | cons head tail ih =>
      obtain ⟨key, entry⟩ := head
      rw [List.filter_cons]
      cases same : place == key with
      | true =>
          obtain rfl := eq_of_beq same
          cases kept : keep place with
          | true => simp
          | false => simpa only [kept, Bool.false_eq_true, ↓reduceIte] using ih
      | false =>
          cases kept : keep key <;> simp only [List.lookup_cons, same, ih, ↓reduceIte, reduceCtorEq]

theorem number?_put (tree : FileTree) (place other : Location) (node : Inode) :
    (tree.put place node).number? other =
      if other = place then some tree.nodes.length else tree.number? other := by
  unfold number? put
  rw [List.lookup_cons, lookup_filter tree.names fun key => key ≠ place]
  cases same : other == place with
  | true => simp [eq_of_beq same]
  | false => simp [ne_of_beq_false same]

theorem get?_put (tree : FileTree) (place other : Location) (node : Inode) :
    (tree.put place node).get? other =
      if other = [] then some root
      else if other = place then some node
      else tree.get? other := by
  unfold get?
  rw [number?_put]
  split
  · rfl
  · split
    · simp [put]
    · cases found : tree.number? other with
      | none => rfl
      | some number => simp [put, List.getElem?_append_left (number?_lt found)]

theorem number?_erase (tree : FileTree) (place other : Location) :
    (tree.erase place).number? other =
      if place.isPrefixOf other then none else tree.number? other := by
  unfold number? erase
  rw [lookup_filter tree.names (fun key => !place.isPrefixOf key)]
  by_cases below : place.isPrefixOf other <;> simp [below]

theorem get?_erase (tree : FileTree) (place other : Location) :
    (tree.erase place).get? other =
      if other = [] then some root
      else if place.isPrefixOf other then none
      else tree.get? other := by
  unfold get?
  rw [number?_erase]
  split
  · rfl
  · split <;> rfl

theorem isPrefixOf_append_self (front back : Location) : front.isPrefixOf (front ++ back) = true :=
  List.isPrefixOf_iff_prefix.mpr (List.prefix_append front back)

theorem lookup_moved {α : Type} (entries : List (Location × α))
    (source target place : Location) :
    ((entries.filter fun other => source.isPrefixOf other.1).map
      fun other => (target ++ other.1.drop source.length, other.2)).lookup place =
      if target.isPrefixOf place then entries.lookup (source ++ place.drop target.length)
      else none := by
  -- on the entries; what is looked up under a new name is found under the old one
  induction entries with
  | nil => simp
  | cons head tail ih =>
      obtain ⟨key, entry⟩ := head
      rw [List.filter_cons, List.lookup_cons]
      cases below : source.isPrefixOf key with
      | false =>
          have differ : (source ++ place.drop target.length == key) = false := by
            rw [beq_eq_false_iff_ne]
            rintro rfl
            rw [isPrefixOf_append_self] at below
            cases below
          simpa only [below, differ, Bool.false_eq_true, ↓reduceIte] using ih
      | true =>
          obtain ⟨rest, rfl⟩ := List.isPrefixOf_iff_prefix.mp below
          simp only [↓reduceIte, List.map_cons, List.drop_left, List.lookup_cons, ih]
          cases under : target.isPrefixOf place with
          | false =>
              have differ : (place == target ++ rest) = false := by
                rw [beq_eq_false_iff_ne]
                rintro rfl
                rw [isPrefixOf_append_self] at under
                cases under
              simp [differ]
          | true =>
              obtain ⟨behind, rfl⟩ := List.isPrefixOf_iff_prefix.mp under
              by_cases same : behind = rest
              · simp [same]
              · have first : (target ++ behind == target ++ rest) = false := by simpa using same
                have second : (source ++ behind == source ++ rest) = false := by simpa using same
                simp [first, second]

theorem number?_move (tree : FileTree) (source target other : Location) :
    (tree.move source target).number? other =
      if target.isPrefixOf other then tree.number? (source ++ other.drop target.length)
      else if source.isPrefixOf other then none
      else tree.number? other := by
  have rest := number?_erase (tree.erase target) source other
  have inner := number?_erase tree target other
  unfold number? at rest inner ⊢
  rw [move, List.lookup_append, movedNames, lookup_moved, rest, inner]
  cases under : target.isPrefixOf other <;> simp

theorem get?_move (tree : FileTree) {source other : Location} (target : Location)
    (named : source ≠ []) :
    (tree.move source target).get? other =
      if other = [] then some root
      else if target.isPrefixOf other then tree.get? (source ++ other.drop target.length)
      else if source.isPrefixOf other then none
      else tree.get? other := by
  have origin : source ++ other.drop target.length ≠ [] := by simp [named]
  simp only [get?, number?_move, origin, ↓reduceIte]
  split
  · rfl
  · split
    · rfl
    · split <;> rfl

theorem number?_move_self (tree : FileTree) (source target : Location) :
    (tree.move source target).number? target = tree.number? source := by
  have self : target.isPrefixOf target = true :=
    List.isPrefixOf_iff_prefix.mpr (List.prefix_refl target)
  rw [number?_move, if_pos self, List.drop_length, List.append_nil]

theorem get?_move_self (tree : FileTree) {source target : Location} (named : source ≠ [])
    (proper : target ≠ []) : (tree.move source target).get? target = tree.get? source := by
  rw [get?, get?, if_neg proper, if_neg named, number?_move_self]
  rfl

theorem get?_update (tree : FileTree) (number : Nat) (change : Inode → Inode) (place : Location) :
    (tree.update number change).get? place =
      if place ≠ [] ∧ tree.number? place = some number then (tree.get? place).map change
      else tree.get? place := by
  unfold get?
  by_cases top : place = []
  · simp [top]
  · have same : (tree.update number change).number? place = tree.number? place := rfl
    rw [same]
    cases found : tree.number? place with
    | none => simp [top]
    | some other =>
        by_cases equal : number = other
        · simp [top, equal, update, List.getElem?_modify]
        · simp [top, equal, Ne.symm equal, update, List.getElem?_modify]

/-! ## Looking around -/

/-- The names right below a location, in order, each with the node that it stands for. -/
def children (tree : FileTree) (place : Location) : List (String × Inode) :=
  let here := tree.names.filterMap fun other =>
    if place.isPrefixOf other.1 && other.1.length = place.length + 1 then
      other.1.getLast?.bind fun name => tree.nodes[other.2]?.map fun node => (name, node)
    else none
  here.mergeSort fun a b => a.1 ≤ b.1

def hasChildren (tree : FileTree) (place : Location) : Bool :=
  tree.names.any fun other => place.isPrefixOf other.1 && other.1 ≠ place

/-- The nodes below a location, by the path that leads there, in the order of the paths. -/
def listing (tree : FileTree) (place : Location) : List (String × Inode) :=
  let below := tree.names.filterMap fun other =>
    if place.isPrefixOf other.1 && other.1 ≠ place then
      tree.nodes[other.2]?.map fun node => ("/".intercalate (other.1.drop place.length), node)
    else none
  below.mergeSort fun a b => a.1 ≤ b.1

def node? (tree : FileTree) (number : Nat) : Option Inode := tree.nodes[number]?

def nameCount (tree : FileTree) (number : Nat) : Nat :=
  tree.names.countP fun other => other.2 = number

def place? (tree : FileTree) (number : Nat) : Option Location :=
  (tree.names.find? fun other => other.2 = number).map (·.1)

def passTime (tree : FileTree) (nanoseconds : Nat) : FileTree :=
  { tree with now := tree.now + nanoseconds }

def place (tree : FileTree) (place : Location) (node : Inode) : FileTree :=
  let parents := (List.range place.length).map place.take
  let grown := parents.foldl
    (fun tree parent =>
      if (tree.get? parent).isSome then tree
      else tree.put parent { node with entry := .directory, mode := 0o755 }) tree
  grown.put place node

end FileTree
end CallScript
