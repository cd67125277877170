import CallScript.Compiler
import CallScript.Proofs.MovedFile

/-!
# Temporary directories

A temporary directory is made at a path that ends in a new name, a file is written into it, and in
the end it is taken away by its path. All of this happens at the location that the path led to at
first and below it.

* `BuildDirectory.make_eq_ok`: where a temporary directory is made.
* `BuildDirectory.Holds.writeText`: a file that is written into a new directory stands in it.
* `BuildDirectory.remove_agree`, `BuildDirectory.CanRemove.remove`: what taking it away does.
-/

namespace CallScript

open Refusal

/-! ## Paths that end in a name -/

namespace FileTree

variable {tree other after : FileTree} {directory place found : Location}
  {path name more octets : String}

theorem resolveNew_of_endsIn (simple : Path.IsSimpleName name) (ends : Path.EndsIn path name)
    (octetPath : pathOf path = .ok octets) :
    tree.resolveNew directory octets = tree.resolve directory octets false := by
  rw [← pathOf_eq_ok octetPath]
  exact resolveNew_eq_resolve (ends.not_endsInSlash simple)

theorem named?_of_endsIn (simple : Path.IsSimpleName name) (ends : Path.EndsIn path name) :
    tree.named? directory path = some place ↔
      ∃ octets, pathOf path = .ok octets ∧ tree.resolve directory octets false = .ok place := by
  rw [named?_eq_some]
  refine exists_congr fun octets => and_congr_right fun octetPath => ?_
  rw [resolveNew_of_endsIn simple ends octetPath]

theorem last_of_endsIn (simple : Path.IsSimpleName name) (ends : Path.EndsIn path name)
    (named : tree.named? directory path = some place) : ∃ above, place = above ++ [name] := by
  obtain ⟨octets, octetPath, resolved⟩ := (named?_of_endsIn simple ends).mp named
  obtain ⟨-, -, leads⟩ := resolve_eq_ok_iff.mp resolved
  refine leads.last_name ?_ simple.proper
  rw [← pathOf_eq_ok octetPath]
  exact ends.pieces simple

theorem named?_grow (simple : Path.IsSimpleName name) (ends : Path.EndsIn path name)
    (named : tree.named? directory path = some place)
    (grows : ∀ place node, tree.get? place = some node → other.get? place = some node) :
    other.named? directory path = some place := by
  obtain ⟨octets, octetPath, resolved⟩ := (named?_of_endsIn simple ends).mp named
  obtain ⟨nonempty, short, leads⟩ := resolve_eq_ok_iff.mp resolved
  exact (named?_of_endsIn simple ends).mpr
    ⟨octets, octetPath, resolve_eq_ok_iff.mpr ⟨nonempty, short, leads.grow grows⟩⟩

theorem leads_join {follows : Bool} {last : String} (simple : Path.IsSimpleName name)
    (ends : Path.EndsIn path name) (moreSimple : Path.IsSimpleName more)
    (lastPath : pathOf (Path.join path more) = .ok last)
    (resolved : tree.resolve directory last follows = .ok found) :
    path.length < pathLimit ∧
      Leads tree follows linkLimit (startOf directory path)
        (Path.pieces path ++ [more]) found := by
  obtain ⟨-, short, leads⟩ := resolve_eq_ok_iff.mp resolved
  have nonempty := ends.not_isEmpty simple
  rw [← pathOf_eq_ok lastPath, ends.join simple moreSimple] at short leads
  rw [Path.pieces_slash, moreSimple.pieces, startOf, String.append_assoc,
    Path.isAbsolute_append nonempty] at leads
  refine ⟨?_, leads⟩
  rw [String.length_append, String.length_append] at short
  omega

theorem leads_in {follows : Bool} (named : tree.named? directory path = some place)
    (simple : Path.IsSimpleName name) (ends : Path.EndsIn path name)
    (enters : tree.Enters place more) (isName : IsEntryName more)
    (stops : tree.linkAt? (place ++ [more]) = none ∨ follows = false) :
    Leads tree follows linkLimit (startOf directory path)
      (Path.pieces path ++ [more]) (place ++ [more]) := by
  obtain ⟨octets, octetPath, resolvedPath⟩ := (named?_of_endsIn simple ends).mp named
  obtain rfl := pathOf_eq_ok octetPath
  obtain ⟨-, -, leads⟩ := resolve_eq_ok_iff.mp resolvedPath
  have noLink : tree.linkAt? place = none := by
    obtain ⟨node, present, isDirectory, -⟩ := enters
    exact linkAt?_of_isDirectory present isDirectory
  have behind (links : Nat) : Leads tree follows links place [more] (place ++ [more]) := by
    cases link : tree.linkAt? (place ++ [more]) with
    | none => exact .down enters isName link (.arrived links _)
    | some target => exact .lastLink enters isName link (stops.resolve_left (by simp [link]))
  exact leads.append noLink (by simp) behind

theorem resolve_join {follows : Bool} {last : String} (simple : Path.IsSimpleName name)
    (ends : Path.EndsIn path name) (named : tree.named? directory path = some place)
    (enters : tree.Enters place more) (moreSimple : Path.IsSimpleName more)
    (short : more.length ≤ nameLimit)
    (stops : tree.linkAt? (place ++ [more]) = none ∨ follows = false)
    (lastPath : pathOf (Path.join path more) = .ok last)
    (resolved : tree.resolve directory last follows = .ok found) : found = place ++ [more] := by
  obtain ⟨-, leadsOn⟩ := leads_join simple ends moreSimple lastPath resolved
  have expected := leads_in named simple ends enters ⟨moreSimple.proper, short⟩ stops
  have same := (walk_of_leads leadsOn).symm.trans (walk_of_leads expected)
  exact Except.ok.inj same

theorem resolve_join_of_short {follows : Bool} (simple : Path.IsSimpleName name)
    (ends : Path.EndsIn path name) (named : tree.named? directory path = some place)
    (enters : tree.Enters place more) (moreSimple : Path.IsSimpleName more)
    (isName : IsEntryName more)
    (stops : tree.linkAt? (place ++ [more]) = none ∨ follows = false)
    (short : (Path.join path more).length < pathLimit) :
    tree.resolve directory (Path.join path more) follows =
      .ok (place ++ [more]) := by
  have nonempty := ends.not_isEmpty simple
  have leads := leads_in named simple ends enters isName stops
  have ends' := Path.endsIn_join path moreSimple
  refine resolve_eq_ok_iff.mpr ⟨ends'.not_isEmpty moreSimple, short, ?_⟩
  rw [ends.join simple moreSimple, Path.pieces_slash, moreSimple.pieces, startOf,
    String.append_assoc, Path.isAbsolute_append nonempty]
  exact leads

theorem entryAt?_of_join (simple : Path.IsSimpleName name) (ends : Path.EndsIn path name)
    (moreSimple : Path.IsSimpleName more)
    (named : tree.named? directory (Path.join path more) = some found) :
    (tree.entryAt? directory path).isSome = true := by
  obtain ⟨last, lastPath, resolved⟩ :=
    (named?_of_endsIn moreSimple (Path.endsIn_join path moreSimple)).mp named
  obtain ⟨short, leads⟩ := leads_join simple ends moreSimple lastPath resolved
  obtain ⟨above, unfollowed, present⟩ := leads.present_above
  have nonempty := ends.not_isEmpty simple
  have octetPath : pathOf path = .ok path := by
    rw [pathOf, ends.join simple moreSimple] at lastPath
    rw [pathOf]
    split at lastPath
    · cases lastPath
    · next noNul => rw [if_neg (by simp_all)]
  have namedAbove : tree.named? directory path = some above :=
    (named?_of_endsIn simple ends).mpr
      ⟨_, octetPath, resolve_eq_ok_iff.mpr ⟨nonempty, short, unfollowed⟩⟩
  rw [entryAt?, namedAbove, Option.bind_some, present]

/-! ## What can be taken away -/

/-- The directories at a location and below it allow everything. -/
def IsFree (tree : FileTree) (place : Location) : Prop :=
  ∀ name ∈ tree.names, Below place name.1 → ∀ node, tree.nodes[name.2]? = some node →
    node.isDirectory = true → ∀ access, node.allows access = true

theorem isRemovable_iff :
    tree.isRemovable place = true ↔ tree.isChangeable place = true ∧ tree.IsFree place := by
  have rights (node : Inode) : [Access.read, .write, .execute].all node.allows = true ↔
      ∀ access, node.allows access = true := by
    refine ⟨fun all access => ?_, fun all => by simp [all]⟩
    simp only [List.all_cons, List.all_nil, Bool.and_true, Bool.and_eq_true] at all
    cases access
    · exact all.1
    · exact all.2.1
    · exact all.2.2
  rw [isRemovable, Bool.and_eq_true, IsFree, List.all_eq_true]
  refine and_congr_right fun _ => forall₂_congr fun name _ => ?_
  simp only [Bool.or_eq_true, Bool.not_eq_true', Option.all_eq_true, rights,
    ← Bool.not_eq_true, List.isPrefixOf_iff_prefix, Below, ← imp_iff_not_or]

theorem isFree_of_absent (absent : ∀ below, Below place below → tree.get? below = none) :
    tree.IsFree place := by
  intro name member below
  have present := isSome_get?_of_mem member
  rw [absent name.1 below] at present
  cases present

theorem IsFree.put (free : tree.IsFree place) (spot : Location) {node : Inode}
    (allowed : node.isDirectory = true → ∀ access, node.allows access = true) :
    (tree.put spot node).IsFree place := by
  intro name member below other found isDirectory
  rcases List.mem_cons.mp member with rfl | kept
  · obtain rfl : node = other := by simpa [FileTree.put] using found
    exact allowed isDirectory
  · have old := (List.mem_filter.mp kept).1
    rw [FileTree.put, List.getElem?_append_left (tree.sound name old)] at found
    exact free name old below other found isDirectory

theorem IsFree.allows {node : Inode} (free : tree.IsFree place) (proper : place ≠ [])
    (present : tree.get? place = some node) (isDirectory : node.isDirectory = true)
    (access : Access) : node.allows access = true := by
  obtain ⟨number, member, found⟩ := exists_mem_names present proper
  exact free _ member (List.prefix_refl place) node found isDirectory access

theorem AgreeOutside.isChangeable (agree : AgreeOutside (Below place) tree other)
    (proper : place ≠ []) : other.isChangeable place = tree.isChangeable place := by
  rw [FileTree.isChangeable, FileTree.isChangeable, (agree _ (not_below_dropLast proper)).1]

end FileTree

/-! ## Making, filling and taking away -/

namespace BuildDirectory

open FileTree

variable {host : Host} {directory : BuildDirectory} {tree made written : FileTree}
  {place : Location} {path name : String}

theorem make_eq_ok (h : make host path tree = .ok (directory, made)) :
    directory = ⟨path⟩ ∧ ∃ place, tree.named? host.directory path = some place ∧
      tree.get? place = none ∧ tree.isChangeable place = true ∧
      made = tree.put place (tree.newNode .directory mode) := by
  rw [make, mapError_eq_ok] at h
  obtain ⟨octets, octetPath, h⟩ := bind_eq_ok.mp h
  obtain ⟨grown, madeHere, h⟩ := bind_eq_ok.mp h
  rw [mapError_eq_ok, makeDirectory] at madeHere
  simp -zeta -zetaHave only [throw_ite] at madeHere
  obtain ⟨place, resolved, h'⟩ := bind_eq_ok.mp madeHere
  simp only [ite_error_eq_ok] at h'
  obtain ⟨absent, h'⟩ := h'
  obtain ⟨_, changeable, h'⟩ := bind_eq_ok.mp h'
  cases h
  cases h'
  refine ⟨rfl, place, named?_eq_some.mpr ⟨octets, octetPath, resolved⟩, by simpa using absent, ?_,
    rfl⟩
  rw [checkChangeable] at changeable
  split at changeable
  · assumption
  · cases changeable

/-- What a new directory and a file in it leave free to be taken away again. -/
structure Holds (host : Host) (path : String) (tree : FileTree) (place : Location) : Prop where
  named : tree.named? host.directory path = some place
  stands : ∃ node, tree.get? place = some node ∧ node.isDirectory = true ∧
    ∀ access, node.allows access = true
  changeable : tree.isChangeable place = true
  free : tree.IsFree place

section

variable (holds : Holds host path tree place) (file : String)
include holds

theorem Holds.enters : tree.Enters place file := by
  obtain ⟨node, present, isDirectory, rights⟩ := holds.stands
  exact ⟨node, present, isDirectory, fun _ => rights .execute⟩

theorem Holds.isChangeable_entry : tree.isChangeable (place ++ [file]) = true := by
  obtain ⟨node, present, -, rights⟩ := holds.stands
  rw [isChangeable, List.dropLast_concat, present]
  simp [rights]

end

theorem Holds.resolve_entry {file : String} {follows : Bool}
    (holds : Holds host path tree place) (simple : Path.IsSimpleName name)
    (ends : Path.EndsIn path name) (fileSimple : Path.IsSimpleName file)
    (isName : IsEntryName file)
    (stops : tree.linkAt? (place ++ [file]) = none ∨ follows = false)
    (short : (Path.join path file).length < pathLimit) :
    tree.resolve host.directory (Path.join path file) follows =
      .ok (place ++ [file]) :=
  resolve_join_of_short simple ends holds.named (holds.enters file) fileSimple isName stops short

theorem newNode_allows (tree : FileTree) (access : Access) :
    (tree.newNode .directory mode).allows access = true := by
  have rights : (tree.newNode .directory mode).rights = 7 := by simp [Inode.rights, newNode, mode]
  rw [Inode.allows, rights]
  cases access <;> decide

theorem holds_put (simple : Path.IsSimpleName name) (ends : Path.EndsIn path name)
    (fresh : ∀ below, Below place below → tree.get? below = none)
    (named : tree.named? host.directory path = some place)
    (changeable : tree.isChangeable place = true) :
    Holds host path (tree.put place (tree.newNode .directory mode)) place := by
  obtain ⟨above, split⟩ := last_of_endsIn simple ends named
  have proper : place ≠ [] := by simp [split]
  have agree : AgreeOutside (Below place) tree (tree.put place (tree.newNode .directory mode)) :=
    .put tree _ ⟨[], by simp⟩
  exact {
    named := named?_grow simple ends named fun _ _ => get?_put_of_absent (fresh place ⟨[], by simp⟩)
    stands := ⟨_, get?_put_self tree _ proper, rfl, newNode_allows tree⟩
    changeable := by rw [agree.isChangeable proper, changeable]
    free := (isFree_of_absent fresh).put place fun _ => newNode_allows tree }

theorem Holds.put (holds : Holds host path tree place) (simple : Path.IsSimpleName name)
    (ends : Path.EndsIn path name) {file : String} {node : Inode}
    (isFile : node.isDirectory = false)
    (absent : tree.get? (place ++ [file]) = none) :
    Holds host path (tree.put (place ++ [file]) node) place := by
  obtain ⟨above, split⟩ := last_of_endsIn simple ends holds.named
  obtain ⟨found, present, rights⟩ := holds.stands
  have agree : AgreeOutside (Below place) tree (tree.put (place ++ [file]) node) :=
    .put tree node ⟨[file], rfl⟩
  exact {
    named := named?_grow simple ends holds.named fun _ _ => get?_put_of_absent absent
    stands := ⟨found, get?_put_of_absent absent present, rights⟩
    changeable := by rw [agree.isChangeable (by simp [split]), holds.changeable]
    free := holds.free.put _ (by simp [isFile]) }

theorem Holds.writeText_eq (holds : Holds host path tree place) (simple : Path.IsSimpleName name)
    (ends : Path.EndsIn path name) {file text : String} (fileSimple : Path.IsSimpleName file)
    (short : file.length ≤ nameLimit) (absent : tree.get? (place ++ [file]) = none)
    (h : tree.writeText host.directory (Path.join path file) text = .ok written) :
    written = tree.put (place ++ [file])
      (tree.newNode (.file text.toUTF8) (masked fileMode standardMask)) := by
  rw [FileTree.writeText] at h
  obtain ⟨octets, octetPath, h⟩ := bind_eq_ok.mp h
  rw [mapError_eq_ok, writeBytes] at h
  obtain ⟨found, resolved, h⟩ := bind_eq_ok.mp h
  obtain ⟨-, followed, -⟩ := resolveFile_eq_ok resolved
  obtain rfl := resolve_join simple ends holds.named (holds.enters file) fileSimple short
    (.inl (linkAt?_of_absent absent)) octetPath followed
  cases h
  rw [overwrite, number?_eq_none absent]

theorem Holds.writeText (holds : Holds host path tree place) (simple : Path.IsSimpleName name)
    (ends : Path.EndsIn path name) {file text : String} (fileSimple : Path.IsSimpleName file)
    (short : file.length ≤ nameLimit) (absent : tree.get? (place ++ [file]) = none)
    (h : tree.writeText host.directory (Path.join path file) text = .ok written) :
    ∃ node, node.isDirectory = false ∧ written = tree.put (place ++ [file]) node :=
  ⟨_, rfl, holds.writeText_eq simple ends fileSimple short absent h⟩

theorem contentOf_written (tree : FileTree) (content : ByteArray) :
    contentOf (tree.newNode (.file content) (masked fileMode standardMask)) = .ok content := by
  have mode : masked fileMode standardMask = 0o644 := by decide
  have rights : (tree.newNode (.file content) 0o644).rights = 6 := by
    simp [Inode.rights, newNode]
  have readable : (tree.newNode (.file content) 0o644).allows .read = true := by
    rw [Inode.allows, rights]
    decide
  rw [contentOf, mode, readable]
  rfl

theorem Holds.readText (holds : Holds host path tree place) (simple : Path.IsSimpleName name)
    (ends : Path.EndsIn path name) {file text : String} (fileSimple : Path.IsSimpleName file)
    (isName : IsEntryName file) (absent : tree.get? (place ++ [file]) = none)
    (h : tree.writeText host.directory (Path.join path file) text = .ok written) :
    written.readText host.directory (Path.join path file) = .ok text := by
  obtain rfl := holds.writeText_eq simple ends fileSimple isName.2 absent h
  rw [FileTree.writeText] at h
  obtain ⟨octets, octetPath, h⟩ := bind_eq_ok.mp h
  rw [mapError_eq_ok, writeBytes] at h
  obtain ⟨found, resolved, -⟩ := bind_eq_ok.mp h
  obtain rfl := pathOf_eq_ok octetPath
  obtain ⟨-, short, -⟩ := resolve_eq_ok_iff.mp (resolveFile_eq_ok resolved).2.1
  let node := tree.newNode (.file text.toUTF8) (masked fileMode standardMask)
  have filled : Holds host path (tree.put (place ++ [file]) node) place :=
    holds.put simple ends rfl absent
  have stored : (tree.put (place ++ [file]) node).get? (place ++ [file]) = some node :=
    get?_put_self tree node (by simp)
  have noLink : (tree.put (place ++ [file]) node).linkAt? (place ++ [file]) = none := by
    rw [linkAt?, stored]
    rfl
  have reached : (tree.put (place ++ [file]) node).resolve host.directory
      (Path.join path file) true = .ok (place ++ [file]) :=
    filled.resolve_entry simple ends fileSimple isName (.inl noLink) short
  have bytes : (tree.put (place ++ [file]) node).readBytes host.directory
      (Path.join path file) = .ok text.toUTF8 :=
    bind_eq_ok.mpr ⟨_, bind_eq_ok.mpr ⟨_, reached, at?_eq_ok.mpr ⟨rfl, stored⟩⟩,
      contentOf_written tree text.toUTF8⟩
  refine bind_eq_ok.mpr ⟨_, octetPath, bind_eq_ok.mpr ⟨_, mapError_eq_ok.mpr bytes, ?_⟩⟩
  rw [Octets.fromUTF8?_toUTF8]
  rfl

/-! ## Taking away -/

theorem findNamed_eq_ok {octets : String} {node : Inode} :
    tree.findNamed host.directory octets = .ok (place, node) ↔
      tree.resolve host.directory octets false = .ok place ∧ tree.get? place = some node := by
  rw [findNamed, bind_eq_ok]
  constructor
  · rintro ⟨found, resolved, isAt⟩
    obtain ⟨rfl, present⟩ := at?_eq_ok.mp isAt
    exact ⟨resolved, present⟩
  · rintro ⟨resolved, present⟩
    exact ⟨place, resolved, at?_eq_ok.mpr ⟨rfl, present⟩⟩

theorem remove_eq (simple : Path.IsSimpleName name) (ends : Path.EndsIn directory.path name) :
    directory.remove host tree = tree ∨ ∃ place node,
      tree.named? host.directory directory.path = some place ∧ tree.get? place = some node ∧
      directory.remove host tree = tree.erase place := by
  rw [remove]
  cases octetPath : pathOf directory.path with
  | error cause => exact .inl rfl
  | ok octets =>
      dsimp only
      rw [removeAll]
      cases found : tree.findNamed host.directory octets with
      | error cause => exact .inl rfl
      | ok found =>
          obtain ⟨resolved, present⟩ := findNamed_eq_ok.mp found
          dsimp only
          split
          · exact .inr ⟨_, _, (named?_of_endsIn simple ends).mpr ⟨octets, octetPath, resolved⟩,
              present, rfl⟩
          · exact .inl rfl

/-- Taking a directory away changes nothing that does not lie below a directory of its name. -/
theorem remove_agree (simple : Path.IsSimpleName name) (ends : Path.EndsIn directory.path name) :
    AgreeOutside (name ∈ ·) tree (directory.remove host tree) := by
  obtain kept | ⟨place, _, named, -, erased⟩ := remove_eq simple ends
  · rw [kept]
    exact .refl _ tree
  · rw [erased]
    obtain ⟨above, rfl⟩ := last_of_endsIn simple ends named
    refine .erase tree fun below isBelow => ?_
    exact isBelow.subset (by simp)

/-- The directory can be taken away with all that is in it, or nothing is left of it. -/
def CanRemove (host : Host) (directory : BuildDirectory) (tree : FileTree) (place : Location) :
    Prop :=
  tree.named? host.directory directory.path = some place ∧
      (∃ node, tree.get? place = some node ∧ node.isDirectory = true) ∧
      tree.isRemovable place = true ∨
    tree.entryAt? host.directory directory.path = none ∧
      ∀ below, Below place below → tree.get? below = none

theorem Holds.canRemove (holds : Holds host directory.path tree place) :
    CanRemove host directory tree place := by
  obtain ⟨node, present, isDirectory, -⟩ := holds.stands
  exact .inl ⟨holds.named, ⟨node, present, isDirectory⟩,
    isRemovable_iff.mpr ⟨holds.changeable, holds.free⟩⟩

/-- Taking a directory away takes all that is in it and nothing else. -/
theorem CanRemove.remove (can : CanRemove host directory tree place)
    (simple : Path.IsSimpleName name) (ends : Path.EndsIn directory.path name)
    (proper : place ≠ []) :
    AgreeOutside (Below place) tree (directory.remove host tree) ∧
      ∀ below, Below place below → (directory.remove host tree).get? below = none := by
  obtain ⟨named, ⟨node, present, isDirectory⟩, removable⟩ | ⟨absent, gone⟩ := can
  · obtain ⟨octets, octetPath, resolved⟩ := (named?_of_endsIn simple ends).mp named
    have removed : directory.remove host tree = tree.erase place := by
      rw [BuildDirectory.remove, octetPath]
      dsimp only
      rw [removeAll, findNamed_eq_ok.mpr ⟨resolved, present⟩]
      simp [isDirectory, removable]
    rw [removed]
    refine ⟨.erase tree fun _ => id, fun below isBelow => ?_⟩
    have notTop : below ≠ [] := by
      rintro rfl
      exact proper (List.prefix_nil.mp isBelow)
    rw [get?_erase, if_neg notTop, if_pos (List.isPrefixOf_iff_prefix.mpr isBelow)]
  · obtain kept | ⟨found, node, named, present, -⟩ := remove_eq simple ends
    · rw [kept]
      exact ⟨.refl _ tree, gone⟩
    · rw [entryAt?, named, Option.bind_some, present] at absent
      cases absent

theorem CanRemove.named_join {more : String} {found : Location}
    (can : CanRemove host directory tree place) (simple : Path.IsSimpleName name)
    (ends : Path.EndsIn directory.path name) (proper : place ≠ [])
    (moreSimple : Path.IsSimpleName more) (short : more.length ≤ nameLimit)
    (named : tree.named? host.directory (Path.join directory.path more) = some found) :
    found = place ++ [more] ∧ tree.isChangeable found = true := by
  obtain ⟨atPlace, ⟨node, present, isDirectory⟩, removable⟩ | ⟨absent, -⟩ := can
  · have allowed := (isRemovable_iff.mp removable).2.allows proper present isDirectory
    have enters : tree.Enters place more := ⟨node, present, isDirectory, fun _ => allowed .execute⟩
    obtain ⟨last, lastPath, resolved⟩ :=
      (named?_of_endsIn moreSimple (Path.endsIn_join _ moreSimple)).mp named
    obtain rfl := resolve_join simple ends atPlace enters moreSimple short (.inr rfl) lastPath
      resolved
    refine ⟨rfl, ?_⟩
    rw [isChangeable, List.dropLast_concat, present]
    simp [allowed]
  · have some := entryAt?_of_join simple ends moreSimple named
    rw [absent] at some
    cases some

end BuildDirectory

end CallScript
