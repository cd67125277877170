import CallScript.Proofs.Agreement
import CallScript.Proofs.Refusal

/-!
# Moving a file

What moving by name and copying do to a tree, and when they are refused. A copy that fails can leave
a file that is emptied or filled in part.

* `FileTree.rename_eq_ok`: a node that is moved by name stands at the new place.
* `FileTree.rename_of_openCopy`: a file can only be copied where it could be moved by name, if that
  is permitted.
* `FileTree.moveFile_ok_agree`, `FileTree.moveFile_error_agree`: only the file itself, the place it
  goes to and the file that a copy writes to are changed.
-/

namespace CallScript.FileTree

open Refusal

variable {tree after : FileTree} {directory old new : Location} {source target : String}
  {node : Inode}

/-! ## Paths -/

theorem pathOf_eq_ok {path octets : String} (h : pathOf path = .ok octets) : path = octets := by
  unfold pathOf at h
  split at h
  · cases h
  · cases h
    rfl

theorem not_endsInDots_of_endsIn {path name : String} (simple : Path.IsSimpleName name)
    (ends : Path.EndsIn path name) : endsInDots path = false := by
  rw [endsInDots, Path.trimSlashes_eq_self (ends.not_endsInSlash simple), ends.pieces simple]
  have := simple.proper
  simp_all

theorem named?_eq_some {path : String} {place : Location} :
    tree.named? directory path = some place ↔
      ∃ octets, pathOf path = .ok octets ∧ tree.resolveNew directory octets = .ok place := by
  simp [named?, Option.bind_eq_some_iff, toOption_eq_some]

/-! ## Moving by name -/

theorem rename_eq (fromOld : tree.resolveNew directory source = .ok old)
    (toNew : tree.resolveNew directory target = .ok new) (found : tree.get? old = some node) :
    tree.rename directory source target =
      if endsInDots source || endsInDots target then .error .busy
      else if !node.isDirectory && (Path.endsInSlash source || Path.endsInSlash target) then
        .error .notDirectory
      else if node.isDirectory && old ≠ new && old.isPrefixOf new then .error .invalid
      else if new ≠ old && new.isPrefixOf old then .error .notEmpty
      else if tree.number? old = tree.number? new then .ok tree
      else if !tree.isChangeable old || !tree.isChangeable new then .error .permission
      else if node.isDirectory && (tree.get? new).any (!·.isDirectory) then .error .notDirectory
      else if !node.isDirectory && (tree.get? new).any (·.isDirectory) then .error .isDirectory
      else if node.isDirectory && old.dropLast ≠ new.dropLast && !node.allows .write then
        .error .permission
      else if tree.hasChildren new then .error .notEmpty
      else .ok (tree.move old new) := by
  unfold rename
  simp -zeta -zetaHave only [throw_ite]
  rw [fromOld, toNew]
  simp only [at?, found, checkChangeable, bind, Except.bind, pure, Except.pure]
  cases tree.isChangeable old <;> cases tree.isChangeable new <;> cases tree.get? new <;>
    simp only [Option.any_none, Option.any_some, Bool.not_true, Bool.not_false, Bool.or_true,
      Bool.or_false, Bool.and_false, Bool.false_eq_true, ↓reduceIte]

theorem rename_resolves (h : tree.rename directory source target = .ok after) :
    ∃ old new node, tree.resolveNew directory source = .ok old ∧
      tree.resolveNew directory target = .ok new ∧ tree.get? old = some node := by
  unfold rename at h
  cases fromOld : tree.resolveNew directory source with
  | error e => rw [fromOld] at h; cases h
  | ok old =>
      cases toNew : tree.resolveNew directory target with
      | error e => rw [fromOld, toNew] at h; cases h
      | ok new =>
          simp -zeta -zetaHave only [throw_ite] at h
          rw [fromOld, toNew] at h
          cases found : tree.get? old with
          | some node => exact ⟨old, new, node, rfl, rfl, found⟩
          | none =>
              simp only [at?, found, bind, Except.bind] at h
              split at h <;> cases h

theorem resolveNew_ne_nil {path : String} {place : Location} (noDots : endsInDots path = false)
    (resolved : tree.resolveNew directory path = .ok place) : place ≠ [] := by
  obtain ⟨trimmed, -⟩ | resolved := resolveNew_eq_ok resolved
  · rw [endsInDots, trimmed] at noDots
    exact absurd noDots (by decide)
  · obtain ⟨-, -, leads⟩ := resolve_eq_ok_iff.mp resolved
    obtain ⟨name, last⟩ : ∃ name, (Path.pieces (Path.trimSlashes path)).getLast? = some name :=
      Option.isSome_iff_exists.mp (by simp [Path.pieces, Text.pieces_ne_nil])
    have isName : name ∉ ["", ".", ".."] := by
      rw [endsInDots, last] at noDots
      simpa using noDots
    obtain ⟨above, split⟩ := leads.last_name last isName
    simp [split]

/-- Moving by name puts the node of the old place, with all below it, at the new place. -/
theorem rename_eq_ok (h : tree.rename directory source target = .ok after) :
    ∃ old new node, tree.resolveNew directory source = .ok old ∧
      tree.resolveNew directory target = .ok new ∧ tree.get? old = some node ∧
      after.get? new = some node ∧
      AgreeOutside (fun place => Below old place ∨ Below new place) tree after := by
  obtain ⟨old, new, node, fromOld, toNew, found⟩ := rename_resolves h
  refine ⟨old, new, node, fromOld, toNew, found, ?_⟩
  rw [rename_eq fromOld toNew found] at h
  simp only [ite_error_eq_ok, Bool.or_eq_true, not_or, Bool.not_eq_true] at h
  obtain ⟨⟨sourceNoDots, targetNoDots⟩, -, -, -, h⟩ := h
  have oldProper := resolveNew_ne_nil sourceNoDots fromOld
  have newProper := resolveNew_ne_nil targetNoDots toNew
  split at h
  · next sameFile =>
      cases h
      refine ⟨?_, .refl _ tree⟩
      rw [get?, if_neg newProper, ← sameFile]
      rw [get?, if_neg oldProper] at found
      exact found
  · simp only [ite_error_eq_ok] at h
    obtain ⟨-, -, -, -, -, moved⟩ := h
    cases moved
    refine ⟨?_, .move tree oldProper (fun _ => .inl) (fun _ => .inr)⟩
    rw [get?_move_self tree oldProper newProper, found]

/-! ## Copying -/

theorem resolveFile_eq_ok {place : Location} (h : tree.resolveFile directory target = .ok place) :
    Path.endsInSlash target = false ∧ tree.resolve directory target true = .ok place ∧
      ∀ node, tree.get? place = some node → node.isDirectory = false := by
  unfold resolveFile at h
  split at h
  · obtain ⟨_, -, thrown⟩ := bind_eq_ok.mp h
    cases thrown
  next noSlash =>
  obtain ⟨found, resolved, h⟩ := bind_eq_ok.mp h
  have same : found = place ∧ ∀ node, tree.get? found = some node → node.isDirectory = false := by
    cases present : tree.get? found with
    | none =>
        rw [present] at h
        obtain ⟨_, -, returned⟩ := bind_eq_ok.mp h
        cases returned
        exact ⟨rfl, nofun⟩
    | some node =>
        rw [present] at h
        dsimp only at h
        split at h
        · cases h
        next noDirectory =>
        split at h
        · cases h
          refine ⟨rfl, fun other same => ?_⟩
          cases same
          simpa using noDirectory
        · cases h
  obtain ⟨rfl, noDirectory⟩ := same
  obtain ⟨nonempty, -⟩ := resolve_eq_ok_iff.mp resolved
  exact ⟨by simpa [nonempty] using noSlash, resolved, noDirectory⟩

theorem openCopy_eq_ok {taken place : Location}
    (h : tree.openCopy directory source target = .ok (taken, node, place)) :
    pathOf source = .ok source ∧ pathOf target = .ok target ∧
      tree.find directory source = .ok (taken, node) ∧ node.isFile = true ∧
      tree.resolveFile directory target = .ok place := by
  unfold openCopy at h
  simp -zeta -zetaHave only [throw_ite] at h
  obtain ⟨old, oldPath, h⟩ := bind_eq_ok.mp h
  obtain ⟨⟨spot, seen⟩, found, h⟩ := bind_eq_ok.mp h
  simp only [ite_error_eq_ok] at h
  obtain ⟨-, isFile, h⟩ := h
  obtain ⟨new, newPath, h⟩ := bind_eq_ok.mp h
  obtain ⟨file, resolved, h⟩ := bind_eq_ok.mp h
  cases h
  obtain rfl := pathOf_eq_ok oldPath
  obtain rfl := pathOf_eq_ok newPath
  exact ⟨oldPath, newPath, mapError_eq_ok.mp found, by simpa using isFile,
    mapError_eq_ok.mp resolved⟩

theorem at?_eq_ok {place taken : Location} :
    tree.at? place = .ok (taken, node) ↔ place = taken ∧ tree.get? place = some node := by
  rw [at?]
  cases tree.get? place <;> simp

theorem named_of_find {path : String} {taken : Location}
    (found : tree.find directory path = .ok (taken, node))
    (noDirectory : node.isDirectory = false) :
    ∃ old seen, tree.resolve directory path false = .ok old ∧ tree.get? old = some seen ∧
      seen.isDirectory = false := by
  obtain ⟨place, followed, isAt⟩ := bind_eq_ok.mp found
  obtain ⟨old, unfollowed⟩ := resolve_unfollowed followed
  obtain ⟨rfl, present⟩ := at?_eq_ok.mp isAt
  have same (noLink : tree.linkAt? old = none) : tree.get? old = some node := by
    have again := resolve_follow unfollowed noLink
    rw [followed] at again
    rwa [← Except.ok.inj again]
  cases seenAt : tree.get? old with
  | none =>
      rw [same (by rw [linkAt?, seenAt]; rfl)] at seenAt
      cases seenAt
  | some seen =>
      refine ⟨old, seen, unfollowed, seenAt, ?_⟩
      by_contra isDirectory
      rw [Bool.not_eq_false] at isDirectory
      rw [same (linkAt?_of_isDirectory seenAt isDirectory), Option.some.injEq] at seenAt
      rw [seenAt, isDirectory] at noDirectory
      cases noDirectory

theorem named_of_resolveFile {place : Location}
    (h : tree.resolveFile directory target = .ok place) :
    ∃ new, tree.resolveNew directory target = .ok new ∧
      ∀ node, tree.get? new = some node → node.isDirectory = false := by
  obtain ⟨noSlash, followed, noDirectory⟩ := resolveFile_eq_ok h
  obtain ⟨new, unfollowed⟩ := resolve_unfollowed followed
  refine ⟨new, by rwa [resolveNew_eq_resolve noSlash], fun node found => ?_⟩
  by_contra isDirectory
  rw [Bool.not_eq_false] at isDirectory
  have again := resolve_follow unfollowed (linkAt?_of_isDirectory found isDirectory)
  rw [followed] at again
  cases again
  rw [noDirectory node found] at isDirectory
  cases isDirectory

theorem not_endsInDots_of_resolveFile (isTree : tree.IsTree) {place : Location}
    (h : tree.resolveFile directory target = .ok place) : endsInDots target = false := by
  obtain ⟨noSlash, followed, noDirectory⟩ := resolveFile_eq_ok h
  obtain ⟨-, -, leads⟩ := resolve_eq_ok_iff.mp followed
  by_contra dots
  rw [Bool.not_eq_false, endsInDots, Path.trimSlashes_eq_self noSlash,
    List.contains_iff_mem] at dots
  obtain ⟨node, found, isDirectory⟩ := leads.directory_of_dots isTree dots
  rw [noDirectory node found] at isDirectory
  cases isDirectory

theorem isDirectory_of_isFile (isFile : node.isFile = true) : node.isDirectory = false := by
  rw [Inode.isFile] at isFile
  rw [Inode.isDirectory]
  split at isFile <;> simp_all

theorem rename_of_openCopy (isTree : tree.IsTree) (noSlash : Path.endsInSlash source = false)
    (noDots : endsInDots source = false) {taken place : Location}
    (opened : tree.openCopy directory source target = .ok (taken, node, place)) :
    (∃ moved, tree.rename directory source target = .ok moved) ∨
      tree.rename directory source target = .error .permission ∧
        ∃ old new, tree.resolveNew directory source = .ok old ∧
          tree.resolveNew directory target = .ok new ∧
          (tree.isChangeable old = false ∨ tree.isChangeable new = false) := by
  obtain ⟨-, -, found, isFile, resolved⟩ := openCopy_eq_ok opened
  obtain ⟨old, seen, unfollowed, seenAt, noDirectory⟩ :=
    named_of_find found (isDirectory_of_isFile isFile)
  obtain ⟨new, toNew, newFree⟩ := named_of_resolveFile resolved
  have fromOld : tree.resolveNew directory source = .ok old := by
    rw [resolveNew_eq_resolve noSlash, unfollowed]
  have notAbove : (new ≠ old && new.isPrefixOf old) = false := by
    by_cases same : new = old
    · simp [same]
    · rw [isTree.not_above_file newFree (by rw [seenAt]; rfl) same, Bool.and_false]
  have noChildren : tree.hasChildren new = false := isTree.hasChildren_eq_false newFree
  have replaced : (tree.get? new).any (·.isDirectory) = false := by
    cases found : tree.get? new with
    | none => rfl
    | some other => exact newFree other found
  -- of all that can stop the move only a permission is left
  rw [rename_eq fromOld toNew seenAt, noDots, not_endsInDots_of_resolveFile isTree resolved,
    noSlash, (resolveFile_eq_ok resolved).1, noDirectory, notAbove, noChildren, replaced]
  simp only [Bool.or_false, Bool.and_false, Bool.false_and, Bool.false_eq_true, ↓reduceIte]
  split
  · exact .inl ⟨_, rfl⟩
  split
  · next refused => exact .inr ⟨rfl, old, new, fromOld, toNew, by simpa using refused⟩
  · exact .inl ⟨_, rfl⟩

/-! ### What a copy writes to -/

/-- The location, or another name of the file there. -/
def NamesFileAt (tree : FileTree) (place other : Location) : Prop :=
  other = place ∨ ∃ number, tree.number? place = some number ∧ tree.number? other = some number

/-- The tree that an operation leaves, whether it fails or not. -/
def leftBy : EStateM.Result IoError FileTree Unit → FileTree
  | .ok _ tree => tree
  | .error _ tree => tree

/-- The tree that an operation leaves if it does not fail. -/
def doneBy : EStateM.Result IoError FileTree Unit → Except IoError FileTree
  | .ok _ tree => .ok tree
  | .error cause _ => .error cause

section

variable {place other : Location} {content : ByteArray} {mode : Nat}

theorem NamesFileAt.of_overwrite
    (names : (tree.overwrite place content mode).NamesFileAt place other) :
    tree.NamesFileAt place other := by
  obtain same | ⟨number, here, there⟩ := names
  · exact .inl same
  unfold overwrite at here there
  cases known : tree.number? place with
  | some written =>
      rw [known] at here there
      exact .inr ⟨number, here, there⟩
  -- a new file has no other name
  | none =>
      rw [known] at here there
      rw [number?_put, if_pos rfl, Option.some.injEq] at here
      rw [number?_put] at there
      split at there
      · next isPlace => exact .inl isPlace
      · exact absurd (here ▸ number?_lt there) (Nat.lt_irrefl _)

theorem number?_setMode (tree : FileTree) (place other : Location) (mode : Nat) :
    (tree.setMode place mode).number? other = tree.number? other := by
  unfold setMode
  split <;> rfl

theorem NamesFileAt.of_setMode (names : (tree.setMode place mode).NamesFileAt place other) :
    tree.NamesFileAt place other := by
  simpa only [NamesFileAt, number?_setMode] using names

theorem AgreeOutside.overwrite (tree : FileTree) (place : Location) (content : ByteArray)
    (mode : Nat) :
    AgreeOutside (tree.NamesFileAt place) tree (tree.overwrite place content mode) := by
  unfold FileTree.overwrite
  cases number : tree.number? place with
  | some written => exact .update tree _ fun other same => .inr ⟨written, number, same⟩
  | none => exact .put tree _ (.inl rfl)

theorem AgreeOutside.setMode (tree : FileTree) (place : Location) (mode : Nat) :
    AgreeOutside (tree.NamesFileAt place) tree (tree.setMode place mode) := by
  unfold FileTree.setMode
  cases number : tree.number? place with
  | some written => exact .update tree _ fun other same => .inr ⟨written, number, same⟩
  | none => exact .refl _ tree

/-- A copy changes nothing but the file that it writes to, wherever it breaks off. -/
theorem copyFile_agree {taken : Location} (breaks : Breaks)
    (opened : tree.openCopy directory source target = .ok (taken, node, place)) :
    AgreeOutside (tree.NamesFileAt place) tree
      (leftBy (tree.copyFile breaks directory source target)) := by
  have emptied := AgreeOutside.overwrite tree place .empty node.mode
  have ready := emptied.trans
    ((AgreeOutside.setMode _ place node.mode).mono fun _ names => names.of_overwrite)
  have filled (content : ByteArray) := ready.trans
    ((AgreeOutside.overwrite _ place content node.mode).mono
      fun _ names => names.of_setMode.of_overwrite)
  unfold copyFile
  rw [opened]
  dsimp only
  split
  · exact emptied
  · split
    · exact filled _
    · exact filled _

/-- The file of another user is emptied before its mode is refused. -/
example :
    let new : Inode := ⟨.file "new".toUTF8, 0o755, true, 0⟩
    let old : Inode := ⟨.file "old".toUTF8, 0o666, false, 0⟩
    let tree := (empty.put ["new"] new).put ["old"] old
    ((leftBy (tree.copyFile (fun _ _ => none) [] "new" "old")).get? ["old"]).map Inode.content =
      some .empty := by
  decide +kernel

end

/-! ## Moving -/

/-- A file is not moved by name but copied, to the location that its target leads to. -/
def CopiesTo (tree : FileTree) (directory : Location) (source target : String)
    (place : Location) : Prop :=
  (∃ taken node, tree.openCopy directory source target = .ok (taken, node, place)) ∧
    ∀ moved, tree.rename directory source target ≠ .ok moved

/-- A file is moved by name, or nothing is changed, or it is copied. -/
theorem moveFile_cases (tree : FileTree) (breaks : Breaks) (directory : Location)
    (source target : String) :
    (∃ moved, pathOf source = .ok source ∧ pathOf target = .ok target ∧
        tree.rename directory source target = .ok moved ∧
        tree.moveFile breaks directory source target = .ok () moved) ∨
      (∃ cause, tree.openCopy directory source target = .error cause ∧
        tree.moveFile breaks directory source target = .error cause tree) ∨
      ∃ place, tree.CopiesTo directory source target place ∧
        tree.moveFile breaks directory source target =
          tree.copyFile breaks directory source target := by
  by_cases renamed : ∃ moved, pathOf source = .ok source ∧ pathOf target = .ok target ∧
      tree.rename directory source target = .ok moved
  · obtain ⟨moved, sourcePath, targetPath, moves⟩ := renamed
    refine .inl ⟨moved, sourcePath, targetPath, moves, ?_⟩
    rw [moveFile, sourcePath, targetPath]
    dsimp only
    rw [moves]
  have copies : tree.moveFile breaks directory source target =
      tree.copyFile breaks directory source target := by
    unfold moveFile
    split
    · next old new oldPath newPath =>
        obtain rfl := pathOf_eq_ok oldPath
        obtain rfl := pathOf_eq_ok newPath
        split
        · next moved moves => exact absurd ⟨moved, oldPath, newPath, moves⟩ renamed
        · rfl
    · rfl
  refine .inr ?_
  cases opened : tree.openCopy directory source target with
  | error cause => exact .inl ⟨cause, rfl, by rw [copies, copyFile, opened]⟩
  | ok done =>
      obtain ⟨taken, node, place⟩ := done
      obtain ⟨sourcePath, targetPath, -⟩ := openCopy_eq_ok opened
      exact .inr ⟨place, ⟨⟨taken, node, opened⟩,
        fun moved moves => renamed ⟨moved, sourcePath, targetPath, moves⟩⟩, copies⟩

/-- Where a refused permission also stops the copy, a file is moved by name or nothing is
changed. -/
theorem moveFile_of_refused (isTree : tree.IsTree) (breaks : Breaks) {name : String}
    (simple : Path.IsSimpleName name) (ends : Path.EndsIn source name)
    (refused : pathOf source = .ok source → pathOf target = .ok target →
      tree.rename directory source target = .error .permission →
      ∃ cause, tree.copyFile breaks directory source target = .error cause tree) :
    (∃ moved, pathOf source = .ok source ∧ pathOf target = .ok target ∧
        tree.rename directory source target = .ok moved ∧
        tree.moveFile breaks directory source target = .ok () moved) ∨
      ∃ cause, tree.moveFile breaks directory source target = .error cause tree := by
  obtain moves | ⟨cause, -, stops⟩ | ⟨place, ⟨⟨taken, node, opened⟩, notMoved⟩, copies⟩ :=
    moveFile_cases tree breaks directory source target
  · exact .inl moves
  · exact .inr ⟨cause, stops⟩
  have noSlash := ends.not_endsInSlash simple
  have noDots := not_endsInDots_of_endsIn simple ends
  obtain ⟨sourcePath, targetPath, -⟩ := openCopy_eq_ok opened
  obtain ⟨moved, moves⟩ | ⟨noPermission, -⟩ := rename_of_openCopy isTree noSlash noDots opened
  · exact absurd moves (notMoved moved)
  · obtain ⟨cause, stops⟩ := refused sourcePath targetPath noPermission
    exact .inr ⟨cause, copies.trans stops⟩

/-- The location is a name of the file that a copy is written to. -/
def Overwrites (tree : FileTree) (directory : Location) (source target : String)
    (place : Location) : Prop :=
  ∃ file, tree.CopiesTo directory source target file ∧ tree.NamesFileAt file place

theorem CopiesTo.agree {file : Location} (copies : tree.CopiesTo directory source target file)
    (breaks : Breaks) :
    AgreeOutside (tree.Overwrites directory source target) tree
      (leftBy (tree.copyFile breaks directory source target)) := by
  obtain ⟨taken, node, opened⟩ := copies.1
  exact (copyFile_agree breaks opened).mono fun _ names => ⟨file, copies, names⟩

section

variable {breaks : Breaks} {region : Location → Prop}
  (overwritten : ∀ place, tree.Overwrites directory source target place → region place)
include overwritten

/-- Moving a file changes nothing but where it comes from and where it goes to, and the file that is
overwritten by a copy. -/
theorem moveFile_ok_agree (h : tree.moveFile breaks directory source target = .ok () after)
    (given : ∀ new place, tree.named? directory target = some new → Below new place → region place)
    (taken : ∀ old place, tree.named? directory source = some old → Below old place →
      region place) : AgreeOutside region tree after := by
  obtain ⟨moved, sourcePath, targetPath, moves, isMoved⟩ | ⟨cause, -, stops⟩ |
      ⟨file, copies, isCopy⟩ := moveFile_cases tree breaks directory source target
  · cases h.symm.trans isMoved
    obtain ⟨old, new, node, fromOld, toNew, -, -, agree⟩ := rename_eq_ok moves
    have named : tree.named? directory source = some old :=
      named?_eq_some.mpr ⟨source, sourcePath, fromOld⟩
    have goes : tree.named? directory target = some new :=
      named?_eq_some.mpr ⟨target, targetPath, toNew⟩
    exact agree.mono fun place => Or.rec (taken old place named) (given new place goes)
  · cases h.symm.trans stops
  · have agree := copies.agree breaks
    rw [← isCopy, h] at agree
    exact agree.mono overwritten

theorem moveFile_error_agree {cause : IoError}
    (h : tree.moveFile breaks directory source target = .error cause after) :
    AgreeOutside region tree after := by
  obtain ⟨moved, -, -, -, isMoved⟩ | ⟨cause, -, stops⟩ | ⟨file, copies, isCopy⟩ :=
    moveFile_cases tree breaks directory source target
  · cases h.symm.trans isMoved
  · cases h.symm.trans stops
    exact .refl _ tree
  · have agree := copies.agree breaks
    rw [← isCopy, h] at agree
    exact agree.mono overwritten

end

end CallScript.FileTree
