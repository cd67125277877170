import CallScript.Proofs.MovedFile
import CallScript.Proofs.Way

/-!
# Where a moved file arrives

A file with a single name is moved by name or not at all: where moving by name is refused, the copy
is refused as well. The one exception is a file that already stands at the target, in a directory
that allows no change.

* `FileTree.arrival`: where a path makes a name for a file, or why it makes none.
* `FileTree.moveFile_eq`: moving a file goes by its arrival.
* `FileTree.CopiesTo.not_isReplaceable`: a file is copied only in the case of the exception.
* `FileTree.arrivalAt_congr`: the arrival depends on the way of the path and its end only.
-/

namespace CallScript.FileTree

open Refusal

variable {tree other : FileTree} {directory old new : Location} {source target : String}
  {node : Inode} {cause : OsError}

/-- The location at which a path makes a name for a file. -/
def arrival (tree : FileTree) (directory : Location) (path : String) : Except OsError Location :=
  tree.resolveNew directory path >>= fun new =>
    if endsInDots path || Path.endsInSlash path || (tree.get? new).any (·.isDirectory) then
      .error .isDirectory
    else if tree.isChangeable new then .ok new
    else .error .permission

/-- What a path must fulfil for a file to arrive at a location. -/
structure Arrives (tree : FileTree) (directory : Location) (path : String) (new : Location) :
    Prop where
  resolved : tree.resolveNew directory path = .ok new
  noDots : endsInDots path = false
  noSlash : Path.endsInSlash path = false
  free : ∀ node, tree.get? new = some node → node.isDirectory = false
  changeable : tree.isChangeable new = true

theorem any_isDirectory_eq_false {place : Location} :
    (tree.get? place).any (·.isDirectory) = false ↔
      ∀ node, tree.get? place = some node → node.isDirectory = false := by
  cases tree.get? place <;> simp

theorem arrival_eq_ok : tree.arrival directory target = .ok new ↔
    tree.Arrives directory target new := by
  rw [arrival, bind_eq_ok]
  constructor
  · rintro ⟨place, resolved, h⟩
    rw [ite_error_eq_ok] at h
    obtain ⟨noDirectory, h⟩ := h
    simp only [Bool.not_eq_true, Bool.or_eq_false_iff] at noDirectory
    obtain ⟨⟨noDots, noSlash⟩, free⟩ := noDirectory
    split at h
    · next changeable =>
        cases h
        exact ⟨resolved, noDots, noSlash, any_isDirectory_eq_false.mp free, changeable⟩
    · cases h
  · intro arrives
    refine ⟨new, arrives.resolved, ?_⟩
    rw [arrives.noDots, arrives.noSlash, any_isDirectory_eq_false.mpr arrives.free,
      arrives.changeable]
    rfl

theorem arrival_eq_error (refused : tree.arrival directory target = .error cause) :
    tree.resolveNew directory target = .error cause ∨
      ∃ new, tree.resolveNew directory target = .ok new ∧
        (cause = .isDirectory ∧ (endsInDots target || Path.endsInSlash target ||
            (tree.get? new).any (·.isDirectory)) = true ∨
          cause = .permission ∧ endsInDots target = false ∧ Path.endsInSlash target = false ∧
            (tree.get? new).any (·.isDirectory) = false ∧ tree.isChangeable new = false) := by
  rw [arrival] at refused
  cases resolved : tree.resolveNew directory target with
  | error error =>
      rw [resolved] at refused
      exact .inl refused
  | ok new =>
      rw [resolved] at refused
      refine .inr ⟨new, rfl, ?_⟩
      dsimp only [bind, Except.bind] at refused
      split at refused
      · next isDirectory =>
          cases refused
          exact .inl ⟨rfl, isDirectory⟩
      next noDirectory =>
      simp only [Bool.not_eq_true, Bool.or_eq_false_iff] at noDirectory
      obtain ⟨⟨noDots, noSlash⟩, free⟩ := noDirectory
      split at refused
      · cases refused
      next unchangeable =>
      cases refused
      exact .inr ⟨rfl, noDots, noSlash, free, by simpa using unchangeable⟩

/-! ## A file with a single name -/

/-- A path leads to a file that has no other name and can be taken away from where it is. -/
structure IsLoose (tree : FileTree) (directory : Location) (path : String) (old : Location)
    (node : Inode) : Prop where
  resolved : tree.resolve directory path false = .ok old
  noDots : endsInDots path = false
  noSlash : Path.endsInSlash path = false
  found : tree.get? old = some node
  isFile : node.isFile = true
  alone : ∀ place, tree.number? place = tree.number? old → place = old
  changeable : tree.isChangeable old = true

theorem linkTarget?_of_isFile (isFile : node.isFile = true) : node.linkTarget? = none := by
  rw [Inode.isFile] at isFile
  rw [Inode.linkTarget?]
  split at isFile <;> simp_all

namespace IsLoose

theorem fromOld (loose : tree.IsLoose directory source old node) :
    tree.resolveNew directory source = .ok old := by
  rw [resolveNew_eq_resolve loose.noSlash, loose.resolved]

theorem find (loose : tree.IsLoose directory source old node) :
    tree.find directory source = .ok (old, node) := by
  have noLink : tree.linkAt? old = none := by
    rw [linkAt?, loose.found, Option.bind_some, linkTarget?_of_isFile loose.isFile]
  exact bind_eq_ok.mpr ⟨old, resolve_follow loose.resolved noLink, at?_eq_ok.mpr ⟨rfl, loose.found⟩⟩

theorem rename_eq (loose : tree.IsLoose directory source old node)
    (toNew : tree.resolveNew directory target = .ok new) (differ : new ≠ old) :
    tree.rename directory source target =
      if endsInDots target then .error .busy
      else if Path.endsInSlash target then .error .notDirectory
      else if new.isPrefixOf old then .error .notEmpty
      else if !tree.isChangeable new then .error .permission
      else if (tree.get? new).any (·.isDirectory) then .error .isDirectory
      else if tree.hasChildren new then .error .notEmpty
      else .ok (tree.move old new) := by
  have otherFile : tree.number? old ≠ tree.number? new :=
    fun same => differ (loose.alone new same.symm)
  rw [FileTree.rename_eq loose.fromOld toNew loose.found, loose.noDots, loose.noSlash,
    isDirectory_of_isFile loose.isFile, if_neg otherFile, loose.changeable]
  simp only [Bool.false_or, Bool.not_false, Bool.true_and, Bool.false_and, Bool.not_true,
    differ, ne_eq, not_false_eq_true, decide_true, Bool.false_eq_true, ↓reduceIte]

theorem rename_of_arrives (loose : tree.IsLoose directory source old node) (isTree : tree.IsTree)
    (arrives : tree.Arrives directory target new) (differ : new ≠ old) :
    tree.rename directory source target = .ok (tree.move old new) := by
  have notAbove := isTree.not_above_file arrives.free (by rw [loose.found]; rfl) differ
  rw [loose.rename_eq arrives.resolved differ, arrives.noDots, arrives.noSlash, notAbove,
    arrives.changeable, any_isDirectory_eq_false.mpr arrives.free,
    isTree.hasChildren_eq_false arrives.free]
  rfl

theorem rename_of_refused (loose : tree.IsLoose directory source old node)
    (refused : tree.arrival directory target = .error cause)
    (differ : ∀ new, tree.resolveNew directory target = .ok new → new ≠ old) :
    ∃ error, tree.rename directory source target = .error error := by
  obtain stops | ⟨new, toNew, reason⟩ := arrival_eq_error refused
  · refine ⟨cause, ?_⟩
    rw [rename, loose.fromOld, stops]
    rfl
  · rw [loose.rename_eq toNew (differ new toNew)]
    obtain ⟨-, isDirectory⟩ | ⟨-, noDots, noSlash, -, unchangeable⟩ := reason
    · simp only [Bool.or_eq_true] at isDirectory
      split
      · exact ⟨_, rfl⟩
      split
      · exact ⟨_, rfl⟩
      split
      · exact ⟨_, rfl⟩
      split
      · exact ⟨_, rfl⟩
      rw [if_pos (by simp_all)]
      exact ⟨_, rfl⟩
    · rw [noDots, noSlash, unchangeable]
      simp only [Bool.false_eq_true, Bool.not_false, ↓reduceIte]
      split
      · exact ⟨_, rfl⟩
      · exact ⟨_, rfl⟩

end IsLoose

/-! ## What stops the move stops the copy -/

theorem resolveFile_of_slash (slash : Path.endsInSlash target = true)
    (toNew : tree.resolveNew directory target = .ok new) :
    tree.resolveFile directory target = .error .isDirectory := by
  have nonempty : target.isEmpty = false := by
    rw [Path.endsInSlash, decide_eq_true_eq] at slash
    rw [String.isEmpty_eq_false_iff]
    rintro rfl
    cases slash
  rw [resolveFile, nonempty, slash, toNew]
  rfl

theorem resolveFile_of_resolve {place : Location} (noSlash : Path.endsInSlash target = false)
    (resolved : tree.resolve directory target true = .ok place) :
    tree.resolveFile directory target =
      match tree.get? place with
      | some node =>
          if node.isDirectory then .error .isDirectory
          else if node.allows .write then .ok place
          else .error .permission
      | none => if tree.isChangeable place then .ok place else .error .permission := by
  rw [resolveFile, noSlash, resolved, Bool.and_false]
  simp only [Bool.false_eq_true, ↓reduceIte]
  dsimp only [bind, Except.bind]
  cases tree.get? place with
  | some node => rfl
  | none =>
      rw [checkChangeable]
      cases tree.isChangeable place <;> rfl

theorem resolveFile_of_resolveNew_error (stops : tree.resolveNew directory target = .error cause) :
    tree.resolveFile directory target = .error cause := by
  cases slash : Path.endsInSlash target with
  | true =>
      rw [resolveFile, slash, stops]
      cases empty : target.isEmpty with
      | false => rfl
      | true =>
          obtain rfl : target = "" := by simpa using empty
          cases slash
  | false =>
      rw [resolveNew_eq_resolve slash] at stops
      rw [resolveFile, slash, resolve_error_follow stops, Bool.and_false]
      rfl

/-- A file can be written only where one can arrive, unless one is already there. -/
theorem resolveFile_of_refused (isTree : tree.IsTree)
    (spare : ∀ new node, tree.resolveNew directory target = .ok new → tree.get? new = some node →
      node.isDirectory = false → tree.isChangeable new = true)
    (refused : tree.arrival directory target = .error cause) :
    tree.resolveFile directory target = .error cause := by
  obtain stops | ⟨new, toNew, reason⟩ := arrival_eq_error refused
  · exact resolveFile_of_resolveNew_error stops
  cases slash : Path.endsInSlash target with
  | true =>
      rw [resolveFile_of_slash slash toNew]
      obtain ⟨rfl, -⟩ | ⟨-, -, noSlash, -⟩ := reason
      · rfl
      · rw [slash] at noSlash
        cases noSlash
  | false =>
      -- neither a directory nor what is absent is a link, so the path leads to the same location
      -- whether a last link is followed or not
      have unfollowed : tree.resolve directory target false = .ok new := by
        rwa [← resolveNew_eq_resolve slash]
      obtain ⟨rfl, isDirectory⟩ | ⟨rfl, -, -, free, unchangeable⟩ := reason
      · have stands : ∃ node, tree.get? new = some node ∧ node.isDirectory = true := by
          rw [slash, Bool.or_false, Bool.or_eq_true] at isDirectory
          obtain dots | there := isDirectory
          · obtain ⟨-, -, leads⟩ := resolve_eq_ok_iff.mp unfollowed
            rw [endsInDots, Path.trimSlashes_eq_self slash, List.contains_iff_mem] at dots
            exact leads.directory_of_dots isTree dots
          · exact (Option.any_eq_true _ _).mp there
        obtain ⟨node, found, isDirectory⟩ := stands
        have noLink := linkAt?_of_isDirectory found isDirectory
        rw [resolveFile_of_resolve slash (resolve_follow unfollowed noLink), found]
        simp [isDirectory]
      · have absent : tree.get? new = none := by
          cases found : tree.get? new with
          | none => rfl
          | some node =>
              have allowed := spare new node toNew found
                (any_isDirectory_eq_false.mp free node found)
              rw [unchangeable] at allowed
              cases allowed
        have noLink := linkAt?_of_absent absent
        rw [resolveFile_of_resolve slash (resolve_follow unfollowed noLink), absent]
        simp [unchangeable]

def arrivalAt (tree : FileTree) (directory : Location) (path : String) : Except IoError Location :=
  pathOf path >>= fun octets => (tree.arrival directory octets).mapError .os

/-- The location at which a path makes a name allows changes, if a file stands there. -/
def IsReplaceable (tree : FileTree) (directory : Location) (path : String) : Prop :=
  ∀ new node, tree.named? directory path = some new → tree.get? new = some node →
    node.isDirectory = false → tree.isChangeable new = true

def unmoved (node : Inode) (cause : IoError) : IoError :=
  if node.allows .read then cause else .os .permission

/-- What moving a file to where it arrives comes to. -/
def moveTo (tree : FileTree) (old : Location) (node : Inode) :
    Except IoError Location → EStateM.Result IoError FileTree Unit
  | .ok new => .ok () (tree.move old new)
  | .error cause => .error (unmoved node cause) tree

theorem IsLoose.openCopy_error {cause : IoError} (loose : tree.IsLoose directory source old node)
    (sourcePath : pathOf source = .ok source)
    (stops : (pathOf target >>= fun octets => (tree.resolveFile directory octets).mapError .os) =
      .error cause) :
    tree.openCopy directory source target = .error (unmoved node cause) := by
  unfold openCopy unmoved
  rw [sourcePath]
  dsimp only [bind, Except.bind]
  rw [loose.find]
  dsimp only [Except.mapError]
  rw [loose.isFile]
  cases readable : node.allows .read with
  | false => rfl
  | true =>
      cases targetPath : pathOf target with
      | error error =>
          rw [targetPath] at stops
          cases stops
          rfl
      | ok octets =>
          rw [targetPath] at stops
          cases written : tree.resolveFile directory octets with
          | error error =>
              simp only [bind, Except.bind, written] at stops
              cases stops
              simp only [written, Bool.not_true, Bool.false_eq_true, ↓reduceIte]
          | ok place =>
              simp only [bind, Except.bind, written] at stops
              cases stops

theorem moveFile_of_openCopy_error {cause : IoError} (breaks : Breaks)
    (refused : pathOf target = .ok target →
      ∃ error, tree.rename directory source target = .error error)
    (stops : tree.openCopy directory source target = .error cause) :
    tree.moveFile breaks directory source target = .error cause tree := by
  obtain ⟨moved, -, targetPath, moves, -⟩ | ⟨error, sameStop, isError⟩ |
      ⟨place, ⟨⟨taken, node, opened⟩, -⟩, -⟩ := moveFile_cases tree breaks directory source target
  · obtain ⟨error, refused⟩ := refused targetPath
    cases moves.symm.trans refused
  · cases stops.symm.trans sameStop
    exact isError
  · cases stops.symm.trans opened

/-- A file with a single name is moved to where it arrives. Where it does not, nothing is changed,
and the error says why, or that the file cannot be read. -/
theorem moveFile_eq (isTree : tree.IsTree) (breaks : Breaks)
    (sourcePath : pathOf source = .ok source) (loose : tree.IsLoose directory source old node)
    (differ : ∀ new, tree.named? directory target = some new → new ≠ old)
    (replaceable : tree.IsReplaceable directory target) :
    tree.moveFile breaks directory source target =
      tree.moveTo old node (tree.arrivalAt directory target) := by
  rw [arrivalAt]
  cases targetPath : pathOf target with
  | error cause =>
      dsimp only [bind, Except.bind]
      refine moveFile_of_openCopy_error breaks (fun isPath => ?_)
        (loose.openCopy_error sourcePath (by rw [targetPath]; rfl))
      cases targetPath.symm.trans isPath
  | ok octets =>
      obtain rfl := pathOf_eq_ok targetPath
      have named (new : Location) (toNew : tree.resolveNew directory target = .ok new) :
          tree.named? directory target = some new := named?_eq_some.mpr ⟨target, targetPath, toNew⟩
      have differ (new : Location) (toNew : tree.resolveNew directory target = .ok new) :
          new ≠ old := differ new (named new toNew)
      dsimp only [bind, Except.bind]
      cases arrives : tree.arrival directory target with
      | ok new =>
          have arrives := arrival_eq_ok.mp arrives
          rw [moveFile, sourcePath, targetPath]
          dsimp only
          rw [loose.rename_of_arrives isTree arrives (differ new arrives.resolved)]
          rfl
      -- where the move is refused a copy is tried, and what stops the move stops it too
      | error cause =>
          refine moveFile_of_openCopy_error breaks
            (fun _ => loose.rename_of_refused arrives differ) (loose.openCopy_error sourcePath ?_)
          rw [targetPath]
          dsimp only [bind, Except.bind]
          rw [resolveFile_of_refused isTree (fun new node toNew => replaceable new node
            (named new toNew)) arrives]
          rfl

/-- A file is copied and not moved by name only if something stands at the target, in a directory
that allows no change. -/
theorem CopiesTo.not_isReplaceable {place : Location} (isTree : tree.IsTree)
    (noSlash : Path.endsInSlash source = false) (noDots : endsInDots source = false)
    (changeable : ∀ old, tree.named? directory source = some old → tree.isChangeable old = true)
    (copies : tree.CopiesTo directory source target place) :
    ¬tree.IsReplaceable directory target := by
  intro replaceable
  obtain ⟨⟨taken, node, opened⟩, notMoved⟩ := copies
  obtain ⟨sourcePath, targetPath, -, -, resolved⟩ := openCopy_eq_ok opened
  obtain ⟨moved, moves⟩ | ⟨-, old, new, fromOld, toNew, unchangeable⟩ :=
    rename_of_openCopy isTree noSlash noDots opened
  · exact notMoved moved moves
  have allowed := changeable old (named?_eq_some.mpr ⟨source, sourcePath, fromOld⟩)
  have unchangeable : tree.isChangeable new = false := unchangeable.resolve_left (by simp [allowed])
  obtain ⟨new', toNew', free⟩ := named_of_resolveFile resolved
  obtain rfl := Except.ok.inj (toNew.symm.trans toNew')
  cases found : tree.get? new with
  | some seen =>
      rw [replaceable new seen (named?_eq_some.mpr ⟨target, targetPath, toNew⟩) found
        (free seen found)] at unchangeable
      cases unchangeable
  -- a file that is not there cannot be made where the name cannot be made
  | none =>
      have noSlash := (resolveFile_eq_ok resolved).1
      rw [resolveNew_eq_resolve noSlash] at toNew
      rw [resolveFile_of_resolve noSlash (resolve_follow toNew (linkAt?_of_absent found)), found,
        unchangeable] at resolved
      cases resolved

/-! ## What the arrival depends on -/

namespace Arrives

theorem proper (arrives : tree.Arrives directory target new) : new ≠ [] :=
  resolveNew_ne_nil arrives.noDots arrives.resolved

theorem directory_dropLast (arrives : tree.Arrives directory target new) :
    ∃ node, tree.get? new.dropLast = some node ∧ node.isDirectory = true := by
  have resolved := arrives.resolved
  rw [resolveNew_eq_resolve arrives.noSlash] at resolved
  obtain ⟨-, -, leads⟩ := resolve_eq_ok_iff.mp resolved
  obtain ⟨name, last⟩ : ∃ name, (Path.pieces target).getLast? = some name :=
    Option.isSome_iff_exists.mp (by simp [Path.pieces, Text.pieces_ne_nil])
  refine leads.directory_dropLast last fun dots => ?_
  have noDots := arrives.noDots
  rw [endsInDots, Path.trimSlashes_eq_self arrives.noSlash, last] at noDots
  simp_all

end Arrives

section

variable {path : String}

theorem arrivalAt_eq_ok : tree.arrivalAt directory path = .ok new ↔
    ∃ octets, pathOf path = .ok octets ∧ tree.Arrives directory octets new := by
  simp only [arrivalAt, bind_eq_ok, mapError_eq_ok, arrival_eq_ok]

theorem named?_of_arrivalAt (arrives : tree.arrivalAt directory path = .ok new) :
    tree.named? directory path = some new := by
  obtain ⟨octets, octetPath, arrives⟩ := arrivalAt_eq_ok.mp arrives
  exact named?_eq_some.mpr ⟨octets, octetPath, arrives.resolved⟩

/-- The locations that are looked at for the name that a path makes. -/
def wayTo (tree : FileTree) (directory : Location) (path : String) : List Location :=
  tree.way directory (Path.trimSlashes path) false

theorem named?_congr (agree : AgreeAt (tree.wayTo directory path) tree other) :
    other.named? directory path = tree.named? directory path := by
  rw [named?, named?]
  cases octetPath : pathOf path with
  | error cause => simp only [Except.toOption, Option.bind_none]
  | ok octets =>
      obtain rfl := pathOf_eq_ok octetPath
      have same : other.resolveNew directory path = tree.resolveNew directory path :=
        resolveNew_congr agree
      simp only [Except.toOption, Option.bind_some, same]

theorem arrivalAt_congr (agree : AgreeAt (tree.wayTo directory path) tree other)
    (ends : ∀ new : Location, tree.named? directory path = some new →
      other.get? new.dropLast = tree.get? new.dropLast ∧
        (other.get? new).any Inode.isDirectory = (tree.get? new).any Inode.isDirectory) :
    other.arrivalAt directory path = tree.arrivalAt directory path := by
  rw [arrivalAt, arrivalAt]
  dsimp only [bind, Except.bind]
  cases octetPath : pathOf path with
  | error cause => rfl
  | ok octets =>
      obtain rfl := pathOf_eq_ok octetPath
      have same : other.arrival directory path = tree.arrival directory path := by
        rw [arrival, arrival, resolveNew_congr agree]
        dsimp only [bind, Except.bind]
        cases toNew : tree.resolveNew directory path with
        | error cause => rfl
        | ok new =>
            obtain ⟨sameAbove, sameKind⟩ := ends new (named?_eq_some.mpr ⟨_, octetPath, toNew⟩)
            dsimp only
            rw [sameKind, isChangeable, isChangeable, sameAbove]
      dsimp only
      rw [same]

end

end CallScript.FileTree
